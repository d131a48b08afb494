import DashAgent.Proofs.Resource.Queries
import DashAgent.Proofs.Switch.FlushInvariant
import DashAgent.Proofs.Switch.Requests

/-!
# The settings of a switch

Requests change what a simulated switch holds, but not how it is set up. Its answers to queries
depend on these settings and on the number of objects of each type, and on nothing else.
-/
namespace DashAgent

/-- How a table is set up: its own size, whether availability queries are answered, and what they
are answered with. -/
def Pool.settings (p : Pool) : Option Nat × Bool × Option Nat :=
  (p.capacity, p.supported, p.availability)

theorem Pool.settings_takeForced (p : Pool) : p.takeForced.2.settings = p.settings := by
  unfold takeForced
  split <;> rfl

theorem Pool.settings_add (p : Pool) (size : Nat) (key : ObjectKey) :
    (p.add size key).2.settings = p.settings := by
  unfold add
  repeat' split
  all_goals rfl

theorem Pool.settings_take (p : Pool) (key : ObjectKey) :
    (p.take key).2.settings = p.settings := by
  unfold take
  split <;> rfl

namespace Simulator

structure Settings where
  defaultCapacity : Nat
  channelLost : Bool
  attributes : List ((ObjectId × AttributeId) × AttributeValue)
  namedAvailability : Table String Nat
  pools : ObjectType → Option Nat × Bool × Option Nat

def settings (s : Simulator) : Settings where
  defaultCapacity := s.defaultCapacity
  channelLost := s.channelLost
  attributes := s.attributes
  namedAvailability := s.namedAvailability
  pools type := (s.pools.get type).settings

section Requests

variable {s : Simulator} {type : ObjectType} {p : Pool}

theorem settings_replaced (h : p.settings = (s.pools.get type).settings) (nextId : ObjectId) :
    (s.replaced type p nextId).settings = s.settings := by
  have hpools : (fun other => ((s.pools.set type p).get other).settings) =
      fun other => (s.pools.get other).settings := by
    funext other
    by_cases hne : type = other
    · subst hne
      rw [Roster.get_set_self, h]
    · rw [Roster.get_set_of_ne _ _ hne]
  simp only [settings, replaced, hpools]

theorem settings_createOne (s : Simulator) (type : ObjectType) (request : CreateRequest) :
    (s.createOne type request).2.settings = s.settings := by
  have htaken := (s.pools.get type).settings_takeForced
  rcases htake : (s.pools.get type).takeForced with ⟨_ | status, p⟩
  all_goals rw [htake] at htaken
  · cases hentry : request.entry with
    | some key =>
      obtain ⟨size, heq⟩ := createOne_entry htake hentry
      rw [heq]
      exact settings_replaced ((p.settings_add ..).trans htaken) _
    | none =>
      obtain ⟨size, heq⟩ := createOne_oid htake hentry
      rw [heq]
      exact settings_replaced ((p.settings_add ..).trans htaken) _
  · rw [createOne_forced htake]
    exact settings_replaced htaken _

theorem settings_removeOne (s : Simulator) (type : ObjectType) (key : ObjectKey) :
    (s.removeOne type key).2.settings = s.settings := by
  have htaken := (s.pools.get type).settings_takeForced
  rcases htake : (s.pools.get type).takeForced with ⟨_ | status, p⟩
  all_goals
    rw [htake] at htaken
    simp only [removeOne, htake]
  · exact settings_replaced ((p.settings_take key).trans htaken) s.nextId
  · exact settings_replaced htaken s.nextId

end Requests

/-- Switches of the same settings with the same numbers of objects answer alike. -/
theorem sameAnswers_of_settings {s s' : Simulator} (hsettings : s.settings = s'.settings)
    (hcounts : ∀ type, s.objectCount type = s'.objectCount type) : Monitor.SameAnswers s s' := by
  obtain ⟨hcapacity, hlost, hattributes, hnamed, hpools⟩ := Settings.mk.inj hsettings
  have hpool : ∀ type, (s.pools.get type).settings = (s'.pools.get type).settings :=
    congrFun hpools
  refine ⟨rfl, fun id what => ?_, fun type qualifiers => ?_⟩
  · simp only [Driver.readAttribute, attribute?, hlost, hattributes]
  · obtain ⟨hsize, hanswers⟩ := Prod.mk.inj (hpool type)
    obtain ⟨hsupported, havailable⟩ := Prod.mk.inj hanswers
    have hcount := hcounts type
    simp only [objectCount, objects] at hcount
    simp only [Driver.availability, available, capacityOf, hlost, hcapacity, hnamed, hsize,
      hsupported, havailable, hcount]

end Simulator

namespace BulkStager

open Simulator

/-- A flush leaves the settings of a switch alone. -/
theorem settings_kept (type : ObjectType) (settings : Simulator.Settings)
    (hup : settings.channelLost = false) :
    FlushInvariant type (fun s d => s.type = type ∧ d.settings = settings)
      (fun _ s d => s.type = type ∧ d.settings = settings) where
  removing_up h := ⟨h.1, by rw [← hup, ← h.2]; rfl⟩
  removing_called h := h
  remove h _ := ⟨h.1, (settings_removeOne ..).trans h.2⟩
  removeMissed h _ := h
  turn h := h
  creating_up h := ⟨h.1, by rw [← hup, ← h.2]; rfl⟩
  creating_called h := h
  create h _ := ⟨h.1, (settings_createOne ..).trans h.2⟩
  createMissed h _ := h

theorem settings_flush (s : BulkStager) {d : Simulator} (hup : d.channelLost = false) :
    (s.flush d).2.2.settings = d.settings := by
  obtain ⟨s', d', hflush, -, -, hend⟩ := (settings_kept s.type d.settings hup).flush
    front (n := 0) (s := s) (d := d) trivial ⟨rfl, rfl⟩
  rw [hflush]
  exact hend

end BulkStager

end DashAgent
