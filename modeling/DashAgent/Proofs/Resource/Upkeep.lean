import DashAgent.Proofs.Resource.Records
import DashAgent.Resource.Monitor.Configuration
import Mathlib.Logic.Relation

/-!
# Upkeep

What the monitor does besides accounting comes down to a few chores: an available count is learnt, a
resource is given up, thresholds or the polling interval are replaced, counts are published, a
resource is checked, a tick is counted. Configuration, polls, publishing and checks are sequences of
chores, so that what every chore keeps need not be followed through their loops.
-/
namespace DashAgent

/-- The sub-pools that a resource is counted in. -/
def Resource.suits (r : Resource) : SubPool → Bool
  | .global => r.isGlobal
  | .acl .. => r.isAcl
  | .aclTable _ => r.isPerAclTable
  | .extTable _ => r = .extTable
  | .dashAclGroup _ => r.isDashAclRule

namespace Monitor

/-- The monitor that has counted a tick. -/
def ticked (m : Monitor) : Monitor :=
  { m with stats := { m.stats with timerExpirations := m.stats.timerExpirations + 1 } }

/-- One step of a poll. What is learnt is the available count of a sub-pool that is tracked, of the
whole switch, or of a stage and bind point. -/
inductive PollStep (m : Monitor) : Monitor → Prop where
  | learn {r : Resource} {p : SubPool} (available : Nat) (hsuits : r.suits p = true)
      (hthere : (m.counter? r p).isSome ∨ p = .global ∨
        ∃ stage bindPoint, p = .acl stage bindPoint) :
      PollStep m (m.setAvailable r p available)
  | giveUp (r : Resource) : PollStep m (m.giveUp r)

/-- One step that asks the driver nothing. -/
inductive Routine (m : Monitor) : Monitor → Prop where
  | install (r : Resource) (t : Thresholds) : Routine m (m.installThresholds r t)
  | setPollingMs (ms : Nat) : Routine m (m.setPollingMs ms)
  | publish : Routine m m.publish
  | check (r : Resource) : Routine m (m.checkResource r)
  | tick : Routine m m.ticked

/-- One chore. -/
inductive Chore (m : Monitor) : Monitor → Prop where
  | poll {m' : Monitor} (step : PollStep m m') : Chore m m'
  | routine {m' : Monitor} (step : Routine m m') : Chore m m'

/-- The steps of a poll. -/
abbrev Polling : Monitor → Monitor → Prop := Relation.ReflTransGen PollStep

/-- Steps without questions. -/
abbrev Routines : Monitor → Monitor → Prop := Relation.ReflTransGen Routine

/-- Chores one after another. -/
abbrev Upkeep : Monitor → Monitor → Prop := Relation.ReflTransGen Chore

variable {m m' : Monitor}

theorem upkeep_of_polling (h : Polling m m') : Upkeep m m' :=
  Relation.ReflTransGen.mono (fun _ _ => Chore.poll) _ _ h

theorem upkeep_of_routines (h : Routines m m') : Upkeep m m' :=
  Relation.ReflTransGen.mono (fun _ _ => Chore.routine) _ _ h

/-! ## Configuration -/

theorem routines_trySetThresholds (m : Monitor) (r : Resource) (t : Thresholds) :
    Routines m (m.trySetThresholds r t).2 := by
  unfold trySetThresholds
  split
  · exact .refl
  · exact .single (.install r t)

theorem routines_foldl_installThresholds (ts : List (Resource × Thresholds)) (m : Monitor) :
    Routines m (ts.foldl (fun m e => m.installThresholds e.1 e.2) m) := by
  induction ts generalizing m with
  | nil => exact .refl
  | cons e rest ih => exact .head (.install e.1 e.2) (ih _)

theorem routines_configure (m : Monitor) (fields : List (String × String)) :
    Routines m (m.configure fields).2 := by
  unfold configure
  split
  · exact .refl
  · next draft _ =>
    split
    · exact .refl
    · unfold applyDraft
      cases draft.pollingMs with
      | none => exact routines_foldl_installThresholds ..
      | some ms => exact .head (.setPollingMs ms) (routines_foldl_installThresholds ..)

/-! ## Polls -/

section Polls

variable {δ : Type} [Driver δ]

theorem counter?_setAvailable (m : Monitor) (r s : Resource) (p q : SubPool) (available : Nat) :
    (m.setAvailable r p available).counter? s q =
      if r = s ∧ p = q then
        some { (m.record r).counterOrNew p with
          available := UInt32.ofNat (min available 0xffffffff) }
      else m.counter? s q :=
  counter?_of_setCounter (c := { (m.record r).counterOrNew p with
    available := UInt32.ofNat (min available 0xffffffff) }) rfl s q

/-- A sub-pool that is asked for by a query of its own suits the resource. -/
theorem suits_of_askSubPool {r : Resource} {p : SubPool} {ask : δ → Except Status Nat × δ}
    (h : askSubPool r.query p = some ask) : r.suits p = true := by
  cases p <;> cases r <;> first | rfl | cases h

theorem polling_storeAnswer (m : Monitor) {r : Resource} {p : SubPool} (answer : Except Status Nat)
    (hsuits : r.suits p = true)
    (hthere : (m.counter? r p).isSome ∨ p = .global ∨ ∃ stage bindPoint, p = .acl stage bindPoint) :
    Polling m (m.storeAnswer r p answer).2 := by
  cases answer with
  | ok available => exact .single (.learn available hsuits hthere)
  | error status => exact .refl

theorem polling_setAclResources (m : Monitor) {r : Resource} (hr : r.isAcl = true)
    (list : List AclResource) : Polling m (m.setAclResources r list) := by
  induction list generalizing m with
  | nil => exact .refl
  | cons a rest ih =>
    have hhead : PollStep m (m.setAvailable r (.acl a.stage a.bindPoint) a.available.toNat) :=
      .learn _ hr (.inr (.inr ⟨a.stage, a.bindPoint, rfl⟩))
    exact .head hhead (ih _)

theorem polling_pollSubPools (r : Resource) (pools : List SubPool) (m : Monitor) (d : δ)
    (hthere : ∀ p ∈ pools, (m.counter? r p).isSome) :
    Polling m (pollSubPools r pools m d).2.1 := by
  induction pools generalizing m d with
  | nil => exact .refl
  | cons p rest ih =>
    have hrest := fun q hq => hthere q (List.mem_cons_of_mem _ hq)
    simp only [pollSubPools]
    split
    · exact ih m d hrest
    · next ask hask =>
      have hhead : Polling m (m.storeAnswer r p (ask d).1).2 :=
        polling_storeAnswer m _ (suits_of_askSubPool hask) (.inl (hthere p (List.mem_cons_self ..)))
      refine hhead.trans (ih _ _ fun q hq => ?_)
      cases (ask d).1 with
      | ok available =>
        change ((m.setAvailable r p available).counter? r q).isSome
        rw [counter?_setAvailable]
        split
        · rfl
        · exact hrest q hq
      | error status => exact hrest q hq

theorem isSome_of_mem_keys {r : Resource} {p : SubPool} (h : p ∈ (m.record r).counters.keys) :
    (m.counter? r p).isSome := by
  cases hc : m.counter? r p with
  | none => exact absurd h (Table.get?_eq_none_iff.1 hc)
  | some c => rfl

theorem polling_queryResource (r : Resource) (m : Monitor) (d : δ) :
    Polling m (queryResource r m d).2.1 := by
  unfold queryResource
  split
  · next hquery =>
    exact polling_storeAnswer m _ (by simp [Resource.suits, Resource.isGlobal, hquery])
      (.inr (.inl rfl))
  · next hquery =>
    exact polling_storeAnswer m _ (by simp [Resource.suits, Resource.isGlobal, hquery])
      (.inr (.inl rfl))
  · next hquery =>
    have hr : r.isAcl = true := by cases r <;> first | rfl | cases hquery
    split
    · exact polling_setAclResources m hr _
    · exact .refl
    · exact .refl
  all_goals exact polling_pollSubPools r _ m d fun _ => isSome_of_mem_keys

theorem polling_pollResource (r : Resource) (m : Monitor) (d : δ) :
    Polling m (pollResource r m d).1 := by
  have hquery := polling_queryResource r m d
  unfold pollResource
  split
  · split
    · next status m' d' heq =>
      rw [heq] at hquery
      dsimp only at hquery ⊢
      split
      · exact hquery.tail (.giveUp r)
      · exact hquery
    · next m' d' heq =>
      rw [heq] at hquery
      exact hquery
  · exact .refl

theorem polling_pollEach (rs : List Resource) (m : Monitor) (d : δ) :
    Polling m (pollEach rs m d).1 := by
  induction rs generalizing m d with
  | nil => exact .refl
  | cons r rest ih => exact (polling_pollResource r m d).trans (ih _ _)

/-! ## Checks and ticks -/

theorem routines_checkThresholds (m : Monitor) : Routines m m.checkThresholds := by
  unfold checkThresholds
  generalize Resource.all = rs
  induction rs generalizing m with
  | nil => exact .refl
  | cons r rest ih => exact .head (.check r) (ih _)

/-- A tick polls, publishes and checks. -/
theorem onTimer_eq (m : Monitor) (d : δ) :
    (m.onTimer d).1 = (pollEach Resource.all m.ticked d).1.publish.checkThresholds := by
  obtain ⟨m', d', heq⟩ : ∃ m' d', pollEach Resource.all m.ticked d = (m', d') := ⟨_, _, rfl⟩
  have hpoll : poll { m with
      stats := { m.stats with timerExpirations := m.stats.timerExpirations + 1 } } d =
        (m', d') := heq
  simp only [onTimer, hpoll, heq]

theorem upkeep_onTimer (m : Monitor) (d : δ) : Upkeep m (m.onTimer d).1 := by
  rw [onTimer_eq]
  have hpoll : Upkeep m (pollEach Resource.all m.ticked d).1 :=
    .head (.routine .tick) (upkeep_of_polling (polling_pollEach ..))
  exact hpoll.trans (upkeep_of_routines (.head .publish (routines_checkThresholds _)))

end Polls

end Monitor

end DashAgent
