import DashAgent.Proofs.Monitor

/-!
# Calls to the monitor

Everything that is done to a monitor is a call, answered by whatever driver is there. `Grows` says
what most of its steps do to the sub-pools: counters appear, none goes, and neither the telemetry
nor what is supported moves. Where counters appear is told by the call: at its own sub-pool, or in
a poll at the stages and bind points that the driver lists.
-/
namespace DashAgent.Monitor

inductive Call where
  | incrementUsed (r : Resource)
  | decrementUsed (r : Resource)
  | incrementAcl (r : Resource) (stage : AclStage) (bindPoint : AclBindPoint)
  | decrementAcl (r : Resource) (stage : AclStage) (bindPoint : AclBindPoint) (table : ObjectId)
  | incrementAclTable (r : Resource) (table : ObjectId)
  | decrementAclTable (r : Resource) (table : ObjectId)
  | incrementExtTable (name : String)
  | decrementExtTable (name : String)
  | incrementDashAcl (r : Resource) (group : ObjectId)
  | decrementDashAcl (r : Resource) (group : ObjectId)
  | setPollingMs (ms : Nat)
  | setThresholds (r : Resource) (low high : UInt32)
  | setThresholdType (r : Resource) (type : ThresholdType)
  | configure (fields : List (String × String))
  | poll
  | publish
  | checkThresholds
  | onTimer

namespace Call

variable {δ : Type} [Driver δ]

def apply (m : Monitor) (d : δ) : Call → Monitor
  | incrementUsed r => (m.incrementUsed r).2
  | decrementUsed r => (m.decrementUsed r).2
  | incrementAcl r stage bindPoint => (m.incrementAcl r stage bindPoint).2
  | decrementAcl r stage bindPoint table => (m.decrementAcl r stage bindPoint table).2
  | incrementAclTable r table => (m.incrementAclTable r table).2
  | decrementAclTable r table => (m.decrementAclTable r table).2
  | incrementExtTable name => (m.incrementExtTable name).2
  | decrementExtTable name => (m.decrementExtTable name).2
  | incrementDashAcl r group => (m.incrementDashAcl r group).2
  | decrementDashAcl r group => (m.decrementDashAcl r group).2
  | setPollingMs ms => m.setPollingMs ms
  | setThresholds r low high => (m.setThresholds r low high).2
  | setThresholdType r type => (m.setThresholdType r type).2
  | configure fields => (m.configure fields).2
  | poll => (m.poll d).1
  | publish => m.publish
  | checkThresholds => m.checkThresholds
  | onTimer => (m.onTimer d).1

/-- A sub-pool that a poll may find: the whole switch, or a stage and bind point of a list. -/
def Polled (p : SubPool) : Prop := p = .global ∨ ∃ stage bindPoint, p = .acl stage bindPoint

/-- The sub-pools that a call may make a counter for. -/
def Makes : Call → Resource → SubPool → Prop
  | incrementUsed _, _, p => p = .global
  | incrementAcl _ stage bindPoint, _, p => p = .acl stage bindPoint
  | incrementAclTable r table, s, p => r.isPerAclTable = true ∧ s = r ∧ p = .aclTable table
  | incrementExtTable name, _, p => p = .extTable name
  | incrementDashAcl r group, s, p =>
    p = .global ∨
      (r.ruleOf? = some s ∨ r.isDashAclRule = true ∧ s = r) ∧ p = .dashAclGroup group
  | poll, _, p | onTimer, _, p => Polled p
  | _, _, _ => False

/-- The call neither counts nor asks the driver. -/
def isRoutine : Call → Bool
  | setPollingMs _ | setThresholds .. | setThresholdType .. | configure _ | publish
  | checkThresholds => true
  | _ => false

end Call

/-- A routine call is made of routine steps. -/
theorem routines_apply {δ : Type} [Driver δ] {call : Call} (h : call.isRoutine = true) (m : Monitor)
    (d : δ) : Routines m (call.apply m d) := by
  cases call with
  | setPollingMs ms => exact .single (.setPollingMs ms)
  | setThresholds r low high => exact routines_trySetThresholds m r _
  | setThresholdType r type => exact routines_trySetThresholds m r _
  | configure fields => exact routines_configure m fields
  | publish => exact .single .publish
  | checkThresholds => exact routines_checkThresholds m
  | _ => cases h

/-- What calls of some kind make of a monitor, each answered by some driver. -/
inductive Leads (allowed : Call → Prop) (m : Monitor) : Monitor → Prop where
  | refl : Leads allowed m m
  | call {m' : Monitor} {δ : Type} [Driver δ] (call : Call) (d : δ) : allowed call →
    Leads allowed m m' → Leads allowed m (call.apply m' d)

/-! ## Growing -/

/-- Counters may appear for some sub-pools, and all that are there stay. The telemetry and what is
supported are left alone. -/
structure Grows (made : Resource → SubPool → Prop) (m m' : Monitor) : Prop where
  telemetry : m'.telemetry = m.telemetry
  supported : ∀ r, (m'.record r).supported = (m.record r).supported
  kept : ∀ {r p}, (m.counter? r p).isSome → (m'.counter? r p).isSome
  fresh : ∀ {r p}, (m'.counter? r p).isSome → (m.counter? r p).isSome ∨ made r p

section Grows

variable {made : Resource → SubPool → Prop} {m m' m'' : Monitor}

theorem Grows.refl (m : Monitor) : Grows made m m := ⟨rfl, fun _ => rfl, id, .inl⟩

theorem Grows.trans (h : Grows made m m') (h' : Grows made m' m'') : Grows made m m'' where
  telemetry := h'.telemetry.trans h.telemetry
  supported r := (h'.supported r).trans (h.supported r)
  kept hc := h'.kept (h.kept hc)
  fresh hc := (h'.fresh hc).elim h.fresh .inr

/-- The record of one resource is changed, and the number of calls with it. -/
theorem Grows.of_modify {r : Resource} {f : ResourceRecord → ResourceRecord}
    (hrecords : m'.records = m.records.modify r f) (htelemetry : m'.telemetry = m.telemetry)
    (hsupported : (f (m.record r)).supported = (m.record r).supported)
    (hkept : ∀ p, ((m.record r).counter? p).isSome → ((f (m.record r)).counter? p).isSome)
    (hfresh : ∀ p, ((f (m.record r)).counter? p).isSome →
      ((m.record r).counter? p).isSome ∨ made r p) : Grows made m m' := by
  obtain ⟨hself, hother⟩ := record_of_modify hrecords
  refine ⟨htelemetry, ?_, ?_, ?_⟩
  · intro s
    by_cases hs : r = s
    · subst hs
      rw [hself, hsupported]
    · rw [hother hs]
  · intro s p hc
    by_cases hs : r = s
    · subst hs
      rw [counter?, hself]
      exact hkept p hc
    · rw [counter?, hother hs]
      exact hc
  · intro s p hc
    by_cases hs : r = s
    · subst hs
      rw [counter?, hself] at hc
      exact hfresh p hc
    · rw [counter?, hother hs] at hc
      exact .inl hc

/-- A counter is put in its place, where there was one or not. -/
theorem Grows.of_setCounter {r : Resource} {p : SubPool} {c : Counter}
    (hrecords : m'.records = m.records.modify r (·.setCounter p c))
    (htelemetry : m'.telemetry = m.telemetry)
    (hmade : ((m.record r).counter? p).isSome ∨ made r p) : Grows made m m' := by
  refine .of_modify hrecords htelemetry rfl ?_ ?_ <;> intro q hq
  all_goals
    simp only [ResourceRecord.counter?, ResourceRecord.setCounter] at hq ⊢
    by_cases heq : p = q
  · simp [heq]
  · rwa [Table.get?_insert_of_ne _ heq]
  · exact heq ▸ hmade
  · rw [Table.get?_insert_of_ne _ heq] at hq
    exact .inl hq

/-- The counters of one resource are changed where they are. -/
theorem Grows.of_mapValues {r : Resource} {f : ResourceRecord → ResourceRecord}
    {g : Counter → Counter}
    (hrecords : m'.records = m.records.modify r f) (htelemetry : m'.telemetry = m.telemetry)
    (hsupported : (f (m.record r)).supported = (m.record r).supported)
    (hcounters : (f (m.record r)).counters = (m.record r).counters ∨
      (f (m.record r)).counters = (m.record r).counters.mapValues g) :
    Grows made m m' := by
  have hsame : ∀ p, ((f (m.record r)).counter? p).isSome = ((m.record r).counter? p).isSome := by
    intro p
    rcases hcounters with h | h
    · rw [ResourceRecord.counter?, h]
      rfl
    · rw [ResourceRecord.counter?, h, Table.get?_mapValues, Option.isSome_map]
      rfl
  exact .of_modify hrecords htelemetry hsupported (fun p hp => (hsame p).trans hp)
    fun p hp => .inl ((hsame p).symm.trans hp)

/-! ## Accounting -/

theorem grows_countUp (m : Monitor) {r : Resource} {p : SubPool} (hmade : made r p) :
    Grows made m (m.countUp r p).2 := .of_setCounter rfl rfl (.inr hmade)

theorem grows_countDown (m : Monitor) (r : Resource) (p : SubPool) :
    Grows made m (m.countDown r p).2 := by
  obtain ⟨-, heq⟩ | ⟨c, -, -, heq⟩ | ⟨c, hc, -, heq⟩ := countDown_cases m r p <;> rw [heq]
  · exact .refl m
  · exact .refl m
  · exact .of_setCounter rfl rfl (.inl (Option.isSome_iff_exists.2 ⟨c, hc⟩))

theorem grows_ensure (m : Monitor) {r : Resource} {p : SubPool} (hmade : made r p) :
    Grows made m (m.modifyRecord r (·.ensure p)) := by
  obtain ⟨-, hsame⟩ | hset := records_ensure_cases m r p
  · exact .of_modify hsame rfl rfl (fun _ => id) fun _ => .inl
  · exact .of_setCounter hset rfl (.inr hmade)

/-! ## Chores -/

theorem grows_installThresholds (m : Monitor) (r : Resource) (t : Thresholds) :
    Grows made m (m.installThresholds r t) := by
  refine .of_mapValues (f := applyThresholds t) (g := fun c => { c with exceededCount := 0 })
    rfl rfl rfl ?_
  unfold applyThresholds
  dsimp only
  split
  · exact .inl rfl
  · exact .inr rfl

theorem grows_setAvailable (m : Monitor) {r : Resource} {p : SubPool} (available : Nat)
    (hmade : (m.counter? r p).isSome ∨ made r p) :
    Grows made m (m.setAvailable r p available) := .of_setCounter rfl rfl hmade

theorem grows_checkResource (m : Monitor) (r : Resource) : Grows made m (m.checkResource r) := by
  unfold checkResource
  dsimp only
  split
  · let checked : Counter → Counter := fun c => (c.check (m.record r).thresholds).2
    exact .of_mapValues (g := checked)
      (f := fun record => { record with counters := record.counters.mapValues checked })
      rfl rfl rfl (.inr rfl)
  · exact .refl m

theorem grows_checkThresholds (m : Monitor) : Grows made m m.checkThresholds := by
  unfold checkThresholds
  generalize Resource.all = rs
  induction rs generalizing m with
  | nil => exact .refl m
  | cons r rest ih => exact (grows_checkResource m r).trans (ih _)

end Grows

end DashAgent.Monitor
