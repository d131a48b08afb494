import DashAgent.Proofs.Table
import DashAgent.Resource.Monitor.Accounting
import DashAgent.Resource.Monitor.Polling

/-!
# Records and counters

A change of one record leaves the others alone, and a counter that is set or dropped leaves all
other counters alone. So counting in one sub-pool moves the count of this sub-pool by one.
-/
namespace DashAgent

/-! ## Counters -/

/-- A count that is not full rises by one. -/
theorem Counter.toNat_increment {c : Counter} (h : c.used.toNat + 1 < 2 ^ 32) :
    c.increment.used.toNat = c.used.toNat + 1 := by
  have hfree : c.used ≠ 0xffffffff := by
    intro hfull
    have hmax : c.used.toNat = 4294967295 := by
      rw [hfull]
      rfl
    omega
  have hone : (1 : UInt32).toNat = 1 := rfl
  rw [increment, if_neg hfree, UInt32.toNat_add, hone]
  omega

/-- A count above zero sinks by one. -/
theorem toNat_pred {n : UInt32} (h : n ≠ 0) : (n - 1).toNat + 1 = n.toNat := by
  have hpos : n.toNat ≠ 0 := fun hzero => h (UInt32.toNat_inj.1 hzero)
  have hone : (1 : UInt32).toNat = 1 := rfl
  have hle : (1 : UInt32) ≤ n := by
    rw [UInt32.le_iff_toNat_le]
    omega
  rw [UInt32.toNat_sub_of_le _ _ hle]
  omega

/-- At start-up the whole switch is the only sub-pool, if it suits the resource. -/
theorem ResourceRecord.counter?_new (r : Resource) (p : SubPool) :
    (new r).counter? p = if r.isGlobal = true ∧ p = .global then some (.new 0) else none := by
  unfold counter? new
  by_cases hr : r.isGlobal = true
  · rw [if_pos hr]
    by_cases hp : p = .global
    · rw [if_pos ⟨hr, hp⟩, hp, Table.get?_insert_self]
    · rw [if_neg (fun h => hp h.2), Table.get?_insert_of_ne _ (Ne.symm hp), Table.get?_empty]
  · rw [if_neg hr, if_neg (fun h => hr h.1), Table.get?_empty]

/-- Where a sub-pool is made sure of, the record is as it was, or has its counter or a new one set
in its place. -/
theorem ResourceRecord.ensure_cases (x : ResourceRecord) (p : SubPool) :
    (x.counter? p).isSome ∧ x.ensure p = x ∨ x.ensure p = x.setCounter p (x.counterOrNew p) := by
  unfold ensure
  split
  · next hthere =>
    rw [Table.contains_eq_isSome] at hthere
    exact .inl ⟨hthere, rfl⟩
  · exact .inr rfl

namespace Monitor

/-! ## Records -/

variable {m m' : Monitor} {r : Resource} {p : SubPool}

@[simp] theorem record_modifyRecord_self (m : Monitor) (r : Resource)
    (f : ResourceRecord → ResourceRecord) : (m.modifyRecord r f).record r = f (m.record r) :=
  Roster.get_modify_self ..

theorem record_modifyRecord_of_ne (m : Monitor) {r s : Resource}
    (f : ResourceRecord → ResourceRecord) (h : r ≠ s) :
    (m.modifyRecord r f).record s = m.record s := Roster.get_modify_of_ne _ _ h

/-- Where one record is changed, the others stay. -/
theorem record_of_modify {f : ResourceRecord → ResourceRecord}
    (h : m'.records = m.records.modify r f) :
    m'.record r = f (m.record r) ∧ ∀ {s}, r ≠ s → m'.record s = m.record s := by
  have hrecord : ∀ s, m'.record s = (m.modifyRecord r f).record s :=
    fun s => congrArg (Roster.get · s) h
  refine ⟨?_, fun hs => ?_⟩
  · rw [hrecord, record_modifyRecord_self]
  · rw [hrecord, record_modifyRecord_of_ne m f hs]

theorem record_congr (h : m'.records = m.records) (r : Resource) : m'.record r = m.record r :=
  congrArg (Roster.get · r) h

theorem record_giveUp_of_ne (m : Monitor) {r s : Resource} (h : r ≠ s) :
    (m.giveUp r).record s = m.record s := Roster.get_modify_of_ne _ _ h

theorem record_giveUp_self (m : Monitor) (r : Resource) :
    (m.giveUp r).record r = { m.record r with supported := false } := Roster.get_modify_self ..

theorem counter?_of_setCounter {c : Counter}
    (h : m'.records = m.records.modify r (·.setCounter p c)) (s : Resource) (q : SubPool) :
    m'.counter? s q = if r = s ∧ p = q then some c else m.counter? s q := by
  obtain ⟨hself, hother⟩ := record_of_modify h
  by_cases hs : r = s
  · subst hs
    rw [counter?, hself, ResourceRecord.counter?, ResourceRecord.setCounter]
    by_cases hq : p = q
    · simp [hq]
    · simp [hq, Table.get?_insert_of_ne, counter?, ResourceRecord.counter?]
  · rw [counter?, hother hs]
    simp [hs, counter?]

theorem counter?_dropSubPool (m : Monitor) (r s : Resource) (p q : SubPool) :
    (m.dropSubPool r p).counter? s q = if r = s ∧ p = q then none else m.counter? s q := by
  by_cases hs : r = s
  · subst hs
    rw [counter?, dropSubPool, record_modifyRecord_self, ResourceRecord.counter?,
      ResourceRecord.dropCounter]
    by_cases hq : p = q
    · simp [hq]
    · simp [hq, Table.get?_erase_of_ne hq, counter?, ResourceRecord.counter?]
  · rw [counter?, dropSubPool, record_modifyRecord_of_ne m _ hs]
    simp [hs, counter?]

theorem supported_dropSubPool (m : Monitor) (r s : Resource) (p : SubPool) :
    ((m.dropSubPool r p).record s).supported = (m.record s).supported := by
  by_cases hs : r = s
  · subst hs
    rw [dropSubPool, record_modifyRecord_self]
    rfl
  · rw [dropSubPool, record_modifyRecord_of_ne m _ hs]

theorem thresholds_dropSubPool (m : Monitor) (r s : Resource) (p : SubPool) :
    ((m.dropSubPool r p).record s).thresholds = (m.record s).thresholds := by
  by_cases hs : r = s
  · subst hs
    rw [dropSubPool, record_modifyRecord_self]
    rfl
  · rw [dropSubPool, record_modifyRecord_of_ne m _ hs]

theorem counterOrNew_of_counter? {c : Counter} (h : m.counter? r p = some c) :
    (m.record r).counterOrNew p = c := by
  have hrecord : (m.record r).counter? p = some c := h
  rw [ResourceRecord.counterOrNew, hrecord]
  rfl

theorem records_ensure_cases (m : Monitor) (r : Resource) (p : SubPool) :
    (m.counter? r p).isSome ∧
      (m.modifyRecord r (·.ensure p)).records = m.records.modify r (fun x => x) ∨
    (m.modifyRecord r (·.ensure p)).records =
      m.records.modify r (·.setCounter p ((m.record r).counterOrNew p)) :=
  ((m.record r).ensure_cases p).imp (And.imp_right (congrArg (m.records.set r)))
    (congrArg (m.records.set r))

/-- A sub-pool that is made sure of has the counter that it had, or a new one. -/
theorem counter?_ensure (m : Monitor) (r s : Resource) (p q : SubPool) :
    (m.modifyRecord r (·.ensure p)).counter? s q =
      if r = s ∧ p = q then some ((m.record r).counterOrNew p) else m.counter? s q := by
  obtain ⟨hthere, hsame⟩ | hset := records_ensure_cases m r p
  · obtain ⟨hself, hother⟩ := record_of_modify hsame
    have hcounter : (m.modifyRecord r (·.ensure p)).counter? s q = m.counter? s q := by
      by_cases hs : r = s
      · subst hs
        exact congrArg (·.counter? q) hself
      · exact congrArg (·.counter? q) (hother hs)
    rw [hcounter]
    split
    · next h =>
      obtain ⟨rfl, rfl⟩ := h
      obtain ⟨c, hc⟩ := Option.isSome_iff_exists.1 hthere
      rw [hc, counterOrNew_of_counter? hc]
    · rfl
  · exact counter?_of_setCounter hset s q

theorem record_new (pollingMs : Nat) (telemetry : Telemetry) (r : Resource) :
    (new pollingMs telemetry).record r = .new r := Roster.get_tabulate ..

theorem counter?_new (pollingMs : Nat) (telemetry : Telemetry) (r : Resource) (p : SubPool) :
    (new pollingMs telemetry).counter? r p =
      if r.isGlobal = true ∧ p = .global then some (.new 0) else none := by
  rw [counter?, record_new, ResourceRecord.counter?_new]

/-! ## Counting -/

theorem counter?_countUp (m : Monitor) (r s : Resource) (p q : SubPool) :
    (m.countUp r p).2.counter? s q =
      if r = s ∧ p = q then some ((m.record r).counterOrNew p).increment else m.counter? s q :=
  counter?_of_setCounter rfl s q

theorem used_counterOrNew (m : Monitor) (r : Resource) (p : SubPool) :
    ((m.record r).counterOrNew p).used = (m.used? r p).getD 0 := by
  have hnew : (m.record r).counterOrNew p =
      (m.counter? r p).getD (.new (p.objectId?.getD 0)) := rfl
  rw [hnew, used?]
  cases m.counter? r p <;> rfl

theorem used?_countUp (m : Monitor) (r s : Resource) (p q : SubPool) :
    (m.countUp r p).2.used? s q =
      if r = s ∧ p = q then some ((m.record r).counterOrNew p).increment.used
      else m.used? s q := by
  rw [used?, counter?_countUp]
  split <;> rfl

/-- The answers of a decrement: the sub-pool has no counter, or one of zero, and nothing changes, or
one that is lowered. -/
theorem countDown_cases (m : Monitor) (r : Resource) (p : SubPool) :
    m.counter? r p = none ∧ m.countDown r p = (.error (.counterNotFound r p), m) ∨
    (∃ c, m.counter? r p = some c ∧ c.used = 0 ∧
      m.countDown r p = (.error (.counterUnderflow r p), m)) ∨
    ∃ c, m.counter? r p = some c ∧ c.used ≠ 0 ∧ m.countDown r p = (.ok (c.used - 1),
      { m.modifyRecord r (·.setCounter p { c with used := c.used - 1 }) with
        stats := { m.stats with decrements := m.stats.decrements + 1 } }) := by
  unfold countDown
  cases hc : m.counter? r p with
  | none => exact .inl ⟨rfl, rfl⟩
  | some c =>
    by_cases hzero : c.used = 0
    · simp [Counter.decrement?, hzero]
    · simp [Counter.decrement?, hzero]

theorem countDown_of_error {e : MonitorError} (h : (m.countDown r p).1 = .error e) :
    (m.countDown r p).2 = m := by
  obtain ⟨-, heq⟩ | ⟨c, -, -, heq⟩ | ⟨c, -, -, heq⟩ := countDown_cases m r p <;> rw [heq] at h ⊢
  cases h

theorem countDown_of_ok {n : UInt32} (h : (m.countDown r p).1 = .ok n) :
    ∃ c, m.counter? r p = some c ∧ c.used ≠ 0 ∧ n = c.used - 1 ∧
      ∀ s q, (m.countDown r p).2.counter? s q =
        if r = s ∧ p = q then some { c with used := c.used - 1 } else m.counter? s q := by
  obtain ⟨-, heq⟩ | ⟨c, -, -, heq⟩ | ⟨c, hc, hused, heq⟩ := countDown_cases m r p <;>
    rw [heq] at h ⊢ <;> cases h
  exact ⟨c, hc, hused, rfl, counter?_of_setCounter rfl⟩

/-- A decrement is accepted where something is used. -/
theorem countDown_of_used {n : UInt32} (h : m.used? r p = some n) (hne : n ≠ 0) :
    (m.countDown r p).2.stats = { m.stats with decrements := m.stats.decrements + 1 } ∧
      ∀ s q, (m.countDown r p).2.used? s q =
        if r = s ∧ p = q then some (n - 1) else m.used? s q := by
  obtain ⟨c, hc, rfl⟩ := Option.map_eq_some_iff.1 h
  obtain ⟨hnone, -⟩ | ⟨c', hc', hzero, -⟩ | ⟨c', hc', -, heq⟩ := countDown_cases m r p
  · rw [hc] at hnone
    cases hnone
  · rw [hc] at hc'
    cases hc'
    exact absurd hzero hne
  · rw [hc] at hc'
    cases hc'
    rw [heq]
    refine ⟨rfl, fun s q => ?_⟩
    rw [used?, counter?_of_setCounter rfl]
    split <;> rfl

/-- A decrement neither makes a counter nor drops one. -/
theorem counter?_countDown_eq_none_iff {s : Resource} {q : SubPool} :
    (m.countDown r p).2.counter? s q = none ↔ m.counter? s q = none := by
  cases hanswer : (m.countDown r p).1 with
  | error e => rw [countDown_of_error hanswer]
  | ok n =>
    obtain ⟨c, hc, -, -, hdown⟩ := countDown_of_ok hanswer
    rw [hdown]
    split
    · next heq =>
      obtain ⟨rfl, rfl⟩ := heq
      simp [hc]
    · exact Iff.rfl

end Monitor

end DashAgent
