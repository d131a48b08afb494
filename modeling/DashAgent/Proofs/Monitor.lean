import DashAgent.Proofs.Resource.Upkeep

/-!
# Used counts

Polls, threshold checks and configuration never move a used count: `SameUse` says so of two
monitors, and holds of every chore that they are made of. What moves the used counts of the overlay
tables are the two accounting calls. `Balanced` compares these counts with a census of objects
that is taken elsewhere, together with the number of calls that were accepted.
-/
namespace DashAgent

/-- The resources that objects of the overlay tables are counted as. -/
def Resource.overlay : List Resource :=
  [dashVnet, dashEni, dashIpv4OutboundRouting, dashIpv6OutboundRouting, dashIpv4InboundRouting,
    dashIpv6InboundRouting, dashIpv4OutboundCaToPa, dashIpv6OutboundCaToPa, dashIpv4PaValidation,
    dashIpv6PaValidation]

namespace Monitor

/-- Everything that was counted is still counted, with the same number of used entries. -/
structure SameUse (m m' : Monitor) : Prop where
  used : ∀ r p n, m.used? r p = some n → m'.used? r p = some n
  increments : m'.stats.increments = m.stats.increments
  decrements : m'.stats.decrements = m.stats.decrements

theorem SameUse.refl (m : Monitor) : SameUse m m := ⟨fun _ _ _ h => h, rfl, rfl⟩

theorem SameUse.trans {m m' m'' : Monitor} (h : SameUse m m') (h' : SameUse m' m'') :
    SameUse m m'' :=
  ⟨fun r p n hn => h'.used r p n (h.used r p n hn), h'.increments.trans h.increments,
    h'.decrements.trans h.decrements⟩

/-- A change of one record that keeps the used count of each of its counters. -/
theorem sameUse_modifyRecord (m : Monitor) (r : Resource) (f : ResourceRecord → ResourceRecord)
    (h : ∀ p c, (m.record r).counter? p = some c →
      ∃ c', (f (m.record r)).counter? p = some c' ∧ c'.used = c.used) :
    SameUse m (m.modifyRecord r f) := by
  refine ⟨?_, rfl, rfl⟩
  intro s p n hn
  by_cases hs : r = s
  · subst hs
    obtain ⟨c, hc, rfl⟩ := Option.map_eq_some_iff.1 hn
    obtain ⟨c', hc', hu⟩ := h p c hc
    simp [used?, counter?, hc', hu]
  · rw [used?, counter?, record_modifyRecord_of_ne m f hs]
    exact hn

/-! ## Chores -/

theorem sameUse_setAvailable (m : Monitor) (r : Resource) (p : SubPool) (available : Nat) :
    SameUse m (m.setAvailable r p available) := by
  apply sameUse_modifyRecord
  intro q c hc
  simp only [ResourceRecord.counter?, ResourceRecord.setCounter] at hc ⊢
  by_cases hq : p = q
  · subst hq
    refine ⟨_, Table.get?_insert_self .., ?_⟩
    simp [ResourceRecord.counterOrNew, ResourceRecord.counter?, hc]
  · exact ⟨c, by rw [Table.get?_insert_of_ne _ hq, hc], rfl⟩

theorem sameUse_publish (m : Monitor) : SameUse m m.publish := by
  unfold publish
  generalize Resource.all.foldl _ _ = t
  exact ⟨fun _ _ _ h => h, rfl, rfl⟩

theorem sameUse_giveUp (m : Monitor) (r : Resource) : SameUse m (m.giveUp r) := by
  have h := sameUse_modifyRecord m r (fun record => { record with supported := false })
    fun _ c hc => ⟨c, hc, rfl⟩
  exact ⟨h.used, h.increments, h.decrements⟩

theorem sameUse_checkResource (m : Monitor) (r : Resource) : SameUse m (m.checkResource r) := by
  unfold checkResource
  dsimp only
  split
  · have h := sameUse_modifyRecord m r
      (fun record => { record with
        counters := record.counters.mapValues fun c => (c.check (m.record r).thresholds).2 }) (by
        intro p c hc
        refine ⟨_, (Table.get?_mapValues ..).trans (congrArg _ hc), ?_⟩
        unfold Counter.check
        dsimp only
        split
        · rfl
        · split <;> rfl)
    exact ⟨h.used, h.increments, h.decrements⟩
  · exact .refl m

theorem sameUse_installThresholds (m : Monitor) (r : Resource) (t : Thresholds) :
    SameUse m (m.installThresholds r t) := by
  have h := sameUse_modifyRecord m r (applyThresholds t) (by
    intro p c hc
    unfold applyThresholds ResourceRecord.counter?
    dsimp only
    split
    · exact ⟨c, hc, rfl⟩
    · exact ⟨_, (Table.get?_mapValues ..).trans (congrArg _ hc), rfl⟩)
  exact ⟨h.used, h.increments, h.decrements⟩

/-- No chore moves a used count. -/
theorem Chore.sameUse {m m' : Monitor} (h : Chore m m') : SameUse m m' := by
  cases h with
  | poll step =>
    cases step with
    | learn available => exact sameUse_setAvailable ..
    | giveUp r => exact sameUse_giveUp m r
  | routine step =>
    cases step with
    | install r t => exact sameUse_installThresholds m r t
    | setPollingMs ms => exact ⟨fun _ _ _ h => h, rfl, rfl⟩
    | publish => exact sameUse_publish m
    | check r => exact sameUse_checkResource m r
    | tick => exact ⟨fun _ _ _ h => h, rfl, rfl⟩

/-- Configuration and ticks of the timer move no used count. -/
theorem sameUse_of_upkeep {m m' : Monitor} (h : Upkeep m m') : SameUse m m' := by
  induction h with
  | refl => exact .refl m
  | tail _ chore ih => exact ih.trans chore.sameUse

theorem sameUse_of_routines {m m' : Monitor} (h : Routines m m') : SameUse m m' :=
  sameUse_of_upkeep (upkeep_of_routines h)

/-! ## Accounting -/

/-- The used counts of the overlay resources are those of a census, and every object of the census
was counted by an accepted increment that no accepted decrement has taken back. -/
structure Balanced (m : Monitor) (census : Resource → Nat) : Prop where
  used : ∀ r ∈ Resource.overlay, ∃ n, m.globalUsed? r = some n ∧ n.toNat = census r
  calls : m.stats.increments = m.stats.decrements + (Resource.overlay.map census).sum

variable {m m' : Monitor} {census census' : Resource → Nat} {r : Resource}

theorem Balanced.sameUse (h : Balanced m census) (hm : SameUse m m') : Balanced m' census := by
  constructor
  · intro r hr
    obtain ⟨n, hn, hc⟩ := h.used r hr
    exact ⟨n, hm.used r _ n hn, hc⟩
  · rw [hm.increments, hm.decrements, h.calls]

theorem Balanced.congr (h : Balanced m census) (heq : ∀ r, census' r = census r) :
    Balanced m census' := by
  rw [funext heq]
  exact h

theorem isGlobal_of_overlay (h : r ∈ Resource.overlay) : r.isGlobal = true := by
  have hall : ∀ r ∈ Resource.overlay, r.isGlobal = true := by decide
  exact hall r h

/-- A census with one object more has a greater sum by one. -/
theorem sum_overlay_succ (hr : r ∈ Resource.overlay)
    (h : ∀ s, census' s = census s + if s = r then 1 else 0) :
    (Resource.overlay.map census').sum = (Resource.overlay.map census).sum + 1 := by
  have hone : ∀ r ∈ Resource.overlay,
      (Resource.overlay.map fun s => if s = r then 1 else 0).sum = 1 := by decide
  rw [funext h, List.sum_map_add, hone r hr]

/-- Objects of the overlay tables are counted for the whole switch, so no increment is refused. -/
theorem incrementUsed_accepted (m : Monitor) (hr : r ∈ Resource.overlay) :
    ∃ n, (m.incrementUsed r).1 = .ok n := by
  have hup : m.incrementUsed r = m.countUp r .global := if_pos (isGlobal_of_overlay hr)
  rw [hup]
  exact ⟨_, rfl⟩

/-- A decrement is accepted while the census has an object of the resource. -/
theorem Balanced.decrementUsed_accepted (h : Balanced m census) (hr : r ∈ Resource.overlay)
    (hpos : 0 < census r) : ∃ n, (m.decrementUsed r).1 = .ok n := by
  obtain ⟨n, hn, hc⟩ := h.used r hr
  have hdown : m.decrementUsed r = m.countDown r .global := if_pos (isGlobal_of_overlay hr)
  rw [hdown]
  obtain ⟨c, hcounter, rfl⟩ := Option.map_eq_some_iff.1 hn
  obtain ⟨hnone, -⟩ | ⟨c', hc', hzero, -⟩ | ⟨c', -, -, heq⟩ := countDown_cases m r .global
  · rw [hcounter] at hnone
    cases hnone
  · rw [hcounter] at hc'
    cases hc'
    rw [hzero] at hc
    exact absurd hc.symm (Nat.ne_of_gt hpos)
  · exact ⟨_, congrArg Prod.fst heq⟩

/-- An increment counts one object of a census that stays within the range. -/
theorem Balanced.increment (h : Balanced m census) (hr : r ∈ Resource.overlay)
    (hroom : census r + 1 < 2 ^ 32) (hcensus : ∀ s, census' s = census s + if s = r then 1 else 0) :
    Balanced (m.incrementUsed r).2 census' := by
  obtain ⟨n, hn, hc⟩ := h.used r hr
  have hn : m.used? r .global = some n := hn
  have hold : ((m.record r).counterOrNew .global).used = n := by
    rw [used_counterOrNew, hn]
    rfl
  have hfree : ((m.record r).counterOrNew .global).used.toNat + 1 < 2 ^ 32 := by
    rw [hold, hc]
    exact hroom
  have hsucc := Counter.toNat_increment hfree
  have hup : m.incrementUsed r = m.countUp r .global := if_pos (isGlobal_of_overlay hr)
  rw [hup]
  constructor
  · intro s hs
    have hused := used?_countUp m r s .global .global
    by_cases heq : r = s
    · subst heq
      refine ⟨_, hused.trans (if_pos ⟨rfl, rfl⟩), ?_⟩
      rw [hsucc, hold, hc, hcensus]
      simp
    · obtain ⟨k, hk, hks⟩ := h.used s hs
      refine ⟨k, hused.trans ((if_neg fun hboth => heq hboth.1).trans hk), ?_⟩
      rw [hks, hcensus, if_neg (Ne.symm heq)]
      rfl
  · have hsum := sum_overlay_succ hr hcensus
    have hcalls := h.calls
    simp only [countUp]
    omega

/-- A decrement counts one object less. -/
theorem Balanced.decrement (h : Balanced m census) (hr : r ∈ Resource.overlay)
    (hcensus : ∀ s, census s = census' s + if s = r then 1 else 0) :
    Balanced (m.decrementUsed r).2 census' := by
  obtain ⟨n, hn, hc⟩ := h.used r hr
  have hn : m.used? r .global = some n := hn
  have hpos : n.toNat = census' r + 1 := by
    rw [hc, hcensus]
    simp
  have hne : n ≠ 0 := by
    rintro rfl
    have hmin : (0 : UInt32).toNat = 0 := rfl
    omega
  have hpred := toNat_pred hne
  obtain ⟨hstats, hused⟩ := countDown_of_used hn hne
  have hdown : m.decrementUsed r = m.countDown r .global := if_pos (isGlobal_of_overlay hr)
  rw [hdown]
  constructor
  · intro s hs
    by_cases heq : r = s
    · subst heq
      exact ⟨_, (hused r .global).trans (if_pos ⟨rfl, rfl⟩), by omega⟩
    · obtain ⟨k, hk, hks⟩ := h.used s hs
      refine ⟨k, (hused s .global).trans ((if_neg fun hboth => heq hboth.1).trans hk), ?_⟩
      rw [hks, hcensus, if_neg (Ne.symm heq)]
      rfl
  · have hsum := sum_overlay_succ hr hcensus
    have hcalls := h.calls
    rw [hstats]
    simp only
    omega

/-- At start-up nothing is counted. -/
theorem balanced_new (pollingMs : Nat) (telemetry : Telemetry) :
    Balanced (.new pollingMs telemetry) fun _ => 0 := by
  constructor
  · intro r hr
    refine ⟨0, ?_, rfl⟩
    rw [globalUsed?, used?, counter?_new, if_pos ⟨isGlobal_of_overlay hr, rfl⟩]
    rfl
  · rfl

end Monitor

/-! ## Census of a table -/

section Census

variable {ν : Type} {resource : ν → Resource} {t : Table String ν} {key : String}

def objectsOf (resource : ν → Resource) (t : Table String ν) (r : Resource) : Nat :=
  t.tally fun _ v => if r = resource v then 1 else 0

theorem objectsOf_le_size (resource : ν → Resource) (t : Table String ν) (r : Resource) :
    objectsOf resource t r ≤ t.size := by
  rw [Table.size_eq_tally]
  apply Table.tally_le_tally
  intro k v _
  split <;> omega

theorem objectsOf_eq_zero {r : Resource} (h : ∀ v, r ≠ resource v) : objectsOf resource t r = 0 :=
  Table.tally_eq_zero fun _ v => if_neg (h v)

theorem objectsOf_insert (v : ν) (h : t.get? key = none) (r : Resource) :
    objectsOf resource (t.insert key v) r =
      objectsOf resource t r + if r = resource v then 1 else 0 := by
  have herase := t.tally_erase (fun _ v => if r = resource v then 1 else 0) key
  rw [Table.weight_of_none _ h] at herase
  rw [objectsOf, Table.tally_insert, objectsOf, ← herase]
  rfl

theorem objectsOf_erase {v : ν} (h : t.get? key = some v) (r : Resource) :
    objectsOf resource t r =
      objectsOf resource (t.erase key) r + if r = resource v then 1 else 0 := by
  have herase := t.tally_erase (fun _ v => if r = resource v then 1 else 0) key
  rw [Table.weight_of_some _ h] at herase
  exact herase.symm

/-- A change of a value that stays counted as it was. -/
theorem objectsOf_modify {f : ν → ν}
    (h : ∀ v, t.get? key = some v → resource (f v) = resource v) (r : Resource) :
    objectsOf resource (t.modify key f) r = objectsOf resource t r := by
  have hmodify := t.tally_modify (fun _ v => if r = resource v then 1 else 0) key f
  cases hget : t.get? key with
  | none =>
    rw [Table.weight_of_none _ hget, hget] at hmodify
    exact hmodify
  | some v =>
    rw [Table.weight_of_some _ hget, hget, Option.elim_some, h v hget] at hmodify
    exact Nat.add_right_cancel hmodify

end Census

end DashAgent
