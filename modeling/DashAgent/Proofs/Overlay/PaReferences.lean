import DashAgent.Proofs.Overlay.MappingPass
import DashAgent.Proofs.Overlay.PaPlan

/-!
# Exact reference counts

A PA validation entry is there if and only if some stored mapping holds it, and its count is the
number of mappings that do. A commit whose action fits the count keeps it so.
-/
namespace DashAgent.MappingTable

def holds (pa key : String) (m : MappingRecord) : Bool :=
  m.paValidation && decide ((MappingKey.vnetOf? key).map m.paKey = some pa)

def holders (ms : Table String MappingRecord) (pa : String) : Nat :=
  ms.tally fun key m => if holds pa key m then 1 else 0

/-- The references counted on a PA validation entry; a missing entry has none. -/
def references (es : Table String PaRecord) (pa : String) : Nat :=
  ((es.references? pa).getD 0).toNat

/-- The entries are exactly those that are held, with exact counts, and every mapping is of some
use and has a VNET name in its key. -/
structure Exact (ms : Table String MappingRecord) (es : Table String PaRecord) : Prop where
  counted : ∀ pa, references es pa = holders ms pa
  present : ∀ pa, es.contains pa = true ↔ 0 < holders ms pa
  nonempty : ∀ {key m}, ms.get? key = some m → m.isEmpty = false
  keyed : ∀ {key m}, ms.get? key = some m → (MappingKey.vnetOf? key).isSome = true

theorem exact_empty : Exact .empty .empty where
  counted _ := rfl
  present _ := by
    rw [holders, Table.tally_empty, Table.contains_eq_isSome]
    simp
  nonempty := by simp
  keyed := by simp

theorem holders_le_size (ms : Table String MappingRecord) (pa : String) :
    holders ms pa ≤ ms.size := by
  rw [Table.size_eq_tally]
  apply Table.tally_le_tally
  intro key m _
  split <;> omega

theorem holds_of_isEmpty {pa key : String} {m : MappingRecord} (h : m.isEmpty = true) :
    holds pa key m = false := by
  simp only [MappingRecord.isEmpty, Bool.and_eq_true, Bool.not_eq_true'] at h
  simp [holds, h.2]

/-! ## Steps of an entry -/

section Steps

variable {es : Table String PaRecord} {pa : String} {m : MappingRecord}

theorem get?_paStep_of_ne {pa' : String} (h : pa ≠ pa') (action : PaAction) :
    (paStep es pa m action).get? pa' = es.get? pa' := by
  cases action with
  | acquire =>
    simp only [paStep]
    split
    · rw [Table.get?_modify, if_neg h]
    · exact Table.get?_insert_of_ne _ h
  | release =>
    simp only [paStep, Table.release]
    split
    · rfl
    · split
      · rfl
      · rw [Except.toOption, Option.getD_some, Table.get?_modify, if_neg h]
  | remove =>
    simp only [paStep]
    split
    · exact Table.get?_erase_of_ne h
    · rfl

theorem references_of_get? {p : PaRecord} (h : es.get? pa = some p) :
    references es pa = p.references.toNat := by
  simp [references, Table.references?, h, Referenced.references]

theorem references_of_not_contains (h : es.contains pa = false) : references es pa = 0 := by
  rw [Table.contains_eq_isSome, Option.isSome_eq_false_iff, Option.isNone_iff_eq_none] at h
  simp [references, Table.references?, h]

theorem references_congr {es' : Table String PaRecord} (h : es'.get? pa = es.get? pa) :
    references es' pa = references es pa := by
  rw [references, references, Table.references?, Table.references?, h]

/-- An acquired entry is there, with one more reference. -/
theorem references_acquire (hroom : references es pa + 1 < 2 ^ 32) :
    references (paStep es pa m .acquire) pa = references es pa + 1 ∧
      (paStep es pa m .acquire).contains pa = true := by
  simp only [paStep]
  split
  · next hcontains =>
    obtain ⟨p, hp⟩ := Option.isSome_iff_exists.1 (Table.contains_eq_isSome es pa ▸ hcontains)
    rw [references_of_get? hp] at hroom ⊢
    have hfree : p.references ≠ 0xffffffff := by
      intro hfull
      rw [hfull] at hroom
      have hmax : (0xffffffff : UInt32).toNat = 4294967295 := rfl
      omega
    have hget : (es.modify pa Referenced.acquired).get? pa =
        some { p with references := p.references + 1 } := by
      rw [Table.get?_modify, if_pos rfl, hp, Option.map_some]
      simp [Referenced.acquired, hfree]
    have hone : (1 : UInt32).toNat = 1 := rfl
    rw [references_of_get? hget, Table.contains_eq_isSome, hget, UInt32.toNat_add, hone]
    exact ⟨Nat.mod_eq_of_lt hroom, rfl⟩
  · next hcontains =>
    have hzero : references es pa = 0 := references_of_not_contains (by simpa using hcontains)
    rw [references_of_get? (Table.get?_insert_self ..), Table.contains_eq_isSome,
      Table.get?_insert_self, hzero]
    exact ⟨rfl, rfl⟩

/-- An entry that is released and not removed is there, with one reference less. -/
theorem references_release (hcontains : es.contains pa = true) (htwo : 2 ≤ references es pa) :
    references (paStep es pa m .release) pa = references es pa - 1 ∧
      (paStep es pa m .release).contains pa = true := by
  obtain ⟨p, hp⟩ := Option.isSome_iff_exists.1 (Table.contains_eq_isSome es pa ▸ hcontains)
  rw [references_of_get? hp] at htwo ⊢
  have hne : p.references ≠ 0 := by
    intro hzero
    rw [hzero] at htwo
    have hmin : (0 : UInt32).toNat = 0 := rfl
    omega
  have hget : (paStep es pa m .release).get? pa =
      some { p with references := p.references - 1 } := by
    simp only [paStep, Table.release, hp, Referenced.released?, if_neg hne, Except.toOption,
      Option.getD_some]
    rw [Table.get?_modify, if_pos rfl, hp, Option.map_some]
  have hone : (1 : UInt32).toNat = 1 := rfl
  have hle : (1 : UInt32) ≤ p.references := by
    rw [UInt32.le_iff_toNat_le]
    omega
  rw [references_of_get? hget, Table.contains_eq_isSome, hget, UInt32.toNat_sub_of_le _ _ hle, hone]
  exact ⟨rfl, rfl⟩

/-- A removed entry is gone. -/
theorem references_remove (hcontains : es.contains pa = true) :
    references (paStep es pa m .remove) pa = 0 ∧
      (paStep es pa m .remove).contains pa = false := by
  have hgone : (es.erase pa).contains pa = false := by
    rw [Table.contains_eq_isSome, Table.get?_erase_self]
    rfl
  simp only [paStep, hcontains, if_true]
  exact ⟨references_of_not_contains hgone, hgone⟩

/-- An action that fits changes the count as planned, and the entry is there while it is held. -/
theorem references_paStep (action : PaAction) (hroom : references es pa + 1 < 2 ^ 32)
    (hpresent : es.contains pa = true ↔ 0 < references es pa)
    (hfits : action.Fits (references es pa)) :
    references (paStep es pa m action) pa = action.after (references es pa) ∧
      ((paStep es pa m action).contains pa = true ↔ 0 < action.after (references es pa)) := by
  cases action with
  | acquire =>
    obtain ⟨hcount, hthere⟩ := references_acquire (m := m) hroom
    exact ⟨hcount, iff_of_true hthere (Nat.succ_pos _)⟩
  | release =>
    have htwo : 2 ≤ references es pa := hfits
    obtain ⟨hcount, hthere⟩ := references_release (m := m) (hpresent.2 (by omega)) htwo
    exact ⟨hcount, iff_of_true hthere (Nat.sub_pos_of_lt htwo)⟩
  | remove =>
    have hone : references es pa = 1 := hfits
    obtain ⟨hcount, hgone⟩ := references_remove (m := m) (hpresent.2 (by omega))
    rw [hgone]
    exact ⟨hcount, iff_of_false Bool.false_ne_true (Nat.lt_irrefl 0)⟩

end Steps

/-! ## A commit -/

section Commit

variable {ms : Table String MappingRecord} {es : Table String PaRecord} {key : String}
  {op : MappingOp} {m : MappingRecord}

/-- A mapping of the configuration that an operation works on is about the same entry. -/
theorem holds_eq (h : Agrees ms key op) (hm : m.config = op.mapping.config) (pa : String) :
    holds pa key m = (m.paValidation && decide (paOf key op = pa)) := by
  obtain ⟨vnet, hvnet⟩ := Option.isSome_iff_exists.1 h.vnet
  simp [holds, paOf, hvnet, MappingRecord.paKey, hm]

/-- What a commit does to the holders of an entry: only the committed mapping may differ. -/
theorem holders_commit (h : Agrees ms key op) (hm : m.config = op.mapping.config) (pa : String) :
    holders (stored ms key m) pa +
        (if op.mapping.paValidation && decide (paOf key op = pa) then 1 else 0) =
      holders ms pa + (if m.paValidation && decide (paOf key op = pa) then 1 else 0) := by
  have hmoved := h.stored.tally (w := fun key m => if holds pa key m then 1 else 0)
    (fun m hempty => by simp [holds_of_isEmpty hempty]) m
  rw [holds_eq h rfl, holds_eq h hm] at hmoved
  exact hmoved

/-- The other entries keep their holders. -/
theorem holders_of_ne (h : Agrees ms key op) (hm : m.config = op.mapping.config) {pa : String}
    (hne : paOf key op ≠ pa) : holders (stored ms key m) pa = holders ms pa := by
  simpa [hne] using holders_commit h hm pa

/-- An accepted action that fits changes the holders as it changes the count. -/
theorem holders_accepted (h : Exact ms es) (hagrees : Agrees ms key op)
    (hm : m.config = op.mapping.config) {action : PaAction}
    (hflag : m.paValidation = decide (action = .acquire))
    (hheld : op.mapping.paValidation = decide (action ≠ .acquire))
    (hfits : action.Fits (references es (paOf key op))) :
    holders (stored ms key m) (paOf key op) = action.after (references es (paOf key op)) := by
  have hholders := holders_commit hagrees hm (paOf key op)
  rw [← h.counted, hflag, hheld] at hholders
  cases action with
  | acquire =>
    simp at hholders
    exact hholders
  | release =>
    have htwo : 2 ≤ references es (paOf key op) := hfits
    simp at hholders
    simp only [PaAction.after]
    omega
  | remove =>
    have hone : references es (paOf key op) = 1 := hfits
    simp at hholders
    simp only [PaAction.after]
    omega

/-- A commit whose action fits keeps the counts exact. -/
theorem Exact.commit (h : Exact ms es) (hagrees : Agrees ms key op)
    (hm : m.config = op.mapping.config) {accepted : Option PaAction}
    (hflag : m.paValidation = accepted.elim op.mapping.paValidation (decide <| · = .acquire))
    (hkind : ∀ action, accepted = some action →
      op.mapping.paValidation = decide (action ≠ .acquire))
    (hfits : ∀ action, accepted = some action → action.Fits (references es (paOf key op)))
    (hroom : ms.size + 1 < 2 ^ 32) :
    Exact (stored ms key m) (accepted.elim es (paStep es (paOf key op) op.mapping)) := by
  have hcount : ∀ pa, references (accepted.elim es (paStep es (paOf key op) op.mapping)) pa =
        holders (stored ms key m) pa ∧
      ((accepted.elim es (paStep es (paOf key op) op.mapping)).contains pa = true ↔
        0 < holders (stored ms key m) pa) := by
    intro pa
    have hreferences := h.counted pa
    have hpresent := h.present pa
    have hsize := holders_le_size ms pa
    cases accepted with
    | none =>
      have hholders := holders_commit hagrees hm pa
      rw [hflag] at hholders
      rw [Nat.add_right_cancel hholders]
      exact ⟨hreferences, hpresent⟩
    | some action =>
      by_cases hpa : paOf key op = pa
      · subst hpa
        have hfit := hfits action rfl
        rw [holders_accepted h hagrees hm hflag (hkind action rfl) hfit]
        rw [← hreferences] at hpresent hsize
        exact references_paStep action (by omega) hpresent hfit
      · have hget : (paStep es (paOf key op) op.mapping action).get? pa = es.get? pa :=
          get?_paStep_of_ne hpa action
        rw [holders_of_ne hagrees hm hpa, Option.elim_some, references_congr hget,
          Table.contains_eq_isSome, hget, ← Table.contains_eq_isSome]
        exact ⟨hreferences, hpresent⟩
  refine ⟨fun pa => (hcount pa).1, fun pa => (hcount pa).2, ?_, ?_⟩
  · intro l m' hget
    by_cases hl : key = l
    · subst hl
      obtain ⟨rfl, hne⟩ := eq_of_get?_stored hget
      exact hne
    · rw [get?_stored_of_ne hl] at hget
      exact h.nonempty hget
  · intro l m' hget
    by_cases hl : key = l
    · subst hl
      exact hagrees.vnet
    · rw [get?_stored_of_ne hl] at hget
      exact h.keyed hget

end Commit

end DashAgent.MappingTable
