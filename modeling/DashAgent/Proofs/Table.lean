import DashAgent.Table
import Mathlib.Algebra.BigOperators.Group.List.Basic
import Mathlib.Algebra.GroupWithZero.Nat

/-!
# Look-ups and tallies of tables

A tally gives every entry of a table a weight and adds the weights up. A table in which one key is
set, erased or changed differs in the weight of that key alone, so that what is counted elsewhere
can be compared with a table one step at a time. Keys that stand in their order keep it when keys
are set and erased.
-/
namespace DashAgent.Table

variable {κ ν : Type}

/-! ## Look-ups -/

section Lookup

variable [DecidableEq κ]

theorem get?_modify (t : Table κ ν) (k l : κ) (f : ν → ν) :
    (t.modify k f).get? l = if k = l then (t.get? l).map f else t.get? l := by
  have hpick : ((fun e : κ × ν => decide (e.1 = l)) ∘
      fun e => if e.1 = k then (e.1, f e.2) else e) = fun e => decide (e.1 = l) := by
    funext e
    simp only [Function.comp]
    split <;> rfl
  simp only [get?, modify, List.find?_map, hpick]
  cases hfound : t.entries.find? fun e => decide (e.1 = l) with
  | none => simp
  | some e =>
    have hkey : e.1 = l := by simpa using List.find?_some hfound
    by_cases hk : k = l
    · simp [hkey, hk]
    · simp [hkey, hk, Ne.symm hk]

theorem get?_mapValues (t : Table κ ν) (k : κ) (f : ν → ν) :
    (t.mapValues f).get? k = (t.get? k).map f := by
  simp only [get?, mapValues, List.find?_map]
  simp [Function.comp_def]

end Lookup

/-! ## Tallies -/

/-- The sum of the weights of all entries. -/
def tally (t : Table κ ν) (w : κ → ν → Nat) : Nat := (t.entries.map fun e => w e.1 e.2).sum

@[simp] theorem tally_empty (w : κ → ν → Nat) : (empty : Table κ ν).tally w = 0 := rfl

theorem size_eq_tally (t : Table κ ν) : t.size = t.tally fun _ _ => 1 := by
  simp [size, tally]

theorem tally_add (t : Table κ ν) (w w' : κ → ν → Nat) :
    (t.tally fun k v => w k v + w' k v) = t.tally w + t.tally w' := by
  simp [tally, List.sum_map_add]

/-- Weights of zero and one count entries. -/
theorem tally_eq_countP (t : Table κ ν) (p : κ → ν → Bool) :
    (t.tally fun k v => if p k v then 1 else 0) = t.entries.countP fun e => p e.1 e.2 := by
  unfold tally
  induction t.entries with
  | nil => rfl
  | cons e rest ih =>
    simp only [List.map_cons, List.sum_cons, List.countP_cons, ih]
    omega

theorem tally_le_tally {t : Table κ ν} {w w' : κ → ν → Nat}
    (h : ∀ k v, (k, v) ∈ t.entries → w k v ≤ w' k v) : t.tally w ≤ t.tally w' := by
  unfold tally
  generalize t.entries = l at h
  induction l with
  | nil => simp
  | cons e rest ih =>
    have hrest := ih fun k v hm => h k v (List.mem_cons_of_mem _ hm)
    have hhead := h e.1 e.2 (List.mem_cons_self ..)
    simp only [List.map_cons, List.sum_cons]
    omega

theorem ne_of_notMem_keys {e e' : κ × ν} {l : List (κ × ν)} {k : κ} (hk : e.1 = k)
    (h : e.1 ∉ l.map Prod.fst) (hm : e' ∈ l) : e'.1 ≠ k := by
  intro heq
  apply h
  rw [hk, ← heq]
  exact List.mem_map_of_mem hm

theorem tally_eq_zero {t : Table κ ν} {w : κ → ν → Nat} (h : ∀ k v, w k v = 0) :
    t.tally w = 0 := by
  simp [tally, h]

/-- The tallies of several weights add up to that of their sum. -/
theorem sum_tally {ι : Type} (t : Table κ ν) (w : ι → κ → ν → Nat) (l : List ι) :
    (l.map fun i => t.tally (w i)).sum = t.tally fun k v => (l.map fun i => w i k v).sum := by
  induction l with
  | nil => exact (tally_eq_zero fun _ _ => rfl).symm
  | cons i rest ih => simp only [List.map_cons, List.sum_cons, ih, tally_add]

/-- Weights that do not look at the key count values. -/
theorem tally_eq_countP_values (t : Table κ ν) (p : ν → Bool) :
    (t.tally fun _ v => if p v then 1 else 0) = t.values.countP p := by
  rw [tally_eq_countP t fun _ v => p v, values, List.countP_map]
  rfl

section Keys

variable [DecidableEq κ]

/-- What a key weighs in a table; a missing key weighs nothing. -/
def weight (t : Table κ ν) (w : κ → ν → Nat) (k : κ) : Nat := (t.get? k).elim 0 (w k)

theorem weight_of_none {t : Table κ ν} {k : κ} (w : κ → ν → Nat) (h : t.get? k = none) :
    t.weight w k = 0 := by
  simp [weight, h]

theorem weight_of_some {t : Table κ ν} {k : κ} {v : ν} (w : κ → ν → Nat)
    (h : t.get? k = some v) : t.weight w k = w k v := by
  simp [weight, h]

/-- A table weighs what it weighs without a key, and what the key weighs. -/
theorem tally_erase (t : Table κ ν) (w : κ → ν → Nat) (k : κ) :
    (t.erase k).tally w + t.weight w k = t.tally w := by
  obtain ⟨l, hl⟩ := t
  simp only [tally, entries_erase, weight, get?]
  induction l with
  | nil => simp
  | cons e rest ih =>
    rw [List.map_cons, List.nodup_cons] at hl
    have hrest := ih hl.2
    by_cases hk : e.1 = k
    · have habsent : rest.filter (·.1 ≠ k) = rest := by
        rw [List.filter_eq_self]
        intro e' he'
        simpa using ne_of_notMem_keys hk hl.1 he'
      rw [List.filter_cons_of_neg (by simp [hk]), habsent, List.find?_cons_of_pos (by simp [hk])]
      simp [hk, Nat.add_comm]
    · rw [List.filter_cons_of_pos (by simp [hk]), List.find?_cons_of_neg (by simp [hk])]
      simp only [List.map_cons, List.sum_cons]
      omega

/-- Different keys of some weight each. -/
theorem length_le_tally {t : Table κ ν} {w : κ → ν → Nat} {ks : List κ} (hnodup : ks.Nodup)
    (h : ∀ k ∈ ks, 1 ≤ t.weight w k) : ks.length ≤ t.tally w := by
  induction ks generalizing t with
  | nil => exact Nat.zero_le _
  | cons k rest ih =>
    rw [List.nodup_cons] at hnodup
    have hrest : rest.length ≤ (t.erase k).tally w := by
      apply ih hnodup.2
      intro l hl
      have hne : k ≠ l := by
        intro heq
        subst heq
        exact hnodup.1 hl
      rw [weight, get?_erase_of_ne hne]
      exact h l (List.mem_cons_of_mem _ hl)
    have hk := h k (List.mem_cons_self ..)
    have hsplit := t.tally_erase w k
    rw [List.length_cons]
    omega

/-- Different keys of some kind are all keys of that kind just if they are as many. -/
theorem length_eq_tally_iff {t : Table κ ν} {p : κ → ν → Bool} {ks : List κ} (hnodup : ks.Nodup)
    (h : ∀ k ∈ ks, ∃ v, t.get? k = some v ∧ p k v = true) :
    ks.length = t.tally (fun k v => if p k v then 1 else 0) ↔
      ∀ k v, t.get? k = some v → p k v = true → k ∈ ks := by
  have hweight : ∀ k ∈ ks, 1 ≤ t.weight (fun k v => if p k v then 1 else 0) k := by
    intro k hk
    obtain ⟨v, hv, hp⟩ := h k hk
    simp [weight_of_some _ hv, hp]
  constructor
  · intro heq k v hv hp
    by_contra hk
    have hmore : (k :: ks).length ≤ t.tally fun k v => if p k v then 1 else 0 := by
      refine length_le_tally (List.nodup_cons.2 ⟨hk, hnodup⟩) ?_
      rw [List.forall_mem_cons, weight_of_some _ hv, if_pos hp]
      exact ⟨Nat.le_refl 1, hweight⟩
    rw [List.length_cons] at hmore
    omega
  · intro hall
    apply Nat.le_antisymm (length_le_tally hnodup hweight)
    have hkeys : ((t.entries.filter fun e => p e.1 e.2).map Prod.fst).Nodup :=
      t.nodup.sublist (List.filter_sublist.map _)
    have hsubset : (t.entries.filter fun e => p e.1 e.2).map Prod.fst ⊆ ks := by
      intro k hk
      obtain ⟨e, he, rfl⟩ := List.mem_map.1 hk
      obtain ⟨hmem, hp⟩ := List.mem_filter.1 he
      exact hall _ _ (get?_eq_some_iff.2 hmem) hp
    rw [tally_eq_countP, List.countP_eq_length_filter, ← List.length_map Prod.fst]
    exact (List.subperm_of_subset hkeys hsubset).length_le

theorem size_erase (t : Table κ ν) (k : κ) :
    (t.erase k).size + (if t.contains k then 1 else 0) = t.size := by
  rw [size_eq_tally, size_eq_tally, ← t.tally_erase _ k, contains_eq_isSome, weight]
  cases t.get? k <;> rfl

/-- Changing the value of a key changes its weight alone. -/
theorem tally_modify (t : Table κ ν) (w : κ → ν → Nat) (k : κ) (f : ν → ν) :
    (t.modify k f).tally w + t.weight w k = t.tally w + (t.get? k).elim 0 fun v => w k (f v) := by
  obtain ⟨l, hl⟩ := t
  simp only [tally, modify, weight, get?]
  induction l with
  | nil => simp
  | cons e rest ih =>
    rw [List.map_cons, List.nodup_cons] at hl
    have hrest := ih hl.2
    by_cases hk : e.1 = k
    · have habsent : rest.map (fun e => if e.1 = k then (e.1, f e.2) else e) = rest := by
        conv => rhs; rw [← List.map_id rest]
        apply List.map_congr_left
        intro e' he'
        simp [ne_of_notMem_keys hk hl.1 he']
      simp only [List.map_cons, habsent, List.find?_cons, hk, decide_true, if_true,
        List.sum_cons, Option.map_some, Option.elim_some]
      omega
    · simp only [List.map_cons, List.find?_cons, hk, decide_false, List.sum_cons, if_false]
        at hrest ⊢
      omega

@[simp] theorem size_modify (t : Table κ ν) (k : κ) (f : ν → ν) : (t.modify k f).size = t.size := by
  simp [size, modify]

variable [Ord κ]

theorem tally_insert (t : Table κ ν) (w : κ → ν → Nat) (k : κ) (v : ν) :
    (t.insert k v).tally w = (t.erase k).tally w + w k v := by
  have h := ((entries_insert_perm t k v).map fun e => w e.1 e.2).sum_eq
  simp only [tally, entries_erase, h, List.map_cons, List.sum_cons]
  omega

theorem size_insert (t : Table κ ν) (k : κ) (v : ν) :
    (t.insert k v).size = (t.erase k).size + 1 := by
  rw [size_eq_tally, size_eq_tally, tally_insert]

theorem contains_insert (t : Table κ ν) (k l : κ) (v : ν) :
    (t.insert k v).contains l = true ↔ l = k ∨ t.contains l = true := by
  rw [contains_eq_isSome, contains_eq_isSome]
  by_cases hkey : k = l
  · simp [hkey]
  · rw [get?_insert_of_ne v hkey]
    simp [Ne.symm hkey]

end Keys

/-! ## Order -/

section Order

variable [Ord κ]

/-- Every key comes before the keys behind it. -/
def Ascending (t : Table κ ν) : Prop := t.keys.Pairwise fun k l => compare k l = .lt

theorem ascending_empty : (empty : Table κ ν).Ascending := .nil

theorem ascending_mapValues (t : Table κ ν) (f : ν → ν) :
    (t.mapValues f).Ascending ↔ t.Ascending := by
  have hkeys : (t.mapValues f).keys = t.keys := by
    simp [keys, mapValues, Function.comp_def]
  rw [Ascending, hkeys]
  rfl

theorem Ascending.erase [DecidableEq κ] {t : Table κ ν} (h : t.Ascending) (k : κ) :
    (t.erase k).Ascending := h.sublist (List.filter_sublist.map _)

variable [Std.TransOrd κ] [Std.LawfulEqOrd κ]

/-- A new key is placed behind the keys before it and in front of the keys after it. -/
theorem pairwise_place {k : κ} (v : ν) {l : List (κ × ν)}
    (hl : (l.map Prod.fst).Pairwise fun k l => compare k l = .lt) (hk : k ∉ l.map Prod.fst) :
    ((place k v l).map Prod.fst).Pairwise fun k l => compare k l = .lt := by
  induction l with
  | nil => exact List.pairwise_singleton ..
  | cons e rest ih =>
    rw [List.map_cons, List.pairwise_cons] at hl
    rw [List.map_cons, List.mem_cons, not_or] at hk
    simp only [place]
    split
    · next hbefore =>
      rw [List.map_cons, List.map_cons, List.pairwise_cons, List.pairwise_cons]
      refine ⟨fun l hmem => ?_, hl⟩
      rcases List.mem_cons.1 hmem with rfl | hrest
      · exact hbefore
      · exact Std.TransCmp.lt_trans hbefore (hl.1 l hrest)
    · next hnot =>
      have hafter : compare e.1 k = .lt := by
        cases hcompare : compare k e.1 with
        | lt => exact absurd hcompare hnot
        | eq => exact absurd (Std.LawfulEqOrd.eq_of_compare hcompare) hk.1
        | gt => exact Std.OrientedCmp.lt_of_gt hcompare
      rw [List.map_cons, List.pairwise_cons]
      refine ⟨fun l hmem => ?_, ih hl.2 hk.2⟩
      rw [((place_perm k v rest).map Prod.fst).mem_iff, List.map_cons] at hmem
      rcases List.mem_cons.1 hmem with rfl | hrest
      · exact hafter
      · exact hl.1 l hrest

theorem Ascending.insert [DecidableEq κ] {t : Table κ ν} (h : t.Ascending) (k : κ) (v : ν) :
    (t.insert k v).Ascending := by
  have habsent : k ∉ (t.erase k).keys := get?_eq_none_iff.1 (t.get?_erase_self k)
  exact pairwise_place v (h.erase k) habsent

end Order

end DashAgent.Table
