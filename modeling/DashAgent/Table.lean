/-!
# Keyed tables

A table maps keys to values, each key once, and lists its entries with a new key in front of the
first greater one. Nothing is ever created by a look-up: a missing key reads as `none`. What
`insert`, `erase` and `modify` do to look-ups and to the list of entries is said once here, and
holds whatever the order on keys is.
-/
namespace DashAgent

/-- Entries with pairwise distinct keys. -/
structure Table (κ ν : Type) where
  entries : List (κ × ν)
  nodup : (entries.map Prod.fst).Nodup
  deriving DecidableEq, Repr

namespace Table

variable {κ ν : Type}

def empty : Table κ ν := ⟨[], by simp⟩

instance : Inhabited (Table κ ν) := ⟨empty⟩

def keys (t : Table κ ν) : List κ := t.entries.map Prod.fst

def values (t : Table κ ν) : List ν := t.entries.map Prod.snd

def size (t : Table κ ν) : Nat := t.entries.length

def isEmpty (t : Table κ ν) : Bool := t.entries.isEmpty

section Lookup

variable [DecidableEq κ]

def get? (t : Table κ ν) (k : κ) : Option ν := (t.entries.find? (·.1 = k)).map Prod.snd

def contains (t : Table κ ν) (k : κ) : Bool := t.entries.any (·.1 = k)

def erase (t : Table κ ν) (k : κ) : Table κ ν where
  entries := t.entries.filter (·.1 ≠ k)
  nodup := t.nodup.sublist ((List.filter_sublist).map _)

/-- The table with the value of a key changed by `f`; a missing key stays missing. -/
def modify (t : Table κ ν) (k : κ) (f : ν → ν) : Table κ ν where
  entries := t.entries.map fun e => if e.1 = k then (e.1, f e.2) else e
  nodup := by
    have h : (Prod.fst ∘ fun e : κ × ν => if e.1 = k then (e.1, f e.2) else e) = Prod.fst := by
      funext e
      simp only [Function.comp]
      split <;> rfl
    rw [List.map_map, h]
    exact t.nodup

end Lookup

/-- The table with every value changed by `f`. -/
def mapValues (t : Table κ ν) (f : ν → ν) : Table κ ν where
  entries := t.entries.map fun e => (e.1, f e.2)
  nodup := by
    rw [List.map_map]
    exact t.nodup

section Order

variable [Ord κ]

/-- The entries with a new one in front of the first greater key. -/
def place (k : κ) (v : ν) : List (κ × ν) → List (κ × ν)
  | [] => [(k, v)]
  | e :: rest => if compare k e.1 = .lt then (k, v) :: e :: rest else e :: place k v rest

theorem place_perm (k : κ) (v : ν) (l : List (κ × ν)) : (place k v l).Perm ((k, v) :: l) := by
  induction l with
  | nil => exact .refl _
  | cons e rest ih =>
    simp only [place]
    split
    · exact .refl _
    · exact (ih.cons e).trans (.swap _ _ _)

variable [DecidableEq κ]

/-- The table with a key set to a value, whether or not it was there. -/
def insert (t : Table κ ν) (k : κ) (v : ν) : Table κ ν where
  entries := place k v (t.erase k).entries
  nodup := by
    refine (((place_perm k v _).map Prod.fst).nodup_iff).2 ?_
    rw [List.map_cons, List.nodup_cons]
    exact ⟨by simp [erase], (t.erase k).nodup⟩

/-- The table with the given pairs set one after another. -/
def insertAll (t : Table κ ν) (pairs : List (κ × ν)) : Table κ ν :=
  pairs.foldl (fun t e => t.insert e.1 e.2) t

/-- The entries of a table that one key is set in. -/
theorem entries_insert_perm (t : Table κ ν) (k : κ) (v : ν) :
    (t.insert k v).entries.Perm ((k, v) :: t.entries.filter (·.1 ≠ k)) :=
  place_perm k v _

end Order

section Laws

variable [DecidableEq κ]

@[simp] theorem get?_empty (k : κ) : (empty : Table κ ν).get? k = none := rfl

theorem entries_erase (t : Table κ ν) (k : κ) :
    (t.erase k).entries = t.entries.filter (·.1 ≠ k) := rfl

/-- A look-up finds exactly the pairs of the table. -/
theorem get?_eq_some_iff {t : Table κ ν} {k : κ} {v : ν} :
    t.get? k = some v ↔ (k, v) ∈ t.entries := by
  obtain ⟨l, h⟩ := t
  simp only [get?]
  induction l with
  | nil => simp
  | cons e rest ih =>
    simp only [List.map_cons, List.nodup_cons, List.mem_map, not_exists, not_and] at h
    simp only [List.find?_cons, List.mem_cons]
    by_cases hk : e.1 = k
    · subst hk
      have : (e.1, v) ∉ rest := fun hm => h.1 _ hm rfl
      simp [this, Prod.ext_iff, eq_comm]
    · have hne : (k, v) ≠ e := fun he => hk (by simp [← he])
      simp [hk, hne, ih h.2]

theorem get?_eq_none_iff {t : Table κ ν} {k : κ} : t.get? k = none ↔ k ∉ t.keys := by
  simp only [get?, keys, Option.map_eq_none_iff, List.find?_eq_none, decide_eq_true_eq,
    List.mem_map, not_exists, not_and]

theorem contains_eq_isSome (t : Table κ ν) (k : κ) : t.contains k = (t.get? k).isSome := by
  rw [Bool.eq_iff_iff]
  simp [contains, get?, List.find?_isSome]

@[simp] theorem get?_erase_self (t : Table κ ν) (k : κ) : (t.erase k).get? k = none := by
  simp [get?_eq_none_iff, keys, erase]

theorem get?_erase_of_ne {t : Table κ ν} {k l : κ} (h : k ≠ l) :
    (t.erase k).get? l = t.get? l := by
  apply Option.ext
  intro v
  simp [get?_eq_some_iff, entries_erase, h.symm]

variable [Ord κ]

@[simp] theorem get?_insert_self (t : Table κ ν) (k : κ) (v : ν) :
    (t.insert k v).get? k = some v :=
  get?_eq_some_iff.2 ((entries_insert_perm t k v).mem_iff.2 (List.mem_cons_self ..))

theorem get?_insert_of_ne {t : Table κ ν} {k l : κ} (v : ν) (h : k ≠ l) :
    (t.insert k v).get? l = t.get? l := by
  apply Option.ext
  intro w
  rw [get?_eq_some_iff, (entries_insert_perm t k v).mem_iff, get?_eq_some_iff]
  simp [h.symm]

end Laws

end Table

end DashAgent
