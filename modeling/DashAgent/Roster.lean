/-!
# Rosters

A roster holds one value for every member of a finite enumeration. It has no missing entries, so
reading it needs no default, and changing one entry leaves the others alone.
-/
namespace DashAgent

/-- A type whose members are numbered without repetition below `count`. -/
class Enumerated (ι : Type) where
  count : Nat
  number : ι → Fin count
  member : Fin count → ι
  member_number : ∀ i, member (number i) = i

/-- One value per member of `ι`. -/
structure Roster (ι ν : Type) [Enumerated ι] where
  cells : Vector ν (Enumerated.count ι)

namespace Roster

variable {ι ν : Type} [Enumerated ι]

/-- The value that `f` gives to every member. -/
def tabulate (f : ι → ν) : Roster ι ν := ⟨Vector.ofFn fun n => f (Enumerated.member n)⟩

def get (r : Roster ι ν) (i : ι) : ν := r.cells[Enumerated.number i]

def set (r : Roster ι ν) (i : ι) (v : ν) : Roster ι ν :=
  ⟨r.cells.set (Enumerated.number i) v⟩

def modify (r : Roster ι ν) (i : ι) (f : ν → ν) : Roster ι ν := r.set i (f (r.get i))

theorem number_inj {i j : ι} (h : Enumerated.number i = Enumerated.number j) : i = j := by
  rw [← Enumerated.member_number i, h, Enumerated.member_number]

@[simp] theorem get_tabulate (f : ι → ν) (i : ι) : (tabulate f).get i = f i := by
  simp [get, tabulate, Enumerated.member_number]

@[simp] theorem get_set_self (r : Roster ι ν) (i : ι) (v : ν) : (r.set i v).get i = v := by
  simp [get, set]

theorem get_set_of_ne (r : Roster ι ν) {i j : ι} (v : ν) (h : i ≠ j) :
    (r.set i v).get j = r.get j := by
  have hn : (Enumerated.number i).val ≠ (Enumerated.number j).val :=
    fun e => h (number_inj (Fin.ext e))
  simp [get, set, hn]

@[simp] theorem set_set (r : Roster ι ν) (i : ι) (v w : ν) : (r.set i v).set i w = r.set i w := by
  simp [set]

@[simp] theorem get_modify_self (r : Roster ι ν) (i : ι) (f : ν → ν) :
    (r.modify i f).get i = f (r.get i) := by
  simp [modify]

theorem get_modify_of_ne (r : Roster ι ν) {i j : ι} (f : ν → ν) (h : i ≠ j) :
    (r.modify i f).get j = r.get j := get_set_of_ne r (f (r.get i)) h

end Roster

end DashAgent
