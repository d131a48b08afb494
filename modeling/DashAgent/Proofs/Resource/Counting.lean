import DashAgent.Resource.Monitor.Accounting
import Mathlib.Data.List.Basic

/-!
# Counting created objects

The counts that a monitor keeps of created objects depend on which objects these are, and not on the
order in which they are counted: different resources have different records, and one resource is
counted up in the same way every time. Main theorem: `Monitor.countAll_perm`.
-/
namespace DashAgent

/-- The values of different members can be replaced in either order. -/
theorem Roster.set_comm {ι ν : Type} [Enumerated ι] (r : Roster ι ν) {i j : ι} (h : i ≠ j)
    (v w : ν) : (r.set i v).set j w = (r.set j w).set i v := by
  have hnumbers : (Enumerated.number i).val ≠ (Enumerated.number j).val :=
    fun heq => h (number_inj (Fin.ext heq))
  simp only [set]
  rw [Vector.set_comm _ _ hnumbers]

namespace Monitor

/-- The monitor after the creation of so many objects, each of a resource. -/
def countAll (m : Monitor) (rs : List Resource) : Monitor :=
  rs.foldl (fun m r => (m.incrementUsed r).2) m

@[simp] theorem countAll_nil (m : Monitor) : m.countAll [] = m := rfl

theorem countAll_append (m : Monitor) (rs rs' : List Resource) :
    m.countAll (rs ++ rs') = (m.countAll rs).countAll rs' := List.foldl_append

@[simp] theorem countAll_concat (m : Monitor) (rs : List Resource) (r : Resource) :
    m.countAll (rs ++ [r]) = ((m.countAll rs).incrementUsed r).2 := countAll_append ..

/-- Objects are counted one by one in either order. -/
theorem incrementUsed_comm (m : Monitor) (r s : Resource) :
    ((m.incrementUsed r).2.incrementUsed s).2 = ((m.incrementUsed s).2.incrementUsed r).2 := by
  by_cases hrs : r = s
  · rw [hrs]
  unfold incrementUsed
  by_cases hr : r.isGlobal = true <;> by_cases hs : s.isGlobal = true <;>
    simp only [hr, hs, refuse, if_true, Bool.false_eq_true, if_false]
  simp only [countUp, modifyRecord, record, Roster.modify,
    Roster.get_set_of_ne _ _ hrs, Roster.get_set_of_ne _ _ (Ne.symm hrs)]
  rw [Roster.set_comm _ hrs]

/-- The order in which objects are counted does not matter. -/
theorem countAll_perm (m : Monitor) {rs rs' : List Resource} (h : rs.Perm rs') :
    m.countAll rs = m.countAll rs' :=
  h.foldl_eq' (fun r _ s _ m => incrementUsed_comm m r s) m

end Monitor

end DashAgent
