import Mathlib.Algebra.GroupWithZero.Nat

/-!
# Arithmetic in words

Sums, products, quotients and differences of fixed width, and conversions to fewer bits. Each has
the exact result where that fits, and no result where it overflows, divides by zero or cuts bits
off. So a computation over these operations that always has a result shows that its words are wide
enough, and may be carried out in numbers instead.
-/
namespace DashAgent.Word

/-- The sum of two words, unless it overflows. -/
def sum? (a b : UInt64) : Option UInt64 :=
  if a.toBitVec.uaddOverflow b.toBitVec then none else some (a + b)

def product? (a b : UInt64) : Option UInt64 :=
  if a.toBitVec.umulOverflow b.toBitVec then none else some (a * b)

def quotient? (a b : UInt64) : Option UInt64 := if b = 0 then none else some (a / b)

def half? (a : UInt64) : Option UInt32 := if 0x100000000 ≤ a.toNat then none else some a.toUInt32

def halfSum? (a b : UInt32) : Option UInt32 :=
  if a.toBitVec.uaddOverflow b.toBitVec then none else some (a + b)

def difference? (a b : Int32) : Option Int32 :=
  if a.toBitVec.ssubOverflow b.toBitVec then none else some (a - b)

/-- The last sixteen bits of a signed word, unless this changes the number. -/
def last16? (a : Int32) : Option UInt16 :=
  if a.toInt < 0 ∨ 0x10000 ≤ a.toInt then none else some a.toUInt32.toUInt16

section Unsigned

variable {a b c : UInt64}

theorem sum?_eq_some_iff : sum? a b = some c ↔ a.toNat + b.toNat = c.toNat := by
  have hlt := c.toNat_lt
  unfold sum?
  split
  · next hover =>
    simp only [BitVec.uaddOverflow, decide_eq_true_eq, UInt64.toNat_toBitVec] at hover
    simp only [reduceCtorEq, false_iff]
    omega
  · next hfits =>
    have hsum : (a + b).toNat = a.toNat + b.toNat := BitVec.toNat_add_of_not_uaddOverflow hfits
    rw [Option.some.injEq, ← UInt64.toNat_inj, hsum]

theorem product?_eq_some_iff : product? a b = some c ↔ a.toNat * b.toNat = c.toNat := by
  have hlt := c.toNat_lt
  unfold product?
  split
  · next hover =>
    simp only [BitVec.umulOverflow, decide_eq_true_eq, UInt64.toNat_toBitVec] at hover
    simp only [reduceCtorEq, false_iff]
    omega
  · next hfits =>
    have hproduct : (a * b).toNat = a.toNat * b.toNat :=
      BitVec.toNat_mul_of_not_umulOverflow hfits
    rw [Option.some.injEq, ← UInt64.toNat_inj, hproduct]

theorem quotient?_eq_some_iff :
    quotient? a b = some c ↔ b ≠ 0 ∧ a.toNat / b.toNat = c.toNat := by
  unfold quotient?
  split
  · next hzero => simp [hzero]
  · next hzero => simp [hzero, ← UInt64.toNat_inj]

theorem half?_eq_some_iff {n : UInt32} : half? a = some n ↔ a.toNat = n.toNat := by
  have hlt := n.toNat_lt
  unfold half?
  split
  · simp only [reduceCtorEq, false_iff]
    omega
  · next hfits =>
    rw [Option.some.injEq, ← UInt32.toNat_inj, UInt64.toNat_toUInt32]
    omega

theorem halfSum?_eq_some_iff {a b c : UInt32} :
    halfSum? a b = some c ↔ a.toNat + b.toNat = c.toNat := by
  have hlt := c.toNat_lt
  unfold halfSum?
  split
  · next hover =>
    simp only [BitVec.uaddOverflow, decide_eq_true_eq, UInt32.toNat_toBitVec] at hover
    simp only [reduceCtorEq, false_iff]
    omega
  · next hfits =>
    have hsum : (a + b).toNat = a.toNat + b.toNat := BitVec.toNat_add_of_not_uaddOverflow hfits
    rw [Option.some.injEq, ← UInt32.toNat_inj, hsum]

/-- A sum that fits has its word. -/
theorem exists_halfSum? {a b : UInt32} (h : a.toNat + b.toNat < 2 ^ 32) :
    ∃ c, halfSum? a b = some c ∧ c.toNat = a.toNat + b.toNat := by
  obtain ⟨c, hc⟩ : ∃ c : UInt32, c.toNat = a.toNat + b.toNat :=
    ⟨UInt32.ofNat (a.toNat + b.toNat), UInt32.toNat_ofNat_of_lt' h⟩
  exact ⟨c, halfSum?_eq_some_iff.2 hc.symm, hc⟩

end Unsigned

section Signed

variable {a b c : Int32}

theorem difference?_eq_some_iff : difference? a b = some c ↔ a.toInt - b.toInt = c.toInt := by
  have hle := c.le_toInt
  have hlt := c.toInt_lt
  unfold difference?
  split
  · next hover =>
    simp only [BitVec.ssubOverflow, Int32.toInt_toBitVec, Bool.or_eq_true, decide_eq_true_eq]
      at hover
    simp only [reduceCtorEq, false_iff]
    omega
  · next hfits =>
    have hdifference : (a - b).toInt = a.toInt - b.toInt :=
      BitVec.toInt_sub_of_not_ssubOverflow hfits
    rw [Option.some.injEq, ← Int32.toInt_inj, hdifference]

theorem last16?_eq_some_iff {n : UInt16} : last16? a = some n ↔ a.toInt = n.toNat := by
  have hlt := n.toNat_lt
  unfold last16?
  split
  · simp only [reduceCtorEq, false_iff]
    omega
  · next hfits =>
    have hcond := BitVec.toInt_eq_toNat_cond a.toBitVec
    rw [Int32.toInt_toBitVec, Int32.toNat_toBitVec] at hcond
    have hword := a.toUInt32.toNat_lt
    rw [Option.some.injEq, ← UInt16.toNat_inj, UInt32.toNat_toUInt16]
    split at hcond <;> omega

end Signed

end DashAgent.Word
