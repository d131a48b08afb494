import DashAgent.Proofs.Words
import DashAgent.Resource.Counter
import Mathlib.Algebra.Order.Ring.Nat

/-!
# Utilization

The utilization of a counter is the share of its used entries in percent, rounded down. Computed in
words it never overflows. It grows with the used entries and shrinks with the available ones, and to
compare it with a whole threshold is to compare the share itself. Main theorem:
`utilization_exact`.
-/
namespace DashAgent.Counter

variable {c c' : Counter}

/-- The utilization in words: a sum and a product in 64 bits, and their quotient in 32. -/
def percentInWords? (c : Counter) : Option UInt32 :=
  if c.used = 0 then some 0
  else do
    let total ← Word.sum? c.used.toUInt64 c.available.toUInt64
    let scaled ← Word.product? c.used.toUInt64 100
    let quotient ← Word.quotient? scaled total
    Word.half? quotient

def total (c : Counter) : Nat := c.used.toNat + c.available.toNat

/-- Nothing used is no case of its own. -/
theorem percent_eq (c : Counter) : c.percent = c.used.toNat * 100 / c.total := by
  unfold percent total
  split
  · next hused => simp [hused]
  · rfl

/-! ## Against whole numbers -/

theorem le_percent_iff (h : 0 < c.used.toNat) {n : Nat} :
    n ≤ c.percent ↔ n * c.total ≤ c.used.toNat * 100 := by
  have htotal : 0 < c.total := Nat.add_pos_left h _
  rw [percent_eq, Nat.le_div_iff_mul_le htotal]

theorem percent_le_iff (h : 0 < c.used.toNat) {n : Nat} :
    c.percent ≤ n ↔ c.used.toNat * 100 < (n + 1) * c.total := by
  rw [← Nat.not_le, ← le_percent_iff h]
  omega

theorem percent_of_used_eq_zero (h : c.used.toNat = 0) : c.percent = 0 := by
  rw [percent_eq, h, Nat.zero_mul, Nat.zero_div]

theorem percent_le_hundred (c : Counter) : c.percent ≤ 100 := by
  obtain h | h := Nat.eq_zero_or_pos c.used.toNat
  · rw [percent_of_used_eq_zero h]
    exact Nat.zero_le _
  · rw [percent_le_iff h, total]
    omega

theorem toNat_ofNat_percent (c : Counter) : (UInt32.ofNat c.percent).toNat = c.percent :=
  UInt32.toNat_ofNat_of_lt' (Nat.lt_of_le_of_lt c.percent_le_hundred (by decide))

/-- A pool is at one hundred percent if and only if it has used entries and no available ones. -/
theorem percent_eq_hundred_iff : c.percent = 100 ↔ 0 < c.used ∧ c.available = 0 := by
  have hle := c.percent_le_hundred
  rw [← UInt32.toNat_inj, UInt32.lt_iff_toNat_lt, UInt32.toNat_zero]
  obtain h | h := Nat.eq_zero_or_pos c.used.toNat
  · rw [percent_of_used_eq_zero h]
    omega
  · have hfull := le_percent_iff h (n := 100)
    rw [total] at hfull
    omega

/-! ## Growing and shrinking -/

/-- More used and fewer available entries never lower the utilization. -/
theorem percent_mono (hused : c.used ≤ c'.used) (havailable : c'.available ≤ c.available) :
    c.percent ≤ c'.percent := by
  rw [UInt32.le_iff_toNat_le] at hused havailable
  obtain h | h := Nat.eq_zero_or_pos c.used.toNat
  · rw [percent_of_used_eq_zero h]
    exact Nat.zero_le _
  · have hle := c.percent_le_hundred
    have hfloor : c.percent * c.total ≤ c.used.toNat * 100 := (le_percent_iff h).1 (Nat.le_refl _)
    rw [le_percent_iff (Nat.lt_of_lt_of_le h hused)]
    -- An entry more counts a hundred at the top and at most a hundred at the bottom.
    calc c.percent * c'.total
        ≤ c.percent * (c.total + (c'.used.toNat - c.used.toNat)) :=
          Nat.mul_le_mul_left _ (by unfold total; omega)
      _ = c.percent * c.total + c.percent * (c'.used.toNat - c.used.toNat) := Nat.mul_add ..
      _ ≤ c.used.toNat * 100 + 100 * (c'.used.toNat - c.used.toNat) :=
          Nat.add_le_add hfloor (Nat.mul_le_mul_right _ hle)
      _ = c'.used.toNat * 100 := by omega

/-! ## In words -/

/-- Every step of the computation has a result. -/
theorem percentInWords?_eq (c : Counter) : c.percentInWords? = some (UInt32.ofNat c.percent) := by
  unfold percentInWords?
  split
  · next hused =>
    rw [percent_of_used_eq_zero (by rw [hused, UInt32.toNat_zero])]
    rfl
  · next hused =>
    have hpos : 0 < c.used.toNat := Nat.pos_of_ne_zero fun h => hused (UInt32.toNat_inj.1 h)
    have hu := c.used.toNat_lt
    have ha := c.available.toNat_lt
    have hle := c.percent_le_hundred
    have hword : ∀ n, n < 2 ^ 64 → (UInt64.ofNat n).toNat = n :=
      fun n hn => UInt64.toNat_ofNat_of_lt' hn
    have htotal : (UInt64.ofNat c.total).toNat = c.total := hword _ (by unfold total; omega)
    have hscaled : (UInt64.ofNat (c.used.toNat * 100)).toNat = c.used.toNat * 100 :=
      hword _ (by omega)
    have hpercent : (UInt64.ofNat c.percent).toNat = c.percent := hword _ (by omega)
    have hsum : Word.sum? c.used.toUInt64 c.available.toUInt64 = some (UInt64.ofNat c.total) := by
      rw [Word.sum?_eq_some_iff, htotal, UInt32.toNat_toUInt64, UInt32.toNat_toUInt64, total]
    have hproduct : Word.product? c.used.toUInt64 100 =
        some (UInt64.ofNat (c.used.toNat * 100)) := by
      rw [Word.product?_eq_some_iff, hscaled, UInt32.toNat_toUInt64]
      rfl
    have hquotient : Word.quotient? (UInt64.ofNat (c.used.toNat * 100)) (UInt64.ofNat c.total) =
        some (UInt64.ofNat c.percent) := by
      rw [Word.quotient?_eq_some_iff, ← UInt64.toNat_inj.ne, htotal, hscaled, hpercent, percent_eq]
      exact ⟨Nat.ne_of_gt (Nat.add_pos_left hpos _), rfl⟩
    have hhalf : Word.half? (UInt64.ofNat c.percent) = some (UInt32.ofNat c.percent) := by
      rw [Word.half?_eq_some_iff, hpercent, toNat_ofNat_percent]
    simp only [hsum, hproduct, hquotient, hhalf, Option.bind_eq_bind, Option.bind_some]

/-! ## The utilization -/

/-- The utilization is computed in words: no sum or product overflows, nothing is divided by zero,
and the quotient fits. It is at most one hundred, and one hundred only for a pool that has used
entries and no available ones. More used and fewer available entries never lower it. As soon as
anything is used, it stands to a percentage threshold as the share of the used entries itself
does. -/
theorem utilization_exact (c : Counter) :
    (∃ p, c.percentInWords? = some p ∧ p.toNat = c.percent) ∧
      c.percent ≤ 100 ∧
      (c.percent = 100 ↔ 0 < c.used ∧ c.available = 0) ∧
      (∀ c' : Counter, c.used ≤ c'.used → c'.available ≤ c.available → c.percent ≤ c'.percent) ∧
      ∀ t : Thresholds, t.type = .percentage → 0 < c.used →
        (t.high.toNat ≤ c.utilization t.type ↔
          t.high.toNat * (c.used.toNat + c.available.toNat) ≤ c.used.toNat * 100) ∧
        (c.utilization t.type ≤ t.low.toNat ↔
          c.used.toNat * 100 < (t.low.toNat + 1) * (c.used.toNat + c.available.toNat)) := by
  refine ⟨⟨_, c.percentInWords?_eq, c.toNat_ofNat_percent⟩, c.percent_le_hundred,
    percent_eq_hundred_iff, fun _ => percent_mono, ?_⟩
  intro t htype hused
  rw [htype]
  exact ⟨le_percent_iff hused, percent_le_iff hused⟩

/-- A pool of the largest counts is half in use. -/
theorem largestCounts_half :
    (⟨0, 0xffffffff, 1, 0⟩ : Counter).percent ≤ (⟨0, 0xffffffff, 0xffffffff, 0⟩ : Counter).percent ∧
      50 ≤ (⟨0, 0xffffffff, 0xffffffff, 0⟩ : Counter).utilization .percentage ∧
      ¬(⟨0, 0xffffffff, 0xffffffff, 0⟩ : Counter).utilization .percentage ≤ 49 := by
  obtain ⟨hhigh, hlow⟩ := (utilization_exact ⟨0, 0xffffffff, 0xffffffff, 0⟩).2.2.2.2
    ⟨.percentage, 49, 50⟩ rfl (by decide)
  refine ⟨(utilization_exact _).2.2.2.1 _ (by decide) (by decide), hhigh.2 (by decide), ?_⟩
  exact mt hlow.1 (by decide)

end DashAgent.Counter
