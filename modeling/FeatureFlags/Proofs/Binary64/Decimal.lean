import FeatureFlags.Binary64.Decimal
import FeatureFlags.Proofs.Binary64.Rounding
import FeatureFlags.Proofs.Text.Digit
import Mathlib.Algebra.Order.Field.Power
import Mathlib.Data.Rat.Cast.Order
import Mathlib.Tactic.Positivity
import Mathlib.Tactic.Ring

/-!
# The double nearest to a decimal number

`Decimal.magnitude` is a decimal number without its sign, as a rational number, and `magnitude_eq`
writes it as the ratio that is rounded.

* `rank_congr`: decimals of the same magnitude are rounded to the same double, however many zeros
  they are written with.
* `ofDecimal_eq`: reading a decimal number is that rounding; what it does with very large and very
  small numbers is only a short cut.
-/

namespace FeatureFlags

namespace Decimal

variable {d d' : Decimal}

/-- The number without its sign. -/
def magnitude (d : Decimal) : ℚ := d.coefficient * 10 ^ d.exponent

/-- The numerator and the denominator of the magnitude. -/
def ratio (d : Decimal) : Nat × Nat :=
  (d.coefficient * 10 ^ d.exponent.toNat, 10 ^ (-d.exponent).toNat)

theorem ratio_pos (d : Decimal) : 0 < d.ratio.2 := Nat.pow_pos (by decide)

theorem rank_eq (d : Decimal) : d.rank = Magnitude.ofRatio d.ratio.1 d.ratio.2 := by
  obtain ⟨negative, coefficient, exponent⟩ := d
  cases exponent with
  | ofNat e =>
    have hden : (-Int.ofNat e).toNat = 0 := by simp
    rw [ratio, hden]
    rfl
  | negSucc e =>
    have hnum : (Int.negSucc e).toNat = 0 := rfl
    rw [ratio, hnum, Nat.pow_zero, Nat.mul_one]
    rfl

theorem magnitude_eq (d : Decimal) : d.magnitude = d.ratio.1 / d.ratio.2 := by
  obtain ⟨negative, coefficient, exponent⟩ := d
  cases exponent with
  | ofNat e => simp [magnitude, ratio]
  | negSucc e =>
    have hnum : (Int.negSucc e).toNat = 0 := rfl
    have hden : (-Int.negSucc e).toNat = e + 1 := rfl
    rw [magnitude, ratio, hnum, hden, zpow_negSucc, div_eq_mul_inv]
    simp

/-- Decimals of the same magnitude are rounded to the same double. -/
theorem rank_congr (h : d.magnitude = d'.magnitude) : d.rank = d'.rank := by
  rw [magnitude_eq, magnitude_eq, div_eq_div_iff] at h
  · rw [rank_eq, rank_eq]
    exact Magnitude.ofRatio_congr d.ratio_pos d'.ratio_pos (by exact_mod_cast h)
  · exact_mod_cast d.ratio_pos.ne'
  · exact_mod_cast d'.ratio_pos.ne'

/-! ## The leading digit -/

/-- A number other than zero lies between two powers of ten, which its digits count. -/
theorem digitCount_bounds {n : Nat} (hn : n ≠ 0) :
    10 ^ (digitCount n - 1) ≤ n ∧ n < 10 ^ digitCount n ∧ 0 < digitCount n := by
  have hlength : digitCount n = (Nat.toDigits 10 n).length := by
    rw [digitCount, ← String.length_toList, Nat.toList_repr]
  have hpos : 0 < digitCount n := hlength ▸ List.length_pos_of_ne_nil Nat.toDigits_ne_nil
  refine ⟨?_, ?_, hpos⟩
  · by_contra hlt
    by_cases hone : digitCount n = 1
    · rw [hone] at hlt
      omega
    · have hle := (Nat.length_toDigits_le_iff (by decide) (by omega)).2 (Nat.lt_of_not_le hlt)
      omega
  · exact (Nat.length_toDigits_le_iff (by decide) hpos).1 hlength.ge

theorem magnitude_bounds (hd : d.coefficient ≠ 0) :
    (10 : ℚ) ^ d.leading ≤ d.magnitude ∧ d.magnitude < (10 : ℚ) ^ (d.leading + 1) := by
  obtain ⟨hlow, hhigh, hpos⟩ := digitCount_bounds hd
  have hexp : (0 : ℚ) < 10 ^ d.exponent := zpow_pos (by norm_num) _
  have hbelow : d.leading = ((digitCount d.coefficient - 1 : ℕ) : ℤ) + d.exponent := by
    rw [leading]
    omega
  have habove : d.leading + 1 = ((digitCount d.coefficient : ℕ) : ℤ) + d.exponent := by
    rw [leading]
    omega
  rw [habove, hbelow, zpow_add₀ (by norm_num), zpow_add₀ (by norm_num), magnitude, zpow_natCast,
    zpow_natCast]
  constructor
  · gcongr
    exact_mod_cast hlow
  · gcongr
    exact_mod_cast hhigh

/-! ## Reading -/

theorem rank_of_coefficient_eq_zero (hd : d.coefficient = 0) : d.rank = 0 := by
  rw [rank_eq]
  refine Magnitude.ofRatio_eq_zero ?_
  rw [ratio, hd, Nat.zero_mul, Nat.zero_mul]
  exact Nat.pow_pos (by decide)

theorem two_pow_le : (2 : ℕ) ^ 1025 ≤ 10 ^ 310 := by decide +kernel

theorem two_mul_two_pow_le : 2 * (2 : ℕ) ^ 1074 ≤ 10 ^ 330 := by decide +kernel

/-- A number with a leading digit above the 309th place is beyond the finite doubles. -/
theorem count_le_rank (hd : d.coefficient ≠ 0) (h : 309 < d.leading) :
    Magnitude.count ≤ d.rank := by
  have hlarge : (10 : ℚ) ^ 310 ≤ d.magnitude := by
    refine le_trans ?_ (magnitude_bounds hd).1
    rw [← zpow_natCast]
    exact zpow_le_zpow_right₀ (by norm_num) (by push_cast; omega)
  have hpos : (0 : ℚ) < d.ratio.2 := by exact_mod_cast d.ratio_pos
  rw [magnitude_eq, le_div_iff₀ hpos] at hlarge
  have hratio : 10 ^ 310 * d.ratio.2 ≤ d.ratio.1 := by exact_mod_cast hlarge
  have hunits : d.ratio.2 * 2 ^ (1025 + 1074) ≤ d.ratio.1 * Magnitude.one := by
    rw [Magnitude.one_eq, pow_add, ← Nat.mul_assoc]
    refine Nat.mul_le_mul_right _ (le_trans ?_ hratio)
    rw [Nat.mul_comm]
    exact Nat.mul_le_mul_right _ two_pow_le
  rw [rank_eq]
  exact le_trans (by decide) (Magnitude.le_ofRatio d.ratio_pos hunits)

/-- A number with a leading digit below the 330th decimal is next to zero. -/
theorem rank_eq_zero (hd : d.coefficient ≠ 0) (h : d.leading < -330) : d.rank = 0 := by
  have hsmall : d.magnitude < ((10 : ℚ) ^ 330)⁻¹ := by
    refine lt_of_lt_of_le (magnitude_bounds hd).2 ?_
    rw [← zpow_natCast, ← zpow_neg]
    exact zpow_le_zpow_right₀ (by norm_num) (by push_cast; omega)
  have hpos : (0 : ℚ) < d.ratio.2 := by exact_mod_cast d.ratio_pos
  rw [magnitude_eq, div_lt_iff₀ hpos, inv_mul_eq_div, lt_div_iff₀ (by positivity)] at hsmall
  have hratio : d.ratio.1 * 10 ^ 330 < d.ratio.2 := by exact_mod_cast hsmall
  rw [rank_eq]
  refine Magnitude.ofRatio_eq_zero (Nat.lt_of_le_of_lt ?_ hratio)
  rw [Nat.mul_left_comm, Magnitude.one_eq]
  exact Nat.mul_le_mul_left _ two_mul_two_pow_le

/-- The double that is read is the nearest one; the short cuts make no difference. -/
theorem ofDecimal_eq (d : Decimal) : Binary64.ofDecimal d = .ofRank d.negative d.rank := by
  unfold Binary64.ofDecimal Binary64.ofRank Finite64.ofRank?
  split
  · next hd =>
    rw [rank_of_coefficient_eq_zero hd]
    rfl
  · next hd =>
    split
    · next hlarge => rw [dif_neg (Nat.not_lt.2 (count_le_rank hd hlarge))]
    · split
      · next hsmall =>
        rw [rank_eq_zero hd hsmall]
        rfl
      · rfl

end Decimal

end FeatureFlags
