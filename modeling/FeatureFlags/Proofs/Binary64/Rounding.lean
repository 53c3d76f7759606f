import FeatureFlags.Binary64.Basic
import Mathlib.Algebra.Order.Ring.Nat
import Mathlib.Tactic.NormNum

/-!
# Rounding ratios to magnitudes

A ratio is rounded at the place that its size gives it (`Magnitude.place`), to the nearest multiple
of the spacing there.

* `ofRatio_congr`: equal ratios are rounded to the same magnitude.
* `ofRatio_units`: a magnitude is the nearest one to itself.
* `ofRatio_le`, `le_ofRatio` and `ofRatio_eq_zero` bound the magnitude by the size of the ratio, so
  that whole numbers of 64 bits are finite (`ofRatio_lt_count`).
-/

namespace FeatureFlags

/-! ## Quotients -/

theorem roundHalfEven_mul_right (num den : Nat) {k : Nat} (hk : 0 < k) :
    roundHalfEven (num * k) (den * k) = roundHalfEven num den := by
  have hquot : num * k / (den * k) = num / den := Nat.mul_div_mul_right num den hk
  have hrem : num * k % (den * k) = num % den * k := Nat.mul_mod_mul_right k num den
  have hlow : 2 * (num % den * k) < den * k ↔ 2 * (num % den) < den := by
    rw [← Nat.mul_assoc, Nat.mul_lt_mul_right hk]
  have hhigh : den * k < 2 * (num % den * k) ↔ den < 2 * (num % den) := by
    rw [← Nat.mul_assoc, Nat.mul_lt_mul_right hk]
  simp only [roundHalfEven, hquot, hrem, hlow, hhigh]

theorem roundHalfEven_mul_self (q : Nat) {den : Nat} (hden : 0 < den) :
    roundHalfEven (q * den) den = q := by
  simp only [roundHalfEven, Nat.mul_mod_left, Nat.mul_div_cancel q hden, Nat.mul_zero, hden,
    if_true]

theorem roundHalfEven_le (num den : Nat) : roundHalfEven num den ≤ num / den + 1 := by
  simp only [roundHalfEven]
  split
  · omega
  · split
    · omega
    · omega

theorem roundHalfEven_eq_zero {num den : Nat} (h : 2 * num < den) : roundHalfEven num den = 0 := by
  have hlt : num < den := by omega
  simp only [roundHalfEven, Nat.mod_eq_of_lt hlt, Nat.div_eq_of_lt hlt, h, if_true]

namespace Magnitude

theorem pow_pos (k : Nat) : 0 < Nat.pow 2 k := Nat.two_pow_pos k

theorem one_pos : 0 < one := by
  unfold one
  apply pow_pos

theorem one_eq : one = 2 ^ 1074 := by decide +kernel

/-- How often the spacing of the magnitudes has doubled at a ratio. -/
def place (num den : Nat) : Nat := (num * one / den).log2 - 52

theorem ofRatio_eq (num den : Nat) : ofRatio num den =
    place num den * binade + roundHalfEven (num * one) (den * Nat.pow 2 (place num den)) := rfl

theorem ofRatio_mul_right (num den : Nat) {k : Nat} (hk : 0 < k) :
    ofRatio (num * k) (den * k) = ofRatio num den := by
  have hscaled : num * k * one = num * one * k := Nat.mul_right_comm num k one
  have hplace : place (num * k) (den * k) = place num den := by
    rw [place, hscaled, Nat.mul_div_mul_right _ den hk, place]
  rw [ofRatio_eq, hplace, hscaled, Nat.mul_right_comm den, roundHalfEven_mul_right _ _ hk,
    ofRatio_eq]

/-- Equal ratios are rounded to the same magnitude. -/
theorem ofRatio_congr {num den num' den' : Nat} (hden : 0 < den) (hden' : 0 < den')
    (h : num * den' = num' * den) : ofRatio num den = ofRatio num' den' := by
  rw [← ofRatio_mul_right num den hden', h, Nat.mul_comm den, ofRatio_mul_right num' den' hden]

/-! ## Magnitudes as ratios -/

theorem doublings_mul_binade_le (rank : Nat) : doublings rank * binade ≤ rank := by
  simp only [doublings, binade]
  omega

/-- A normal magnitude has one bit more than there are doublings, and the bits of `binade`. -/
theorem log2_units {rank : Nat} (h : binade ≤ rank) :
    (units rank).log2 = 52 + doublings rank := by
  have hsig : binade ≤ rank - doublings rank * binade ∧
      rank - doublings rank * binade < 2 * binade := by
    simp only [doublings, binade] at *
    omega
  have hlow : 2 ^ (52 + doublings rank) ≤ units rank := by
    rw [Nat.pow_add]
    exact Nat.mul_le_mul_right _ hsig.1
  have hhigh : units rank < 2 ^ (52 + doublings rank + 1) := by
    rw [Nat.add_right_comm, Nat.pow_add]
    exact Nat.mul_lt_mul_of_pos_right hsig.2 (pow_pos _)
  have hne : units rank ≠ 0 := (Nat.lt_of_lt_of_le (Nat.two_pow_pos _) hlow).ne'
  exact (Nat.log2_eq_iff hne).2 ⟨hlow, hhigh⟩

theorem place_units (rank : Nat) : place (units rank) one = doublings rank := by
  rw [place, Nat.mul_div_cancel _ one_pos]
  by_cases h : binade ≤ rank
  · rw [log2_units h, Nat.add_sub_cancel_left]
  · have hnone : doublings rank = 0 := by
      rw [doublings, Nat.div_eq_of_lt (Nat.lt_of_not_le h)]
    have hunits : units rank = rank := by
      rw [units, hnone, Nat.zero_mul, Nat.sub_zero]
      exact Nat.mul_one rank
    rw [hunits, hnone]
    refine Nat.sub_eq_zero_of_le ?_
    by_cases hzero : rank = 0
    · rw [hzero]
      decide
    · have hlt : rank < 2 ^ 52 := Nat.lt_of_not_le h
      exact ((Nat.log2_lt hzero).2 hlt).le

/-- A magnitude is the nearest one to itself. -/
theorem ofRatio_units (rank : Nat) : ofRatio (units rank) one = rank := by
  have hsplit : units rank * one =
      (rank - doublings rank * binade) * (one * Nat.pow 2 (doublings rank)) := by
    rw [units, Nat.mul_right_comm, Nat.mul_assoc]
  rw [ofRatio_eq, place_units, hsplit,
    roundHalfEven_mul_self _ (Nat.mul_pos one_pos (pow_pos _)),
    Nat.add_sub_cancel' (doublings_mul_binade_le rank)]

/-! ## Bounds -/

/-- At its place a ratio has 53 bits before the point. -/
theorem div_place_lt (num den : Nat) :
    num * one / den / Nat.pow 2 (place num den) < 2 * binade := by
  rw [Nat.div_lt_iff_lt_mul (pow_pos _)]
  have hlt : num * one / den < 2 ^ ((num * one / den).log2 + 1) := Nat.lt_log2_self
  refine Nat.lt_of_lt_of_le hlt ?_
  have hpow : 2 * binade * Nat.pow 2 (place num den) = 2 ^ (53 + place num den) := by
    rw [Nat.pow_add]
    rfl
  rw [hpow]
  refine Nat.pow_le_pow_right (by decide) ?_
  rw [place]
  omega

theorem ofRatio_le (num den : Nat) : ofRatio num den ≤ (place num den + 2) * binade := by
  have hround := roundHalfEven_le (num * one) (den * Nat.pow 2 (place num den))
  rw [← Nat.div_div_eq_div_mul] at hround
  have hquot := div_place_lt num den
  rw [ofRatio_eq, Nat.add_mul]
  omega

theorem le_ofRatio {num den k : Nat} (hden : 0 < den) (h : den * 2 ^ k ≤ num * one) :
    (k - 52) * binade ≤ ofRatio num den := by
  have hquot : 2 ^ k ≤ num * one / den := by
    rwa [Nat.le_div_iff_mul_le hden, Nat.mul_comm]
  have hne : num * one / den ≠ 0 := (Nat.lt_of_lt_of_le (Nat.two_pow_pos k) hquot).ne'
  have hlog : k ≤ (num * one / den).log2 := (Nat.le_log2 hne).2 hquot
  rw [ofRatio_eq]
  refine Nat.le_add_right_of_le (Nat.mul_le_mul_right _ ?_)
  exact Nat.sub_le_sub_right hlog 52

/-- A ratio below half of the smallest magnitude is rounded to zero. -/
theorem ofRatio_eq_zero {num den : Nat} (h : 2 * (num * one) < den) : ofRatio num den = 0 := by
  have hplace : place num den = 0 := by
    rw [place, Nat.div_eq_of_lt (by omega)]
    decide
  rw [ofRatio_eq, hplace, Nat.zero_mul, Nat.zero_add]
  exact roundHalfEven_eq_zero (Nat.lt_of_lt_of_le h (Nat.le_mul_of_pos_right den (pow_pos 0)))

/-- A whole number of 64 bits is rounded to a finite magnitude. -/
theorem ofRatio_lt_count {n : Nat} (h : n ≤ 2 ^ 64) : ofRatio n 1 < count := by
  have hplace : place n 1 ≤ 1086 := by
    rw [place, Nat.div_one, one_eq]
    by_cases hzero : n * 2 ^ 1074 = 0
    · rw [hzero]
      decide
    · have hlt : (n * 2 ^ 1074).log2 < 1139 := by
        rw [Nat.log2_lt hzero]
        refine Nat.lt_of_le_of_lt (Nat.mul_le_mul_right _ h) ?_
        decide +kernel
      omega
  refine Nat.lt_of_le_of_lt (ofRatio_le n 1) ?_
  refine Nat.lt_of_le_of_lt (Nat.mul_le_mul_right _ (Nat.add_le_add_right hplace 2)) ?_
  decide

end Magnitude

end FeatureFlags
