import FeatureFlags.Proofs.Binary64.Rounding
import Mathlib.Data.Nat.Dist
import Mathlib.Data.Nat.Log

/-!
# How far a ratio is rounded

* `units_ofRatio_bounds`: a ratio is rounded by at most half of the spacing at its place.
* `units_ofRatio_nearest`: so no magnitude is nearer to it, and of two that are the nearest the even
  one is taken (`even_ofRatio`).
* `sub_mul_le`: so whole numbers that are rounded to the same magnitude differ by little.
* `units_ofRatio_of_isShort`: a whole number of 53 significant bits is a magnitude and is not
  rounded at all, so that such numbers stay apart (`eq_of_isShort`).
* `Finite64.isRounded_of_rank`: what all of this says of the double of a whole number.
-/

namespace FeatureFlags

theorem le_roundHalfEven (num den : Nat) : num / den ≤ roundHalfEven num den := by
  simp only [roundHalfEven]
  split
  · exact Nat.le_refl _
  · split
    · exact Nat.le_add_right _ _
    · exact Nat.le_add_right _ _

/-- A quotient is rounded by at most a half. -/
theorem roundHalfEven_bounds (num : Nat) {den : Nat} (hden : 0 < den) :
    2 * (roundHalfEven num den * den) ≤ 2 * num + den ∧
      2 * num ≤ 2 * (roundHalfEven num den * den) + den := by
  have hsplit : num / den * den + num % den = num := Nat.div_add_mod' num den
  have hrem : num % den < den := Nat.mod_lt num hden
  simp only [roundHalfEven]
  split
  · omega
  · split
    · rw [Nat.add_mul, Nat.one_mul]
      omega
    · rcases Nat.mod_two_eq_zero_or_one (num / den) with heven | hodd
      · rw [heven, Nat.add_zero]
        omega
      · rw [hodd, Nat.add_mul, Nat.one_mul]
        omega

/-- Every other multiple is off by a half or more. -/
theorem half_le_of_ne_roundHalfEven {num den q : Nat} (hden : 0 < den)
    (hne : q ≠ roundHalfEven num den) : den ≤ 2 * Nat.dist (q * den) num := by
  obtain ⟨hlow, hhigh⟩ := roundHalfEven_bounds num hden
  rw [Nat.dist]
  rcases Nat.lt_or_gt_of_ne hne with hlt | hlt
  · have hstep : (q + 1) * den ≤ roundHalfEven num den * den := Nat.mul_le_mul_right den hlt
    rw [Nat.succ_mul] at hstep
    omega
  · have hstep : (roundHalfEven num den + 1) * den ≤ q * den := Nat.mul_le_mul_right den hlt
    rw [Nat.succ_mul] at hstep
    omega

/-- No multiple is nearer. -/
theorem roundHalfEven_nearest (num : Nat) {den : Nat} (hden : 0 < den) (q : Nat) :
    Nat.dist (roundHalfEven num den * den) num ≤ Nat.dist (q * den) num := by
  obtain ⟨hlow, hhigh⟩ := roundHalfEven_bounds num hden
  by_cases hq : q = roundHalfEven num den
  · rw [hq]
  · have hhalf := half_le_of_ne_roundHalfEven hden hq
    simp only [Nat.dist] at hhalf ⊢
    omega

/-- If another multiple is as near, the quotient is rounded by a half, and to the even one. -/
theorem even_roundHalfEven {num den q : Nat} (hden : 0 < den) (hne : q ≠ roundHalfEven num den)
    (heq : Nat.dist (q * den) num = Nat.dist (roundHalfEven num den * den) num) :
    roundHalfEven num den % 2 = 0 := by
  obtain ⟨hlow, hhigh⟩ := roundHalfEven_bounds num hden
  have hother := half_le_of_ne_roundHalfEven hden hne
  have hhalf : 2 * Nat.dist (roundHalfEven num den * den) num = den := by
    rw [heq] at hother
    rw [Nat.dist] at hother ⊢
    omega
  have hsplit : num / den * den + num % den = num := Nat.div_add_mod' num den
  have hrem : num % den < den := Nat.mod_lt num hden
  simp only [roundHalfEven, Nat.dist] at hhalf ⊢
  split
  · next h =>
    rw [if_pos h] at hhalf
    omega
  · next h =>
    rw [if_neg h] at hhalf
    split
    · next h' =>
      rw [if_pos h', Nat.add_mul, Nat.one_mul] at hhalf
      omega
    · omega

namespace Magnitude

variable {num den m n : Nat}

/-- A multiple of the spacing as a magnitude. -/
theorem units_add {k t : Nat} (hlow : 0 < k → binade ≤ t) (hhigh : t ≤ 2 * binade) :
    units (k * binade + t) = t * Nat.pow 2 k := by
  have hcases : t = 2 * binade ∨ doublings (k * binade + t) = k := by
    simp only [doublings, binade] at *
    omega
  rcases hcases with rfl | hk
  · -- The first magnitude of the next binade.
    have hnext : doublings (k * binade + 2 * binade) = k + 1 := by
      simp only [doublings, binade]
      omega
    have hsig : k * binade + 2 * binade - (k + 1) * binade = binade := by
      simp only [binade]
      omega
    have hpow : Nat.pow 2 (k + 1) = 2 * Nat.pow 2 k := Nat.mul_comm _ 2
    rw [units, hnext, hsig, hpow, Nat.mul_left_comm, Nat.mul_assoc]
  · rw [units, hk, Nat.add_sub_cancel_left]

/-- Where the spacing has doubled, a ratio has 53 bits before the point. -/
theorem binade_mul_le (hplace : 0 < place num den) :
    binade * Nat.pow 2 (place num den) ≤ num * one / den := by
  have hlog : 52 + place num den = (num * one / den).log2 := by
    rw [place] at hplace ⊢
    omega
  have hne : num * one / den ≠ 0 := by
    intro hzero
    rw [hzero] at hlog
    simp at hlog
  have hpow : binade * Nat.pow 2 (place num den) = 2 ^ (52 + place num den) := by
    rw [Nat.pow_add]
    rfl
  rw [hpow, hlog]
  exact Nat.log2_self_le hne

/-- A ratio is rounded to a multiple of the spacing at its place. -/
theorem units_ofRatio (num den : Nat) : units (ofRatio num den) =
    roundHalfEven (num * one) (den * Nat.pow 2 (place num den)) * Nat.pow 2 (place num den) := by
  rw [ofRatio_eq]
  refine units_add (fun hplace => ?_) ?_
  · refine Nat.le_trans ?_ (le_roundHalfEven _ _)
    rw [← Nat.div_div_eq_div_mul]
    exact (Nat.le_div_iff_mul_le (pow_pos _)).2 (binade_mul_le hplace)
  · refine Nat.le_trans (roundHalfEven_le _ _) ?_
    rw [← Nat.div_div_eq_div_mul]
    exact div_place_lt num den

theorem units_ofRatio_mul : units (ofRatio num den) * den =
    roundHalfEven (num * one) (den * Nat.pow 2 (place num den)) *
      (den * Nat.pow 2 (place num den)) := by
  rw [units_ofRatio, Nat.mul_assoc, Nat.mul_comm den]

/-- A ratio is rounded by at most half of the spacing at its place. -/
theorem units_ofRatio_bounds (num : Nat) (hden : 0 < den) :
    2 * (units (ofRatio num den) * den) ≤ 2 * (num * one) + den * Nat.pow 2 (place num den) ∧
      2 * (num * one) ≤
        2 * (units (ofRatio num den) * den) + den * Nat.pow 2 (place num den) := by
  have hround := roundHalfEven_bounds (num * one) (Nat.mul_pos hden (pow_pos (place num den)))
  rwa [units_ofRatio_mul]

/-- Magnitudes with a finer spacing are below those with 53 bits of the coarser one. -/
theorem units_lt {rank k : Nat} (h : doublings rank < k) :
    units rank < binade * Nat.pow 2 k := by
  have hsig : rank - doublings rank * binade < 2 * binade := by
    simp only [doublings, binade]
    omega
  have hpow : 2 * Nat.pow 2 (doublings rank) ≤ Nat.pow 2 k := by
    calc 2 * Nat.pow 2 (doublings rank) = Nat.pow 2 (doublings rank + 1) := Nat.mul_comm 2 _
      _ ≤ Nat.pow 2 k := Nat.pow_le_pow_right (by decide) h
  calc units rank < 2 * binade * Nat.pow 2 (doublings rank) :=
      Nat.mul_lt_mul_of_pos_right hsig (pow_pos _)
    _ = binade * (2 * Nat.pow 2 (doublings rank)) := by rw [Nat.mul_comm 2, Nat.mul_assoc]
    _ ≤ binade * Nat.pow 2 k := Nat.mul_le_mul_left _ hpow

/-- Every magnitude is a multiple of the spacing at the place of a ratio, or is so small that a
multiple stands between it and the ratio. -/
theorem exists_multiple (num : Nat) (hden : 0 < den) (rank : Nat) : ∃ q : Nat,
    units rank * den = q * (den * Nat.pow 2 (place num den)) ∨
      units rank * den < q * (den * Nat.pow 2 (place num den)) ∧
        q * (den * Nat.pow 2 (place num den)) ≤ num * one := by
  rcases Nat.lt_or_ge (doublings rank) (place num den) with hfine | hcoarse
  · refine ⟨binade, .inr ⟨?_, ?_⟩⟩
    · rw [Nat.mul_left_comm, Nat.mul_comm den]
      exact Nat.mul_lt_mul_of_pos_right (units_lt hfine) hden
    · rw [Nat.mul_left_comm, Nat.mul_comm den]
      exact (Nat.le_div_iff_mul_le hden).1 (binade_mul_le (Nat.zero_lt_of_lt hfine))
  · obtain ⟨k, hk⟩ := Nat.exists_eq_add_of_le hcoarse
    refine ⟨(rank - doublings rank * binade) * Nat.pow 2 k, .inl ?_⟩
    have hpow : Nat.pow 2 (doublings rank) = Nat.pow 2 k * Nat.pow 2 (place num den) := by
      rw [hk, Nat.add_comm]
      exact Nat.pow_add 2 _ _
    rw [units, hpow]
    simp only [Nat.mul_assoc, Nat.mul_comm den]

/-- No magnitude is nearer to a ratio than the one that it is rounded to. -/
theorem units_ofRatio_nearest (num : Nat) (hden : 0 < den) (rank : Nat) :
    Nat.dist (units (ofRatio num den) * den) (num * one) ≤
      Nat.dist (units rank * den) (num * one) := by
  obtain ⟨q, hq⟩ := exists_multiple num hden rank
  have hround := roundHalfEven_nearest (num * one)
    (Nat.mul_pos hden (pow_pos (place num den))) q
  rw [← units_ofRatio_mul] at hround
  rcases hq with heq | ⟨hlt, hle⟩
  · rwa [heq]
  · refine hround.trans ?_
    rw [Nat.dist, Nat.dist]
    omega

/-- If another one is as near, the even one was taken. -/
theorem even_ofRatio (hden : 0 < den) {rank : Nat} (hne : units rank ≠ units (ofRatio num den))
    (heq : Nat.dist (units rank * den) (num * one) =
      Nat.dist (units (ofRatio num den) * den) (num * one)) :
    ofRatio num den % 2 = 0 := by
  have hspacing := Nat.mul_pos hden (pow_pos (place num den))
  obtain ⟨q, hq⟩ := exists_multiple num hden rank
  have hround := roundHalfEven_nearest (num * one) hspacing q
  have hunits : units rank * den = q * (den * Nat.pow 2 (place num den)) := by
    rcases hq with hunits | ⟨hlt, hle⟩
    · exact hunits
    · rw [← units_ofRatio_mul, ← heq, Nat.dist, Nat.dist] at hround
      omega
  have heven : roundHalfEven (num * one) (den * Nat.pow 2 (place num den)) % 2 = 0 := by
    have hother : q ≠ roundHalfEven (num * one) (den * Nat.pow 2 (place num den)) := by
      rintro rfl
      exact hne (Nat.eq_of_mul_eq_mul_right hden (hunits.trans units_ofRatio_mul.symm))
    refine even_roundHalfEven hspacing hother ?_
    rw [← hunits, ← units_ofRatio_mul]
    exact heq
  rw [ofRatio_eq]
  simp only [binade]
  omega

/-! ## Whole numbers -/

theorem place_mono (h : m ≤ n) : place m 1 ≤ place n 1 := by
  have hle : m * one ≤ n * one := Nat.mul_le_mul_right one h
  rw [place, place, Nat.div_one, Nat.div_one, Nat.log2_eq_log_two, Nat.log2_eq_log_two]
  exact Nat.sub_le_sub_right (Nat.log_mono_right hle) 52

/-- The spacing at a whole number is below the number by 52 bits. -/
theorem pow_place_mul_le (hn : n ≠ 0) : Nat.pow 2 (place n 1) * 2 ^ 52 ≤ n * one := by
  have hne : n * one ≠ 0 := Nat.mul_ne_zero hn one_pos.ne'
  have hlog : 52 ≤ (n * one).log2 := by
    refine (Nat.le_log2 hne).2 (Nat.le_trans ?_ (Nat.le_mul_of_pos_left one (by omega)))
    decide +kernel
  calc Nat.pow 2 (place n 1) * 2 ^ 52 = 2 ^ (place n 1 + 52) := (Nat.pow_add 2 _ 52).symm
    _ = 2 ^ (n * one).log2 := by rw [place, Nat.div_one, Nat.sub_add_cancel hlog]
    _ ≤ n * one := Nat.log2_self_le hne

/-- Whole numbers that are rounded to the same magnitude agree in 52 bits. -/
theorem sub_mul_le (hle : m ≤ n) (h : ofRatio m 1 = ofRatio n 1) : (n - m) * 2 ^ 52 ≤ n := by
  by_cases hn : n = 0
  · rw [hn, Nat.zero_sub, Nat.zero_mul]
  have hhigh := (units_ofRatio_bounds n Nat.one_pos).2
  have hlow := (units_ofRatio_bounds m Nat.one_pos).1
  have hspacing : Nat.pow 2 (place m 1) ≤ Nat.pow 2 (place n 1) :=
    Nat.pow_le_pow_right (by decide) (place_mono hle)
  rw [← h] at hhigh
  have hdiff : (n - m) * one ≤ Nat.pow 2 (place n 1) := by
    rw [Nat.sub_mul]
    omega
  refine Nat.le_of_mul_le_mul_right ?_ one_pos
  calc (n - m) * 2 ^ 52 * one = (n - m) * one * 2 ^ 52 := Nat.mul_right_comm _ _ _
    _ ≤ Nat.pow 2 (place n 1) * 2 ^ 52 := Nat.mul_le_mul_right _ hdiff
    _ ≤ n * one := pow_place_mul_le hn

/-- Only zero is rounded to zero. -/
theorem eq_zero_of_ofRatio_eq_zero (h : ofRatio n 1 = 0) : n = 0 := by
  have hzero : ofRatio 0 1 = 0 := ofRatio_eq_zero (by decide +kernel)
  have hbits := sub_mul_le (Nat.zero_le n) (hzero.trans h.symm)
  omega

/-- The number has at most 53 significant bits. -/
def IsShort (n : Nat) : Prop := ∃ s j, s < 2 ^ 53 ∧ n = s * 2 ^ j

theorem isShort_of_le (h : n ≤ 2 ^ 53) : IsShort n := by
  rcases Nat.eq_or_lt_of_le h with rfl | hlt
  · exact ⟨1, 53, by decide, rfl⟩
  · exact ⟨n, 0, hlt, (Nat.mul_one n).symm⟩

theorem exists_units_eq (h : IsShort n) : ∃ rank, units rank = n * one := by
  obtain ⟨s, j, hs, rfl⟩ := h
  by_cases hzero : s = 0
  · refine ⟨0, ?_⟩
    rw [hzero, Nat.zero_mul, Nat.zero_mul]
    rfl
  -- The bits are moved up until there are 53 of them.
  have hlog : s.log2 ≤ 52 := Nat.le_of_lt_succ ((Nat.log2_lt hzero).2 hs)
  obtain ⟨k, hk⟩ := Nat.exists_eq_add_of_le hlog
  have hlow : binade ≤ s * 2 ^ k := by
    calc binade = 2 ^ s.log2 * 2 ^ k := by rw [← Nat.pow_add, ← hk]; rfl
      _ ≤ s * 2 ^ k := Nat.mul_le_mul_right _ (Nat.log2_self_le hzero)
  have hhigh : s * 2 ^ k ≤ 2 * binade := by
    calc s * 2 ^ k ≤ 2 ^ (s.log2 + 1) * 2 ^ k := Nat.mul_le_mul_right _ Nat.lt_log2_self.le
      _ = 2 * binade := by rw [← Nat.pow_add, Nat.add_right_comm, ← hk]; rfl
  refine ⟨(j + 1074 - k) * binade + s * 2 ^ k, ?_⟩
  have hpow : 2 ^ k * Nat.pow 2 (j + 1074 - k) = 2 ^ j * one := by
    have hsum : k + (j + 1074 - k) = j + 1074 := by omega
    calc 2 ^ k * Nat.pow 2 (j + 1074 - k) = 2 ^ (k + (j + 1074 - k)) := (Nat.pow_add 2 _ _).symm
      _ = 2 ^ j * one := by rw [hsum, pow_add, one_eq]
  rw [units_add (fun _ => hlow) hhigh, Nat.mul_assoc, hpow, Nat.mul_assoc]

/-- A whole number of 53 significant bits is not rounded. -/
theorem units_ofRatio_of_isShort (h : IsShort n) : units (ofRatio n 1) = n * one := by
  obtain ⟨rank, hrank⟩ := exists_units_eq h
  rw [← ofRatio_mul_right n 1 one_pos, Nat.one_mul, ← hrank, ofRatio_units]

theorem eq_of_isShort (hm : IsShort m) (hn : IsShort n) (h : ofRatio m 1 = ofRatio n 1) :
    m = n := by
  have hunits : m * one = n * one := by
    rw [← units_ofRatio_of_isShort hm, h, units_ofRatio_of_isShort hn]
  exact Nat.eq_of_mul_eq_mul_right one_pos hunits

end Magnitude

/-! ## Signed numbers -/

namespace Finite64

open Magnitude

variable {n : Int} {x y : Finite64}

/-- The number as a multiple of `2 ^ -1074`. -/
def signedUnits (x : Finite64) : Int := if x.negative then -(x.units : Int) else x.units

/-- How far the number is from a whole number, as a multiple of `2 ^ -1074`. -/
def distance (x : Finite64) (n : Int) : Nat := (x.signedUnits - n * one).natAbs

theorem mul_one_of_neg (hn : n < 0) : n * one = -((n.natAbs * one : Nat) : Int) := by
  rw [Nat.cast_mul, ← Int.neg_mul, Int.ofNat_natAbs_of_nonpos hn.le, Int.neg_neg]

theorem mul_one_of_nonneg (hn : 0 ≤ n) : n * one = ((n.natAbs * one : Nat) : Int) := by
  rw [Nat.cast_mul, Int.natAbs_of_nonneg hn]

/-- A number of the sign of a whole number is as far from it as their magnitudes are apart. -/
theorem distance_of_negative (hx : x.negative = decide (n < 0)) :
    x.distance n = Nat.dist x.units (n.natAbs * one) := by
  rw [distance, signedUnits, hx, Nat.dist]
  by_cases hn : n < 0
  · rw [if_pos (decide_eq_true hn), mul_one_of_neg hn]
    omega
  · rw [if_neg (by simpa using hn), mul_one_of_nonneg (Int.not_lt.1 hn)]
    omega

/-- A number of the other sign is as far from it as their magnitudes are together. -/
theorem distance_of_not_negative (hx : x.negative ≠ decide (n < 0)) :
    x.distance n = x.units + n.natAbs * one := by
  rw [distance, signedUnits]
  by_cases hn : n < 0
  · rw [if_neg (by simpa [hn] using hx), mul_one_of_neg hn]
    omega
  · rw [if_pos (by simpa [hn] using hx), mul_one_of_nonneg (Int.not_lt.1 hn)]
    omega

/-- The number is a whole number rounded to the nearest double. -/
structure IsRounded (n : Int) (x : Finite64) : Prop where
  negative : x.negative = decide (n < 0)
  nearest : ∀ y : Finite64, x.distance n ≤ y.distance n
  /-- Of two numbers that are the nearest the even one is taken. -/
  even : ∀ y : Finite64, y.signedUnits ≠ x.signedUnits → y.distance n = x.distance n →
    x.rank % 2 = 0
  /-- A whole number of at most 53 significant bits keeps its value. -/
  unchanged : IsShort n.natAbs → x.signedUnits = n * one

/-- No magnitude is nearer to that of the whole number. -/
theorem distance_le (hnegative : x.negative = decide (n < 0)) (hrank : x.rank = ofRatio n.natAbs 1)
    (y : Finite64) : x.distance n ≤ Nat.dist y.units (n.natAbs * one) := by
  have hround := units_ofRatio_nearest n.natAbs Nat.one_pos y.rank
  rw [Nat.mul_one, Nat.mul_one, ← hrank] at hround
  rwa [distance_of_negative hnegative]

theorem signedUnits_cases (x : Finite64) :
    x.signedUnits = x.units ∨ x.signedUnits = -(x.units : Int) := by
  rw [signedUnits]
  split
  · exact .inr rfl
  · exact .inl rfl

/-- A number that is as near as the rounded one has another magnitude that is as near. -/
theorem units_ne_of_distance_eq (hnegative : x.negative = decide (n < 0))
    (hrank : x.rank = ofRatio n.natAbs 1) (hne : y.signedUnits ≠ x.signedUnits)
    (heq : y.distance n = x.distance n) : y.units ≠ x.units ∧
      Nat.dist y.units (n.natAbs * one) = Nat.dist x.units (n.natAbs * one) := by
  have hx := distance_of_negative hnegative
  by_cases hsign : y.negative = decide (n < 0)
  · rw [distance_of_negative hsign, hx] at heq
    refine ⟨fun hunits => hne ?_, heq⟩
    rw [signedUnits, signedUnits, hsign, hnegative, hunits]
  -- Zero is as near as anything of the other sign, so `y` is zero and `x` is not.
  · have hzero := distance_le hnegative hrank (zero false)
    have hunits : (zero false).units = 0 := rfl
    have hcases := x.signedUnits_cases
    have hcases' := y.signedUnits_cases
    rw [distance_of_not_negative hsign] at heq
    simp only [Nat.dist] at hx hzero ⊢
    omega

theorem isRounded_of_rank (hnegative : x.negative = decide (n < 0))
    (hrank : x.rank = ofRatio n.natAbs 1) : IsRounded n x := by
  refine ⟨hnegative, fun y => ?nearest, fun y hne heq => ?even, fun hshort => ?unchanged⟩
  case nearest =>
    have hy := distance_le hnegative hrank y
    by_cases hsign : y.negative = decide (n < 0)
    · rwa [distance_of_negative hsign]
    · rw [distance_of_not_negative hsign]
      rw [Nat.dist] at hy
      omega
  case even =>
    obtain ⟨hother, hnear⟩ := units_ne_of_distance_eq hnegative hrank hne heq
    rw [units, units, hrank] at hother hnear
    rw [hrank]
    refine even_ofRatio Nat.one_pos hother ?_
    rw [Nat.mul_one, Nat.mul_one]
    exact hnear
  case unchanged =>
    have hexact : x.units = n.natAbs * one := by
      rw [units, hrank, units_ofRatio_of_isShort hshort]
    rw [signedUnits, hnegative, hexact]
    by_cases hn : n < 0
    · rw [if_pos (decide_eq_true hn), mul_one_of_neg hn]
    · rw [if_neg (by simpa using hn), mul_one_of_nonneg (Int.not_lt.1 hn)]

end Finite64

end FeatureFlags
