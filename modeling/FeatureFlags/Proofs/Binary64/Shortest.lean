import FeatureFlags.Binary64.Shortest
import FeatureFlags.Proofs.Binary64.Reading
import Mathlib.Data.List.TakeWhile

/-!
# Texts of doubles

The decimal that a double is written with rounds to the double (`rank_shortest`): it was chosen so,
or it is the double without any rounding.  Its digits spell it, wherever the point stands
(`spells_positional`, `spells_scientific`).  So the text of a finite double is read as the double
(`read?_chars`).
-/

namespace FeatureFlags

open Text Binary64

/-! ## The decimal of a double -/

namespace Decimal

/-- As many tens divide a number as it has zeros at its end. -/
theorem pow_dvd_of_zeros (n : Nat) :
    10 ^ (n.repr.toList.reverse.takeWhile (· = '0')).length ∣ n := by
  generalize hzeros : n.repr.toList.reverse.takeWhile (· = '0') = zeros
  have hall : zeros = List.replicate zeros.length '0' := by
    refine List.eq_replicate_of_mem fun c hc => ?_
    rw [← hzeros] at hc
    simpa using List.mem_takeWhile_imp hc
  have hsplit : n.repr.toList =
      (n.repr.toList.reverse.dropWhile (· = '0')).reverse ++ List.replicate zeros.length '0' := by
    rw [← List.reverse_replicate, ← hall, ← hzeros, ← List.reverse_append,
      List.takeWhile_append_dropWhile, List.reverse_reverse]
  have hvalue := digitsValue_repr n
  rw [hsplit, digitsValue_append_zeros] at hvalue
  exact Dvd.intro_left _ hvalue

theorem magnitude_normalize (d : Decimal) : d.normalize.magnitude = d.magnitude := by
  unfold normalize
  extract_lets ds zeros
  split
  · rfl
  · obtain ⟨k, hk⟩ := pow_dvd_of_zeros d.coefficient
    have hcancel : d.coefficient / Nat.pow 10 zeros = k :=
      Nat.div_eq_of_eq_mul_right (Nat.pow_pos (by decide)) hk
    have hcast : (d.coefficient : ℚ) = 10 ^ zeros * k := by exact_mod_cast hk
    rw [magnitude, magnitude, hcancel, hcast, zpow_add₀ (by norm_num), zpow_natCast]
    ring

theorem rank_normalize (d : Decimal) : d.normalize.rank = d.rank :=
  rank_congr d.magnitude_normalize

end Decimal

namespace Finite64

variable {x : Finite64}

theorem ofRank_rank (x : Finite64) : ofRank x.negative x.rank = .finite x := by
  rw [ofRank, ofRank?, dif_pos x.rank_lt]

/-- A decimal on a grid is only taken if it rounds to the double. -/
theorem rank_decimalAt? {place : Int} {d : Decimal} (h : x.decimalAt? place = some d) :
    d.rank = x.rank := by
  unfold decimalAt? at h
  obtain ⟨c, -, hc⟩ := List.exists_of_findSome?_eq_some h
  dsimp only at hc
  split at hc
  · next hrank =>
    cases hc
    rw [Decimal.rank_normalize, hrank]
  · cases hc

/-- Halves are decimals with fives. -/
theorem ofRatio_fives (units k : Nat) :
    Magnitude.ofRatio (units * Nat.pow 5 k) (10 ^ k) = Magnitude.ofRatio units (2 ^ k) := by
  refine Magnitude.ofRatio_congr (Nat.pow_pos (by decide)) (Nat.pow_pos (by decide)) ?_
  have hten : Nat.pow 5 k * 2 ^ k = 10 ^ k := (mul_pow 5 2 k).symm
  rw [Nat.mul_assoc, hten]

theorem rank_exactDecimal (x : Finite64) : x.exactDecimal.rank = x.rank := by
  have hnum : (-1074 : ℤ).toNat = 0 := by decide
  have hden : (-(-1074) : ℤ).toNat = 1074 := by decide
  have hunits : Magnitude.ofRatio x.units Magnitude.one = x.rank := Magnitude.ofRatio_units x.rank
  rw [Magnitude.one_eq] at hunits
  rw [exactDecimal, Decimal.rank_normalize, Decimal.rank_eq, Decimal.ratio, hnum, hden, pow_zero,
    Nat.mul_one]
  -- The power is not to be computed.
  generalize 1074 = k at hunits ⊢
  rw [ofRatio_fives, hunits]

/-- The decimal that a double is written with rounds to the double. -/
theorem rank_shortest (x : Finite64) : x.shortest.rank = x.rank := by
  unfold shortest
  extract_lets leading found
  cases hfound : found with
  | none => rw [Option.getD_none, rank_exactDecimal]
  | some d =>
    rw [Option.getD_some]
    obtain ⟨digits, -, hd⟩ := List.exists_of_findSome?_eq_some hfound
    exact rank_decimalAt? hd

/-! ## Its digits -/

theorem leading_eq (d : Decimal) :
    d.leading = d.exponent + d.coefficient.repr.toList.length - 1 := by
  rw [Decimal.leading, Decimal.digitCount, String.length_toList]

theorem spells_positional (d : Decimal) :
    Spells (positional d.coefficient.repr.toList (d.leading + 1)) d := by
  have hvalue := digitsValue_repr d.coefficient
  have hdigits : ∀ c ∈ d.coefficient.repr.toList, c.isDigit = true := fun _ => isDigit_of_mem_repr
  have hne := repr_toList_ne_nil d.coefficient
  have hleading := leading_eq d
  generalize d.coefficient.repr.toList = ds at hvalue hdigits hne hleading ⊢
  unfold positional
  split
  · next hwhole =>
    -- A zero stands before the point, and perhaps more of them behind it.
    generalize hzeros : (d.leading + 1).natAbs = zeros
    have hfraction : ∀ c ∈ List.replicate zeros '0' ++ ds, c.isDigit = true := fun c hc =>
      (List.mem_append.1 hc).elim isDigit_of_mem_zeros (hdigits c)
    have hspells : Spells (['0'] ++ '.' :: ((List.replicate zeros '0' ++ ds) ++ [])) d := by
      refine spells_point (by simp) (by simp) hfraction rfl rfl ?_
      rw [← List.append_assoc, ← List.replicate_one, List.replicate_append_replicate,
        digitsValue_zeros_append, hvalue, Decimal.magnitude, List.length_append,
        List.length_replicate]
      congr 2
      omega
    rwa [List.append_nil] at hspells
  · next hwhole =>
    extract_lets n before after
    split
    · next hafter =>
      -- The point stands behind all digits, with zeros in between.
      have hlength : ds.length ≤ n := List.drop_eq_nil_iff.1 (List.isEmpty_iff.1 hafter)
      have hbefore : before = ds ++ List.replicate (n - ds.length) '0' := by
        simp only [before, List.take_of_length_le hlength]
      have hspells : Spells (before ++ '.' :: (['0'] ++ [])) d := by
        rw [hbefore]
        refine spells_point
          (fun c hc => (List.mem_append.1 hc).elim (hdigits c) isDigit_of_mem_zeros)
          (List.append_ne_nil_of_left_ne_nil hne _) (by simp) rfl rfl ?_
        rw [List.append_assoc, ← List.replicate_one, List.replicate_append_replicate,
          digitsValue_append_zeros, hvalue, Decimal.magnitude]
        have hexponent :
            d.exponent = ((n - ds.length + 1 : ℕ) : ℤ) + (0 - (['0'].length : ℕ)) := by
          rw [List.length_singleton]
          omega
        rw [hexponent, zpow_add₀ (by norm_num), zpow_natCast, ← mul_assoc]
        push_cast
        rfl
      exact hspells
    · next hafter =>
      -- The point stands between two digits.
      have hlength : n < ds.length := by
        rw [List.isEmpty_iff, List.drop_eq_nil_iff] at hafter
        omega
      have hspells : Spells (ds.take n ++ '.' :: (ds.drop n ++ [])) d := by
        refine spells_point (fun c hc => hdigits c (List.mem_of_mem_take hc)) ?_
          (fun c hc => hdigits c (List.mem_of_mem_drop hc)) rfl rfl ?_
        · rw [Ne, List.take_eq_nil_iff, not_or]
          exact ⟨by omega, hne⟩
        · rw [List.take_append_drop, hvalue, Decimal.magnitude, List.length_drop]
          congr 2
          omega
      rw [List.append_nil] at hspells
      simp only [before, Nat.sub_eq_zero_of_le hlength.le, List.replicate_zero, List.append_nil]
      exact hspells

theorem spells_scientific (d : Decimal) :
    Spells (scientific d.coefficient.repr.toList d.leading) d := by
  have hvalue := digitsValue_repr d.coefficient
  have hdigits : ∀ c ∈ d.coefficient.repr.toList, c.isDigit = true := fun _ => isDigit_of_mem_repr
  have hleading := leading_eq d
  obtain ⟨c, ds, hds⟩ := List.exists_cons_of_ne_nil (repr_toList_ne_nil d.coefficient)
  rw [hds] at hvalue hdigits hleading ⊢
  have hexponent : d.leading - ds.length = d.exponent := by
    rw [List.length_cons] at hleading
    omega
  obtain ⟨hc, hrest⟩ := List.forall_mem_cons.1 hdigits
  cases ds with
  | nil =>
    show Spells ([c] ++ 'e' :: _) d
    refine spells_whole hdigits (by simp) (.inr ⟨_, rfl⟩) (readExponent?_repr _) ?_
    rw [hvalue, Decimal.magnitude, ← hexponent, List.length_nil, Nat.cast_zero, sub_zero]
  | cons c' ds =>
    show Spells ([c] ++ '.' :: ((c' :: ds) ++ _)) d
    refine spells_point (by simpa using hc) (by simp) hrest rfl (readExponent?_repr _) ?_
    rw [List.singleton_append, hvalue, Decimal.magnitude, ← hexponent]

/-! ## The text -/

/-- The text of a finite double is read as the double. -/
theorem read?_chars (x : Finite64) : read? x.chars = some (.finite x) := by
  unfold chars
  extract_lets sign d ds leading
  split
  · next hzero =>
    have hspells : Spells (['0'] ++ '.' :: (['0'] ++ [])) ⟨false, 0, 0⟩ := by
      refine spells_point (by simp) (by simp) (by simp) rfl rfl ?_
      simp [Decimal.magnitude, digitsValue, digitsValueFrom, digitValue]
    refine (hspells.read?_eq x.negative).trans ?_
    rw [Decimal.rank_of_coefficient_eq_zero rfl, ← hzero, ofRank_rank]
  · next hzero =>
    have hspells : Spells (if -5 ≤ leading ∧ leading < 16 then positional ds (leading + 1)
        else scientific ds leading) d := by
      split
      · exact spells_positional d
      · exact spells_scientific d
    refine (hspells.read?_eq x.negative).trans ?_
    rw [rank_shortest, ofRank_rank]

end Finite64

end FeatureFlags
