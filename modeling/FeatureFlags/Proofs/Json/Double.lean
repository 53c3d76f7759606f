import FeatureFlags.Proofs.Binary64.Shortest
import FeatureFlags.Proofs.Json.Numeral

/-!
# Texts of doubles as numerals

A double is written with a point or with an exponent, and the text is a numeral
(`Numeral.isFractional_chars`).  So it is not read as a whole number: it is read as a double, or
it is beyond the doubles (`Number.read?_float`).
-/

namespace FeatureFlags.Json

namespace Numeral

open Finite64 (positional scientific)

variable {whole fraction rest cs ds : List Char} {exponent : Option (Bool × List Char)}

/-- The text is a numeral with a point or an exponent. -/
def IsFractional (cs : List Char) : Prop :=
  ∃ m, read? cs = some m ∧ (m.fraction.isSome ∨ m.exponent.isSome)

/-! ## Points and exponents -/

theorem readExponent?_repr (e : Int) :
    readExponent? ('e' :: (if e < 0 then '-' else '+') :: e.natAbs.repr.toList) =
      some (some (decide (e < 0), e.natAbs.repr.toList)) := by
  have hne : e.natAbs.repr.toList.isEmpty = false :=
    List.isEmpty_eq_false_iff.2 (Text.repr_toList_ne_nil _)
  have hdigits : e.natAbs.repr.toList.all Char.isDigit = true :=
    List.all_eq_true.2 fun _ => Text.isDigit_of_mem_repr
  simp only [readExponent?, Binary64.readSign_repr, hne, hdigits, true_or, if_true]
  exact if_neg (by decide)

theorem isFractional_point (negative : Bool) (hwhole : IsWhole whole)
    (hfraction : ∀ d ∈ fraction, d.isDigit = true) (hne : fraction ≠ [])
    (hrest : rest.head?.all (!·.isDigit) = true) (hexponent : readExponent? rest = some exponent) :
    IsFractional ((if negative then ['-'] else []) ++ (whole ++ '.' :: (fraction ++ rest))) := by
  have hempty : fraction.isEmpty = false := List.isEmpty_eq_false_iff.2 hne
  refine ⟨⟨negative, whole, some fraction, exponent⟩, ?_, .inl rfl⟩
  rw [read?_append negative hwhole rfl, readRest?, Text.takeWhile_isDigit_append hfraction hrest,
    Text.dropWhile_isDigit_append hfraction hrest, hempty, hexponent]
  rfl

theorem isFractional_decimals (negative : Bool) (hwhole : IsWhole whole)
    (hfraction : ∀ d ∈ fraction, d.isDigit = true) (hne : fraction ≠ []) :
    IsFractional ((if negative then ['-'] else []) ++ (whole ++ '.' :: fraction)) := by
  rw [← List.append_nil fraction]
  exact isFractional_point negative hwhole hfraction hne rfl rfl

theorem isFractional_exponent (negative : Bool) (hwhole : IsWhole whole) (e : Int) :
    IsFractional ((if negative then ['-'] else []) ++
      (whole ++ 'e' :: (if e < 0 then '-' else '+') :: e.natAbs.repr.toList)) := by
  refine ⟨⟨negative, whole, none, some (decide (e < 0), e.natAbs.repr.toList)⟩, ?_, .inr rfl⟩
  rw [read?_append negative hwhole rfl, readRest?, readExponent?_repr]
  · rfl
  · intro rest heq
    exact absurd (List.cons.inj heq).1 (by decide)

/-! ## Doubles -/

theorem isWhole_zero : IsWhole ['0'] := ⟨by simp, by simp, fun _ => rfl⟩

/-- Digits that start with no zero may be cut off and filled up with zeros. -/
theorem isWhole_take {n : Nat} (hn : 0 < n) (hne : ds ≠ []) (hdigits : ∀ d ∈ ds, d.isDigit = true)
    (hhead : ds.head? ≠ some '0') (zeros : Nat) :
    IsWhole (ds.take n ++ List.replicate zeros '0') := by
  have hsame : (ds.take n ++ List.replicate zeros '0').head? = ds.head? := by
    obtain ⟨d, ds, rfl⟩ := List.exists_cons_of_ne_nil hne
    obtain ⟨k, rfl⟩ := Nat.exists_eq_succ_of_ne_zero hn.ne'
    rfl
  constructor
  · intro hnil
    rw [hnil] at hsame
    exact hne (List.head?_eq_none_iff.1 hsame.symm)
  · intro d hd
    exact (List.mem_append.1 hd).elim (fun hd => hdigits d (List.mem_of_mem_take hd))
      Text.isDigit_of_mem_zeros
  · exact fun h => absurd (hsame ▸ h) hhead

theorem isFractional_positional (negative : Bool) (n : Int) (hne : ds ≠ [])
    (hdigits : ∀ d ∈ ds, d.isDigit = true) (hhead : ds.head? ≠ some '0') :
    IsFractional ((if negative then ['-'] else []) ++ positional ds n) := by
  have hpoint : ∀ {before after : List Char}, IsWhole before →
      (∀ d ∈ after, d.isDigit = true) → after ≠ [] →
      IsFractional ((if negative then ['-'] else []) ++ (before ++ '.' :: after)) :=
    isFractional_decimals negative
  generalize (if negative then ['-'] else []) = sign at hpoint ⊢
  unfold positional
  split
  · have hafter : ∀ d ∈ List.replicate n.natAbs '0' ++ ds, d.isDigit = true := fun d hd =>
      (List.mem_append.1 hd).elim Text.isDigit_of_mem_zeros (hdigits d)
    exact hpoint isWhole_zero hafter (List.append_ne_nil_of_right_ne_nil _ hne)
  · next hn =>
    extract_lets n before after
    have hbefore : IsWhole before := isWhole_take (by omega) hne hdigits hhead _
    split
    · exact hpoint hbefore (by simp) (by simp)
    · next hafter =>
      exact hpoint hbefore (fun d hd => hdigits d (List.mem_of_mem_drop hd))
        (by simpa using hafter)

theorem isFractional_scientific (negative : Bool) (e : Int) (hne : ds ≠ [])
    (hdigits : ∀ d ∈ ds, d.isDigit = true) :
    IsFractional ((if negative then ['-'] else []) ++ scientific ds e) := by
  obtain ⟨d, ds, rfl⟩ := List.exists_cons_of_ne_nil hne
  obtain ⟨hd, hds⟩ := List.forall_mem_cons.1 hdigits
  have hone : IsWhole [d] := ⟨by simp, by simpa using hd, fun _ => rfl⟩
  cases ds with
  | nil => exact isFractional_exponent negative hone e
  | cons d' ds => exact isFractional_point negative hone hds (by simp) rfl (readExponent?_repr e)

/-- Where the point stands depends on how large the number is. -/
theorem isFractional_decimal (negative : Bool) {d : Decimal} (hd : d.coefficient ≠ 0) :
    IsFractional ((if negative then ['-'] else []) ++
      if -5 ≤ d.leading ∧ d.leading < 16 then
        positional d.coefficient.repr.toList (d.leading + 1)
      else scientific d.coefficient.repr.toList d.leading) := by
  have hne : d.coefficient.repr.toList ≠ [] := Text.repr_toList_ne_nil _
  have hdigits : ∀ c ∈ d.coefficient.repr.toList, c.isDigit = true := fun _ =>
    Text.isDigit_of_mem_repr
  by_cases hleading : -5 ≤ d.leading ∧ d.leading < 16
  · rw [if_pos hleading]
    exact isFractional_positional negative _ hne hdigits fun h => hd (Text.head?_repr h)
  · rw [if_neg hleading]
    exact isFractional_scientific negative _ hne hdigits

theorem isFractional_chars (x : Finite64) : IsFractional x.chars := by
  rw [Finite64.chars]
  by_cases hrank : x.rank = 0
  · rw [if_pos hrank]
    have hzero : IsFractional ((if x.negative then ['-'] else []) ++ (['0'] ++ '.' :: ['0'])) :=
      isFractional_decimals x.negative isWhole_zero (by simp) (by simp)
    exact hzero
  · rw [if_neg hrank]
    have hcoefficient : x.shortest.coefficient ≠ 0 := fun h =>
      hrank (x.rank_shortest.symm.trans (Decimal.rank_of_coefficient_eq_zero h))
    have hdecimal := isFractional_decimal x.negative hcoefficient
    exact hdecimal

end Numeral

namespace Number

/-- The text of a double is the text of a double again, unless that is beyond the doubles. -/
theorem exists_float? (x : Finite64) :
    ∃ m : Numeral, Numeral.read? (Number.float x).text.toList = some m ∧
      m.value? = m.float?.map .float := by
  obtain ⟨m, hm, hfractional⟩ := Numeral.isFractional_chars x
  refine ⟨m, ?_, if_neg ?_⟩
  · rw [text, Finite64.text, String.toList_ofList, hm]
  · rintro ⟨hfraction, hexponent, -⟩
    rcases hfractional with h | h
    · simp [Option.isNone_iff_eq_none.1 hfraction] at h
    · simp [Option.isNone_iff_eq_none.1 hexponent] at h

end Number

end FeatureFlags.Json
