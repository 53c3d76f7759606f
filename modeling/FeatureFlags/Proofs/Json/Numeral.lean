import FeatureFlags.Json.Numeral
import FeatureFlags.Proofs.Text.Digit
import Mathlib.Data.List.TakeWhile

/-!
# Numbers that are written and read

* `Number.ReadsBack`: the text of a number reads as the number.
* `Number.readsBack_integer`: whole numbers of 64 bits read back.
* `Number.fitsInteger_of_value?`: a numeral stands for no other whole numbers.
* `Numeral.isNumeric_of_read?`: the characters that numerals are made of.
-/

namespace FeatureFlags.Json

namespace Number

/-- The text of the number reads as the number. -/
def ReadsBack (n : Number) : Prop :=
  (Numeral.read? n.text.toList).bind Numeral.value? = some n

instance (n : Number) : Decidable n.ReadsBack :=
  inferInstanceAs (Decidable (_ = _))

theorem fitsInteger_of_value? {m : Numeral} {n : Int} (h : m.value? = some (.integer n)) :
    fitsInteger n = true := by
  unfold Numeral.value? at h
  extract_lets whole signed at h
  split at h
  · next hfits =>
    simp only [Option.some.injEq, integer.injEq] at h
    exact h ▸ hfits.2.2.1
  · obtain ⟨x, -, hx⟩ := Option.map_eq_some_iff.1 h
    cases hx

end Number

namespace Numeral

/-! ## The parts of a numeral -/

/-- A run of digits without a needless zero. -/
structure IsWhole (ds : List Char) : Prop where
  ne_nil : ds ≠ []
  isDigit : ∀ d ∈ ds, d.isDigit = true
  length_of_zero : ds.head? = some '0' → ds.length = 1

/-- Reads what stands behind the digits before the point. -/
def readRest? (negative : Bool) (whole : List Char) : List Char → Option Numeral
  | '.' :: rest =>
    if (rest.takeWhile Char.isDigit).isEmpty then none
    else (readExponent? (rest.dropWhile Char.isDigit)).map fun exponent =>
      ⟨negative, whole, some (rest.takeWhile Char.isDigit), exponent⟩
  | rest => (readExponent? rest).map fun exponent => ⟨negative, whole, none, exponent⟩

/-- The sign and the digits before the point are read as such, whatever stands behind them. -/
theorem read?_append (negative : Bool) {whole rest : List Char} (h : IsWhole whole)
    (hrest : rest.head?.all (!·.isDigit) = true) :
    read? ((if negative then ['-'] else []) ++ (whole ++ rest)) =
      readRest? negative whole rest := by
  have htake := Text.takeWhile_isDigit_append h.isDigit hrest
  have hdrop := Text.dropWhile_isDigit_append h.isDigit hrest
  have hfine : ¬(whole.isEmpty = true ∨ whole.head? = some '0' ∧ whole.length ≠ 1) := by
    rintro (hempty | ⟨hzero, hlength⟩)
    · exact h.ne_nil (List.isEmpty_iff.1 hempty)
    · exact hlength (h.length_of_zero hzero)
  have hminus : ∀ cs, whole ++ rest = '-' :: cs → False := by
    obtain ⟨d, ds, rfl⟩ := List.exists_cons_of_ne_nil h.ne_nil
    intro cs heq
    have hd : d = '-' := (List.cons.inj heq).1
    exact absurd (hd ▸ h.isDigit d List.mem_cons_self) (by decide)
  cases negative with
  | true =>
    show read? ('-' :: (whole ++ rest)) = _
    rw [read?, htake, hdrop, if_neg hfine]
    rfl
  | false =>
    show read? (whole ++ rest) = _
    rw [read?, htake, hdrop, if_neg hfine]
    · rfl
    · exact hminus

/-! ## Whole numbers -/

/-- Digits alone are a numeral, with a minus or without. -/
theorem read?_digits (negative : Bool) {ds : List Char} (h : IsWhole ds) :
    read? ((if negative then ['-'] else []) ++ ds) = some ⟨negative, ds, none, none⟩ := by
  have hread : read? ((if negative then ['-'] else []) ++ (ds ++ [])) = _ :=
    read?_append negative h rfl
  rwa [List.append_nil] at hread

/-- The digits of a number have no needless zero. -/
theorem isWhole_repr (n : Nat) : IsWhole n.repr.toList where
  ne_nil := Text.repr_toList_ne_nil n
  isDigit _ := Text.isDigit_of_mem_repr
  length_of_zero h := by
    rw [Text.head?_repr h]
    rfl

/-- Digits alone are a whole number, unless they are beyond 64 bits or minus zero. -/
theorem value?_whole {negative : Bool} {ds : List Char} {n : Int}
    (hvalue : (if negative then -(Text.digitsValue ds : Int) else Text.digitsValue ds) = n)
    (hfits : Number.fitsInteger n = true) (hzero : ¬(negative = true ∧ n = 0)) :
    value? ⟨negative, ds, none, none⟩ = some (.integer n) := by
  subst hvalue
  refine if_pos ⟨rfl, rfl, hfits, ?_⟩
  rw [decide_eq_false hzero]
  rfl

end Numeral

namespace Number

theorem text_ofNat (n : Nat) : (Number.integer (.ofNat n)).text = n.repr := rfl

theorem text_negSucc (n : Nat) : (Number.integer (.negSucc n)).text = "-" ++ (n + 1).repr := rfl

/-- Whole numbers of 64 bits read back. -/
theorem readsBack_integer {n : Int} (hn : fitsInteger n = true) :
    (Number.integer n).ReadsBack := by
  cases n with
  | ofNat n =>
    have hread : Numeral.read? n.repr.toList = some ⟨false, n.repr.toList, none, none⟩ :=
      Numeral.read?_digits false (Numeral.isWhole_repr n)
    rw [ReadsBack, text_ofNat, hread, Option.bind_some]
    refine Numeral.value?_whole ?_ hn (by simp)
    rw [if_neg Bool.false_ne_true, Text.digitsValue_repr]
    rfl
  | negSucc n =>
    have hread : Numeral.read? ('-' :: (n + 1).repr.toList) =
        some ⟨true, (n + 1).repr.toList, none, none⟩ :=
      Numeral.read?_digits true (Numeral.isWhole_repr (n + 1))
    have htext : ("-" ++ (n + 1).repr).toList = '-' :: (n + 1).repr.toList := by
      rw [String.toList_append]
      rfl
    rw [ReadsBack, text_negSucc, htext, hread, Option.bind_some]
    refine Numeral.value?_whole ?_ hn (by simp)
    rw [if_pos rfl, Text.digitsValue_repr]
    rfl

end Number

namespace Numeral

/-! ## The characters of numerals -/

/-- The characters that numerals are made of. -/
def isNumeric (c : Char) : Bool :=
  c.isDigit || c = '-' || c = '+' || c = '.' || c = 'e' || c = 'E'

theorem isNumeric_of_isDigit {c : Char} (h : c.isDigit = true) : isNumeric c = true := by
  rw [isNumeric, h]
  rfl

/-- Before the end of a run of digits there are digits. -/
theorem isNumeric_or_mem_dropWhile {cs : List Char} {c : Char} (hc : c ∈ cs) :
    isNumeric c = true ∨ c ∈ cs.dropWhile Char.isDigit := by
  rw [← List.takeWhile_append_dropWhile (p := Char.isDigit) (l := cs), List.mem_append] at hc
  exact hc.imp_left fun h => isNumeric_of_isDigit (List.mem_takeWhile_imp (p := Char.isDigit) h)

theorem isNumeric_of_readExponent? {cs : List Char} {e : Option (Bool × List Char)}
    (h : readExponent? cs = some e) {c : Char} (hc : c ∈ cs) : isNumeric c = true := by
  cases cs with
  | nil => exact absurd hc List.not_mem_nil
  | cons d rest =>
    rw [readExponent?] at h
    split at h
    · next hd =>
      obtain ⟨negative, ds, hds⟩ : ∃ negative ds, Binary64.readSign rest = (negative, ds) :=
        ⟨_, _, rfl⟩
      rw [hds] at h
      have hdigits : ∀ d ∈ (Binary64.readSign rest).2, d.isDigit = true := by
        rw [hds]
        dsimp only at h
        split at h
        · cases h
        · next hfine =>
          intro d hd
          by_contra hnot
          exact hfine (.inr (by simpa using ⟨d, hd, Bool.eq_false_iff.2 hnot⟩))
      rcases List.mem_cons.1 hc with rfl | hc
      · rcases hd with rfl | rfl <;> rfl
      · unfold Binary64.readSign at hdigits
        split at hdigits
        · rcases List.mem_cons.1 hc with rfl | hc
          · rfl
          · exact isNumeric_of_isDigit (hdigits c hc)
        · rcases List.mem_cons.1 hc with rfl | hc
          · rfl
          · exact isNumeric_of_isDigit (hdigits c hc)
        · exact isNumeric_of_isDigit (hdigits c hc)
    · cases h

theorem isNumeric_of_read? {cs : List Char} {m : Numeral} (h : read? cs = some m) {c : Char}
    (hc : c ∈ cs) : isNumeric c = true := by
  unfold read? at h
  split at h
  next negative rest hsign =>
    have hrest : ∀ c ∈ rest, isNumeric c = true := by
      intro c hc
      rcases isNumeric_or_mem_dropWhile hc with hc | hc
      · exact hc
      · dsimp only at h
        split at h
        · cases h
        · split at h
          · next fraction hfraction =>
            rw [hfraction] at hc
            rcases List.mem_cons.1 hc with rfl | hc
            · rfl
            · rcases isNumeric_or_mem_dropWhile hc with hc | hc
              · exact hc
              · split at h
                · cases h
                · obtain ⟨e, he, -⟩ := Option.map_eq_some_iff.1 h
                  exact isNumeric_of_readExponent? he hc
          · obtain ⟨e, he, -⟩ := Option.map_eq_some_iff.1 h
            exact isNumeric_of_readExponent? he hc
    split at hsign
    · cases hsign
      rcases List.mem_cons.1 hc with rfl | hc
      · rfl
      · exact hrest c hc
    · cases hsign
      exact hrest c hc

theorem ne_nil_of_read? {cs : List Char} {m : Numeral} (h : read? cs = some m) : cs ≠ [] := by
  rintro rfl
  cases h

end Numeral

end FeatureFlags.Json
