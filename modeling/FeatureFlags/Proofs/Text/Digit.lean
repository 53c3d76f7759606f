import FeatureFlags.Text.Blank
import FeatureFlags.Text.Digit
import Mathlib.Data.List.Induction
import Mathlib.Tactic.IntervalCases

/-!
# Digits that are written and read

Digits read back as the number that they were written for.

* `digitsValue_decimalPadded` and `hexDigitsValue?_hexPadded`: a number that is padded to a width
  loses its higher digits.
* `digitsValue_repr` and `digitsValue_decimalAtLeast`: a number of any width loses nothing.
* `takeWhile_isDigit_append` and `dropWhile_isDigit_append` find the end of a run of digits.
-/

namespace FeatureFlags.Text

/-! ## Decimal digits -/

theorem toNat_decimalDigit {n : Nat} (h : n < 10) : (Char.ofNat (48 + n)).toNat = 48 + n := by
  interval_cases n <;> rfl

theorem isDigit_decimalDigit {n : Nat} (h : n < 10) : (Char.ofNat (48 + n)).isDigit = true := by
  interval_cases n <;> rfl

theorem digitValue_decimalDigit {n : Nat} (h : n < 10) : digitValue (Char.ofNat (48 + n)) = n := by
  rw [digitValue, toNat_decimalDigit h, Nat.add_sub_cancel_left]

theorem digitValue_lt {c : Char} (h : c.isDigit = true) : digitValue c < 10 := by
  have hc : 48 ≤ c.toNat ∧ c.toNat ≤ 57 := Char.isDigit_iff_toNat.1 h
  rw [digitValue]
  omega

theorem exists_of_isDigit {c : Char} (h : c.isDigit = true) :
    ∃ k < 10, c = Char.ofNat (48 + k) := by
  have hc : 48 ≤ c.toNat ∧ c.toNat ≤ 57 := Char.isDigit_iff_toNat.1 h
  refine ⟨c.toNat - 48, by omega, ?_⟩
  rw [Nat.add_sub_cancel' hc.1, Char.ofNat_toNat]

/-- One more digit is worth ten times what stands before it. -/
theorem digitsValue_concat (ds : List Char) (d : Char) :
    digitsValue (ds ++ [d]) = digitsValue ds * 10 + digitValue d := by
  rw [digitsValue, digitsValue, digitsValueFrom, digitsValueFrom, List.foldl_append]
  rfl

/-- A run of digits is below the power of ten for its length. -/
theorem digitsValue_lt {ds : List Char} (h : ∀ d ∈ ds, d.isDigit = true) :
    digitsValue ds < 10 ^ ds.length := by
  induction ds using List.reverseRecOn with
  | nil => exact Nat.one_pos
  | append_singleton ds d ih =>
    have hds := ih fun d' hd' => h d' (List.mem_append_left _ hd')
    have hd := digitValue_lt (h d (List.mem_append_right _ List.mem_cons_self))
    rw [digitsValue_concat, List.length_append, List.length_singleton, Nat.pow_succ]
    omega

/-! ## Padded numbers -/

theorem length_decimalPadded (width n : Nat) : (decimalPadded width n).length = width := by
  induction width generalizing n with
  | zero => rfl
  | succ w ih => rw [decimalPadded, List.length_append, ih, List.length_singleton]

theorem isDigit_of_mem_decimalPadded {width n : Nat} {d : Char} (h : d ∈ decimalPadded width n) :
    d.isDigit = true := by
  induction width generalizing n with
  | zero => exact absurd h List.not_mem_nil
  | succ w ih =>
    rw [decimalPadded, List.mem_append, List.mem_singleton] at h
    rcases h with h | rfl
    · exact ih h
    · exact isDigit_decimalDigit (Nat.mod_lt _ (by decide))

/-- A number that is padded to a width keeps as many of its last digits. -/
theorem digitsValue_decimalPadded (width n : Nat) :
    digitsValue (decimalPadded width n) = n % 10 ^ width := by
  induction width generalizing n with
  | zero => rw [Nat.pow_zero, Nat.mod_one]; rfl
  | succ w ih =>
    rw [decimalPadded, digitsValue_concat, ih, digitValue_decimalDigit (Nat.mod_lt _ (by decide)),
      Nat.pow_succ', Nat.mod_mul]
    omega

theorem digitsValue_decimalPadded_of_lt {width n : Nat} (h : n < 10 ^ width) :
    digitsValue (decimalPadded width n) = n := by
  rw [digitsValue_decimalPadded, Nat.mod_eq_of_lt h]

/-! ## Numbers of any width -/

theorem isDigit_of_mem_repr {n : Nat} {d : Char} (h : d ∈ n.repr.toList) : d.isDigit = true := by
  rw [Nat.toList_repr] at h
  exact Nat.isDigit_of_mem_toDigits (by decide) (by decide) h

theorem repr_toList_ne_nil (n : Nat) : n.repr.toList ≠ [] := by
  rw [Nat.toList_repr]
  exact Nat.toDigits_ne_nil

theorem digitsValue_eq_ofDigitChars (ds : List Char) :
    digitsValue ds = Nat.ofDigitChars 10 ds 0 := by
  rw [digitsValue, digitsValueFrom, Nat.ofDigitChars_eq_foldl]
  congr 1
  funext n d
  rw [digitValue, Nat.mul_comm]
  rfl

/-- The digits of a number spell it. -/
theorem digitsValue_repr (n : Nat) : digitsValue n.repr.toList = n := by
  rw [digitsValue_eq_ofDigitChars, Nat.toList_repr, Nat.ofDigitChars_ten_toDigits]

/-- Only the number zero starts with a zero. -/
theorem head?_repr {n : Nat} (h : n.repr.toList.head? = some '0') : n = 0 := by
  rw [Nat.toList_repr] at h
  induction n using Nat.strongRecOn with
  | ind n ih =>
    by_cases hsmall : n < 10
    · rw [Nat.toDigits_of_lt_base hsmall, List.head?_cons, Option.some.injEq,
        Nat.digitChar_eq_zero] at h
      exact h
    · rw [Nat.toDigits_of_base_le (by decide) (by omega)] at h
      obtain ⟨d, hd⟩ := Option.isSome_iff_exists.1 (List.isSome_head?.2 Nat.toDigits_ne_nil)
      rw [List.head?_append, hd] at h
      have hzero := ih (n / 10) (by omega) (hd.trans h)
      omega

theorem isDigit_of_mem_zeros {n : Nat} {d : Char} (h : d ∈ List.replicate n '0') :
    d.isDigit = true := by
  rw [(List.mem_replicate.1 h).2]
  rfl

/-- Zeros at the end are powers of ten. -/
theorem digitsValue_append_zeros (ds : List Char) (n : Nat) :
    digitsValue (ds ++ List.replicate n '0') = digitsValue ds * 10 ^ n := by
  induction n with
  | zero => rw [List.replicate_zero, List.append_nil, Nat.pow_zero, Nat.mul_one]
  | succ n ih =>
    rw [List.replicate_succ', ← List.append_assoc, digitsValue_concat, ih, Nat.pow_succ,
      Nat.mul_assoc]
    rfl

/-- Leading zeros do not change a number. -/
theorem digitsValue_zeros_append (n : Nat) (ds : List Char) :
    digitsValue (List.replicate n '0' ++ ds) = digitsValue ds := by
  rw [digitsValue_eq_ofDigitChars, Nat.ofDigitChars_append, Nat.ofDigitChars_replicate_zero,
    Nat.mul_zero, ← digitsValue_eq_ofDigitChars]

theorem isDigit_of_mem_decimalAtLeast {width n : Nat} {d : Char}
    (h : d ∈ decimalAtLeast width n) : d.isDigit = true := by
  rw [decimalAtLeast, List.mem_append] at h
  exact h.elim isDigit_of_mem_zeros isDigit_of_mem_repr

theorem decimalAtLeast_ne_nil (width n : Nat) : decimalAtLeast width n ≠ [] := by
  rw [decimalAtLeast]
  exact List.append_ne_nil_of_right_ne_nil _ (repr_toList_ne_nil n)

theorem digitsValue_decimalAtLeast (width n : Nat) :
    digitsValue (decimalAtLeast width n) = n := by
  rw [decimalAtLeast, digitsValue_zeros_append, digitsValue_repr]

/-! ## Runs of digits -/

theorem takeWhile_isDigit_append {ds rest : List Char} (h : ∀ d ∈ ds, d.isDigit = true)
    (hrest : rest.head?.all (!·.isDigit) = true) :
    (ds ++ rest).takeWhile Char.isDigit = ds := by
  rw [List.takeWhile_append_of_pos h]
  cases rest with
  | nil => exact List.append_nil ds
  | cons c rest =>
    have hc : c.isDigit = false := by simpa using hrest
    rw [List.takeWhile_cons_of_neg (by simp [hc]), List.append_nil]

theorem dropWhile_isDigit_append {ds rest : List Char} (h : ∀ d ∈ ds, d.isDigit = true)
    (hrest : rest.head?.all (!·.isDigit) = true) :
    (ds ++ rest).dropWhile Char.isDigit = rest := by
  rw [List.dropWhile_append_of_pos h]
  cases rest with
  | nil => rfl
  | cons c rest =>
    have hc : c.isDigit = false := by simpa using hrest
    rw [List.dropWhile_cons_of_neg (by simp [hc])]

theorem isBlank_of_isDigit {c : Char} (h : c.isDigit = true) : isBlank c = false := by
  have hc : 48 ≤ c.toNat ∧ c.toNat ≤ 57 := Char.isDigit_iff_toNat.1 h
  simp only [isBlank, Bool.or_eq_false_iff, Bool.and_eq_false_iff, decide_eq_false_iff_not,
    beq_eq_false_iff_ne]
  omega

/-- Nothing is trimmed from a text without blanks. -/
theorem trim_eq_self {cs : List Char} (h : ∀ c ∈ cs, isBlank c = false) : trim cs = cs := by
  have hstart : ∀ cs : List Char, (∀ c ∈ cs, isBlank c = false) → cs.dropWhile isBlank = cs := by
    intro cs h
    cases cs with
    | nil => rfl
    | cons c cs => rw [List.dropWhile_cons_of_neg (by simp [h c])]
  have hend : ∀ c ∈ cs.reverse, isBlank c = false := fun c hc => h c (List.mem_reverse.1 hc)
  rw [trim, trimStart, hstart cs h, trimEnd, hstart cs.reverse hend, List.reverse_reverse]

/-- Nothing is trimmed before a digit. -/
theorem trimStart_digits {ds rest : List Char} (hne : ds ≠ []) (h : ∀ d ∈ ds, d.isDigit = true) :
    trimStart (ds ++ rest) = ds ++ rest := by
  cases ds with
  | nil => exact absurd rfl hne
  | cons d ds =>
    rw [trimStart, List.cons_append, List.dropWhile_cons_of_neg]
    rw [isBlank_of_isDigit (h d List.mem_cons_self)]
    decide

/-! ## Hexadecimal digits -/

theorem hexValue?_hexDigit {n : Nat} (h : n < 16) : hexValue? (hexDigit n) = some n := by
  interval_cases n <;> rfl

theorem length_hexPadded (width n : Nat) : (hexPadded width n).length = width := by
  induction width generalizing n with
  | zero => rfl
  | succ w ih => rw [hexPadded, List.length_append, ih, List.length_singleton]

theorem exists_of_mem_hexPadded {width n : Nat} {d : Char} (h : d ∈ hexPadded width n) :
    ∃ k < 16, d = hexDigit k := by
  induction width generalizing n with
  | zero => exact absurd h List.not_mem_nil
  | succ w ih =>
    rw [hexPadded, List.mem_append, List.mem_singleton] at h
    rcases h with h | rfl
    · exact ih h
    · exact ⟨n % 16, Nat.mod_lt _ (by decide), rfl⟩

/-- A number that is padded to a width keeps as many of its last hexadecimal digits. -/
theorem hexDigitsValue?_hexPadded (width n : Nat) :
    hexDigitsValue? (hexPadded width n) = some (n % 16 ^ width) := by
  induction width generalizing n with
  | zero => rw [Nat.pow_zero, Nat.mod_one]; rfl
  | succ w ih =>
    have hfirst := ih (n / 16)
    rw [hexDigitsValue?] at hfirst
    rw [hexPadded, hexDigitsValue?, List.foldlM_append, hfirst]
    show ((hexValue? (hexDigit (n % 16))).map _ >>= pure) = _
    rw [hexValue?_hexDigit (Nat.mod_lt _ (by decide)), Nat.pow_succ', Nat.mod_mul]
    show some (n / 16 % 16 ^ w * 16 + n % 16) = some (n % 16 + 16 * (n / 16 % 16 ^ w))
    rw [Nat.add_comm, Nat.mul_comm]

end FeatureFlags.Text
