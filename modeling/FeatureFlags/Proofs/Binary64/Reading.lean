import FeatureFlags.Proofs.Binary64.Decimal

/-!
# Texts that are read as doubles

`Spells cs d` says that a text is read as a decimal number of the magnitude of `d`.  A run of digits
spells one, with a point among them or an exponent behind them (`spells_point`, `spells_whole`),
and with a sign before it, such a text is read as the double nearest to the number
(`Spells.read?_eq`).  So is the text of a whole number (`read?_toString`).
-/

namespace FeatureFlags.Binary64

open Text

variable {negative : Bool} {whole fraction rest cs : List Char} {d : Decimal} {e : Int}

/-! ## The parts of a number -/

theorem readSign_repr (e : Int) :
    readSign ((if e < 0 then '-' else '+') :: e.natAbs.repr.toList) =
      (decide (e < 0), e.natAbs.repr.toList) := by
  by_cases h : e < 0
  · simp only [h, if_true, decide_true]
    rfl
  · simp only [h, if_false, decide_false]
    rfl

/-- A written exponent is read. -/
theorem readExponent?_repr (e : Int) :
    readExponent? ('e' :: (if e < 0 then '-' else '+') :: e.natAbs.repr.toList) = some e := by
  have hne : e.natAbs.repr.toList.isEmpty = false :=
    List.isEmpty_eq_false_iff.2 (repr_toList_ne_nil _)
  have hdigits : e.natAbs.repr.toList.all Char.isDigit = true :=
    List.all_eq_true.2 fun _ => isDigit_of_mem_repr
  simp only [readExponent?, readSign_repr, hne, hdigits, digitsValue_repr, true_or, if_true]
  rw [if_neg (by decide), Option.some.injEq]
  split
  · next h => rw [Int.ofNat_natAbs_of_nonpos (of_decide_eq_true h).le, Int.neg_neg]
  · next h => exact Int.natAbs_of_nonneg (by simpa using h)

theorem readDecimal?_point (hwhole : ∀ c ∈ whole, c.isDigit = true) (hne : whole ≠ [])
    (hfraction : ∀ c ∈ fraction, c.isDigit = true) (hrest : rest.head?.all (!·.isDigit) = true) :
    readDecimal? negative (whole ++ '.' :: (fraction ++ rest)) =
      (readExponent? rest).map fun e =>
        ⟨negative, digitsValue (whole ++ fraction), e - fraction.length⟩ := by
  have hempty : whole.isEmpty = false := List.isEmpty_eq_false_iff.2 hne
  rw [readDecimal?, takeWhile_isDigit_append hwhole rfl, dropWhile_isDigit_append hwhole rfl]
  simp only [takeWhile_isDigit_append hfraction hrest, dropWhile_isDigit_append hfraction hrest,
    hempty, Bool.false_eq_true, false_and, if_false]

theorem readDecimal?_whole (hwhole : ∀ c ∈ whole, c.isDigit = true) (hne : whole ≠ [])
    (hrest : rest = [] ∨ ∃ cs, rest = 'e' :: cs) :
    readDecimal? negative (whole ++ rest) =
      (readExponent? rest).map fun e => ⟨negative, digitsValue whole, e⟩ := by
  have hempty : whole.isEmpty = false := List.isEmpty_eq_false_iff.2 hne
  have hstop : rest.head?.all (!·.isDigit) = true := by
    rcases hrest with rfl | ⟨cs, rfl⟩
    · rfl
    · rfl
  rw [readDecimal?, takeWhile_isDigit_append hwhole hstop, dropWhile_isDigit_append hwhole hstop]
  rcases hrest with rfl | ⟨cs, rfl⟩
  · simp [hempty]
  · simp [hempty]

/-! ## Numbers -/

/-- The text is read as a decimal number of the magnitude of another. -/
def Spells (cs : List Char) (d : Decimal) : Prop :=
  ∀ negative, ∃ d', readDecimal? negative cs = some d' ∧ d'.negative = negative ∧
    d'.magnitude = d.magnitude

theorem spells_point (hwhole : ∀ c ∈ whole, c.isDigit = true) (hne : whole ≠ [])
    (hfraction : ∀ c ∈ fraction, c.isDigit = true) (hrest : rest.head?.all (!·.isDigit) = true)
    (he : readExponent? rest = some e)
    (hvalue : (digitsValue (whole ++ fraction) : ℚ) * 10 ^ (e - fraction.length) = d.magnitude) :
    Spells (whole ++ '.' :: (fraction ++ rest)) d := by
  intro negative
  refine ⟨⟨negative, digitsValue (whole ++ fraction), e - fraction.length⟩, ?_, rfl, hvalue⟩
  rw [readDecimal?_point hwhole hne hfraction hrest, he, Option.map_some]

theorem spells_whole (hwhole : ∀ c ∈ whole, c.isDigit = true) (hne : whole ≠ [])
    (hrest : rest = [] ∨ ∃ cs, rest = 'e' :: cs) (he : readExponent? rest = some e)
    (hvalue : (digitsValue whole : ℚ) * 10 ^ e = d.magnitude) : Spells (whole ++ rest) d := by
  intro negative
  refine ⟨⟨negative, digitsValue whole, e⟩, ?_, rfl, hvalue⟩
  rw [readDecimal?_whole hwhole hne hrest, he, Option.map_some]

/-! ## Signs and words -/

/-- What is read starts with a digit or the point. -/
theorem head_of_readDecimal? (h : readDecimal? negative cs = some d) :
    ∃ c rest, cs = c :: rest ∧ (c.isDigit = true ∨ c = '.') := by
  cases cs with
  | nil => cases h
  | cons c rest =>
    refine ⟨c, rest, rfl, ?_⟩
    by_contra hc
    rw [not_or] at hc
    simp [readDecimal?, hc.1, hc.2] at h

/-- A digit or the point is no sign, and none of the words starts with it. -/
theorem plain_of_isDigit_or_point {c : Char} (h : c.isDigit = true ∨ c = '.') :
    c ≠ '-' ∧ c ≠ '+' ∧ c.toLower ≠ 'i' ∧ c.toLower ≠ 'n' := by
  rcases h with h | rfl
  · obtain ⟨k, hk, rfl⟩ := exists_of_isDigit h
    interval_cases k <;> decide
  · decide

/-- A number with its sign is read. -/
theorem read?_of_readDecimal? (h : readDecimal? negative cs = some d) :
    read? ((if negative then ['-'] else []) ++ cs) = some (ofDecimal d) := by
  obtain ⟨c, rest, rfl, hc⟩ := head_of_readDecimal? h
  obtain ⟨hminus, hplus, hi, hn⟩ := plain_of_isDigit_or_point hc
  have hsign : readSign ((if negative then ['-'] else []) ++ c :: rest) =
      (negative, c :: rest) := by
    cases negative with
    | true => rfl
    | false =>
      show readSign (c :: rest) = _
      unfold readSign
      split
      · next heq => exact absurd (List.cons.inj heq).1 hminus
      · next heq => exact absurd (List.cons.inj heq).1 hplus
      · rfl
  have hinf : ¬(c.toLower :: rest.map Char.toLower = "inf".toList ∨
      c.toLower :: rest.map Char.toLower = "infinity".toList) := by
    rintro (heq | heq)
    · exact hi (List.cons.inj heq).1
    · exact hi (List.cons.inj heq).1
  have hnan : c.toLower :: rest.map Char.toLower ≠ "nan".toList := fun heq =>
    hn (List.cons.inj heq).1
  simp only [read?, hsign, List.map_cons, h, Option.map_some, if_neg hinf, if_neg hnan]

/-- What spells a decimal number is read as the double nearest to it. -/
theorem Spells.read?_eq (h : Spells cs d) (negative : Bool) :
    read? ((if negative then ['-'] else []) ++ cs) = some (ofRank negative d.rank) := by
  obtain ⟨d', hread, hsign, hmagnitude⟩ := h negative
  rw [read?_of_readDecimal? hread, Decimal.ofDecimal_eq, hsign, Decimal.rank_congr hmagnitude]

/-! ## Whole numbers -/

theorem toList_toString (n : Int) :
    (toString n).toList = (if decide (n < 0) then ['-'] else []) ++ n.natAbs.repr.toList := by
  cases n with
  | ofNat n => rfl
  | negSucc n =>
    show ("-" ++ (n + 1).repr).toList = _
    rw [String.toList_append, decide_eq_true (Int.negSucc_lt_zero n)]
    rfl

/-- The text of a whole number is read as the double nearest to the number. -/
theorem read?_toString (n : Int) : read? (toString n).toList = some (ofInt n) := by
  have hspells : Spells (n.natAbs.repr.toList ++ []) ⟨false, n.natAbs, 0⟩ := by
    refine spells_whole (fun _ => isDigit_of_mem_repr) (repr_toList_ne_nil _) (.inl rfl) rfl ?_
    rw [digitsValue_repr]
    rfl
  rw [List.append_nil] at hspells
  rw [toList_toString, hspells.read?_eq, ofInt, Decimal.rank_eq, Decimal.ratio]
  simp

end FeatureFlags.Binary64
