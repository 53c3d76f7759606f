import FeatureFlags.Json.Quoted
import FeatureFlags.Proofs.Text.Digit

/-!
# Literals that are written and read

* `exists_pieces_escape`: the inside of the literal for a text is cut into pieces, and the pieces
  are put together to the text.
* `escapeChar_cases`: what a character is written as, which is what a pass over the literal needs
  to find its end.
-/

namespace FeatureFlags.Json.Quoted

/-- A character is written as a short escape sequence, as a unit of four digits, or as it is. -/
theorem escapeChar_cases (c : Char) :
    (∃ e, escapeChar c = ['\\', e] ∧ e ≠ 'u' ∧ shortEscape? e = some c) ∨
    (c.toNat < 32 ∧ escapeChar c = '\\' :: 'u' :: Text.hexPadded 4 c.toNat) ∨
    (32 ≤ c.toNat ∧ c ≠ '"' ∧ c ≠ '\\' ∧ escapeChar c = [c]) := by
  by_cases hquote : c = '"'
  · exact .inl ⟨'"', by rw [hquote]; rfl, by decide, by rw [hquote]; rfl⟩
  by_cases hslash : c = '\\'
  · exact .inl ⟨'\\', by rw [hslash]; rfl, by decide, by rw [hslash]; rfl⟩
  by_cases hb : c = '\x08'
  · exact .inl ⟨'b', by rw [hb]; rfl, by decide, by rw [hb]; rfl⟩
  by_cases hf : c = '\x0c'
  · exact .inl ⟨'f', by rw [hf]; rfl, by decide, by rw [hf]; rfl⟩
  by_cases hn : c = '\n'
  · exact .inl ⟨'n', by rw [hn]; rfl, by decide, by rw [hn]; rfl⟩
  by_cases hr : c = '\r'
  · exact .inl ⟨'r', by rw [hr]; rfl, by decide, by rw [hr]; rfl⟩
  by_cases ht : c = '\t'
  · exact .inl ⟨'t', by rw [ht]; rfl, by decide, by rw [ht]; rfl⟩
  rw [escapeChar, if_neg hquote, if_neg hslash, if_neg hb, if_neg hf, if_neg hn, if_neg hr,
    if_neg ht]
  by_cases hcontrol : c.toNat < 32
  · rw [if_pos hcontrol]
    exact .inr (.inl ⟨hcontrol, rfl⟩)
  · rw [if_neg hcontrol]
    exact .inr (.inr ⟨Nat.not_lt.1 hcontrol, hquote, hslash, rfl⟩)

/-- No digit ends a literal or starts an escape sequence. -/
theorem hexDigit_ne {k : Nat} (hk : k < 16) :
    Text.hexDigit k ≠ '"' ∧ Text.hexDigit k ≠ '\\' := by
  interval_cases k <;> decide

theorem unescape?_short {e c : Char} (he : e ≠ 'u') (hc : shortEscape? e = some c)
    (rest : List Char) :
    unescape? ('\\' :: e :: rest) = (unescape? rest).map (.char c :: ·) := by
  rw [unescape?.eq_def]
  split
  · next h => cases h
  · next h =>
    cases h
    exact absurd rfl he
  · next h =>
    cases h
    rw [hc]
    cases unescape? rest <;> rfl
  · next h => cases h
  · next hnot _ h =>
    cases h
    exact absurd rfl (hnot e rest rfl)

theorem unescape?_unit {n : Nat} (hn : n < 16 ^ 4) (rest : List Char) :
    unescape? ('\\' :: 'u' :: (Text.hexPadded 4 n ++ rest)) =
      (unescape? rest).map (.unit n :: ·) := by
  have hvalue := Text.hexDigitsValue?_hexPadded 4 n
  rw [Nat.mod_eq_of_lt hn] at hvalue
  obtain ⟨a, b, c, d, hdigits⟩ : ∃ a b c d, Text.hexPadded 4 n = [a, b, c, d] := ⟨_, _, _, _, rfl⟩
  rw [hdigits] at hvalue ⊢
  show (do
    let n ← Text.hexDigitsValue? [a, b, c, d]
    return Piece.unit n :: (← unescape? rest)) = _
  rw [hvalue]
  cases unescape? rest <;> rfl

theorem unescape?_plain {c : Char} (hc : 32 ≤ c.toNat) (hslash : c ≠ '\\') (rest : List Char) :
    unescape? (c :: rest) = (unescape? rest).map (.char c :: ·) := by
  rw [unescape?.eq_def]
  split
  · next h => cases h
  · next h =>
    cases h
    exact absurd rfl hslash
  · next h =>
    cases h
    exact absurd rfl hslash
  · next h =>
    cases h
    exact absurd rfl hslash
  · next h =>
    cases h
    exact if_neg (Nat.not_lt.2 hc)

theorem joinUnits?_unit {n : Nat} (hn : n < 0xD800) (ps : List Piece) :
    joinUnits? (.unit n :: ps) = (joinUnits? ps).map (Char.ofNat n :: ·) := by
  rw [joinUnits?.eq_def]
  split
  · next h => cases h
  · next h => cases h
  · next h =>
    cases h
    rw [if_neg (by omega), if_neg (by omega)]
  · next h =>
    cases h
    rw [if_neg (by omega)]

/-- What is written for a character is cut into one piece that is the character. -/
theorem exists_piece_escapeChar (c : Char) : ∃ p,
    (∀ rest, unescape? (escapeChar c ++ rest) = (unescape? rest).map (p :: ·)) ∧
    ∀ ps, joinUnits? (p :: ps) = (joinUnits? ps).map (c :: ·) := by
  rcases escapeChar_cases c with ⟨e, h, he, hc⟩ | ⟨hc, h⟩ | ⟨hc, -, hslash, h⟩
  · exact ⟨.char c, fun rest => h ▸ unescape?_short he hc rest, fun _ => rfl⟩
  · refine ⟨.unit c.toNat, fun rest => h ▸ unescape?_unit (by omega) rest, fun ps => ?_⟩
    rw [joinUnits?_unit (by omega), Char.ofNat_toNat]
  · exact ⟨.char c, fun rest => h ▸ unescape?_plain hc hslash rest, fun _ => rfl⟩

/-- What is written for a text is read as the text. -/
theorem exists_pieces_escape (cs : List Char) :
    ∃ ps, unescape? (escape cs) = some ps ∧ joinUnits? ps = some cs := by
  induction cs with
  | nil => exact ⟨[], rfl, rfl⟩
  | cons c cs ih =>
    obtain ⟨ps, hps, hcs⟩ := ih
    obtain ⟨p, hp, hc⟩ := exists_piece_escapeChar c
    refine ⟨p :: ps, ?_, ?_⟩
    · rw [escape, List.flatMap_cons, hp, ← escape, hps, Option.map_some]
    · rw [hc, hcs, Option.map_some]

end FeatureFlags.Json.Quoted
