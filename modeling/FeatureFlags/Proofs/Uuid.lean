import FeatureFlags.Proofs.Text.Digit
import FeatureFlags.Uuid

/-!
# Identifiers that are written and read

The hyphenated form of an identifier reads back as the identifier (`parse?_text`).
-/

namespace FeatureFlags.Uuid

variable {ds : List Char}

/-- The four hyphens come to the digits. -/
theorem length_hyphenate (h : ds.length = 32) : (hyphenate ds).length = 36 := by
  simp only [hyphenate, List.length_append, List.length_cons, List.length_take, List.length_drop]
  omega

/-- The groups together are all digits. -/
theorem groups_append (ds : List Char) :
    ds.take 8 ++ (ds.drop 8).take 4 ++ (ds.drop 12).take 4 ++ (ds.drop 16).take 4 ++ ds.drop 20 =
      ds := by
  have hsplit : ∀ n, (ds.drop n).take 4 ++ ds.drop (n + 4) = ds.drop n := by
    intro n
    rw [← List.drop_drop, List.take_append_drop]
  rw [List.append_assoc, hsplit 16, List.append_assoc, hsplit 12, List.append_assoc, hsplit 8,
    List.take_append_drop]

/-- The digits between the hyphens are those that were put there. -/
theorem ofHyphenated?_hyphenate (h : ds.length = 32) :
    ofHyphenated? (hyphenate ds) = ofDigits? ds := by
  have h₁ : (hyphenate ds).take 8 = ds.take 8 := by
    simp [hyphenate, h]
  have h₂ : ((hyphenate ds).drop 9).take 4 = (ds.drop 8).take 4 := by
    simp [hyphenate, List.drop_append, List.drop_take, h]
  have h₃ : ((hyphenate ds).drop 14).take 4 = (ds.drop 12).take 4 := by
    simp [hyphenate, List.drop_append, List.drop_take, h]
  have h₄ : ((hyphenate ds).drop 19).take 4 = (ds.drop 16).take 4 := by
    simp [hyphenate, List.drop_append, List.drop_take, h]
  have h₅ : (hyphenate ds).drop 24 = ds.drop 20 := by
    simp [hyphenate, List.drop_append, List.drop_take, h]
  rw [ofHyphenated?, h₁, h₂, h₃, h₄, h₅, groups_append]
  exact if_pos rfl

/-- The digits of a number of 128 bits spell it. -/
theorem ofDigits?_hexPadded (u : Uuid) : ofDigits? (Text.hexPadded 32 u.value) = some u := by
  have hmod : u.value % 16 ^ 32 = u.value := Nat.mod_eq_of_lt u.value_lt
  rw [ofDigits?, Text.length_hexPadded, Text.hexDigitsValue?_hexPadded, hmod]
  exact dif_pos u.value_lt

/-- An identifier reads back. -/
theorem parse?_text (u : Uuid) : parse? u.text = some u := by
  have hlength : (Text.hexPadded 32 u.value).length = 32 := Text.length_hexPadded 32 u.value
  rw [parse?, text, String.toList_ofList, read?, length_hyphenate hlength, if_neg (by decide),
    if_pos rfl, ofHyphenated?_hyphenate hlength, ofDigits?_hexPadded]

end FeatureFlags.Uuid
