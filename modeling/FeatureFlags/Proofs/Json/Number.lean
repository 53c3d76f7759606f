import FeatureFlags.Json.Wire
import FeatureFlags.Proofs.Binary64.Nearest
import FeatureFlags.Proofs.Binary64.Shortest
import FeatureFlags.Proofs.Json.Reader
import FeatureFlags.Proofs.Json.Value

/-!
# Numbers as doubles

* `Number.IsBounded`: the number is a whole number of 64 bits or a double.  A value that a text
  spells has no other numbers (`isBounded_of_parse?`).
* `Number.isRounded_toFinite`: a whole number of 64 bits is rounded to the nearest double.
* `Number.read?_text`: the text of such a number is read as the double that it is rounded to.
* `Number.not_isBlank_of_mem_text`: there are no blanks in it.
-/

namespace FeatureFlags.Json

open Text Numeral

variable {ds : List Char} {c : Char}

/-! ## The characters of a text -/

theorem isNumeric_of_mem_positional {whole : Int} (hds : ∀ d ∈ ds, d.isDigit = true)
    (hc : c ∈ Finite64.positional ds whole) : isNumeric c = true := by
  have hzero : ∀ n, c ∈ List.replicate n '0' → isNumeric c = true := fun _ h =>
    isNumeric_of_isDigit (isDigit_of_mem_zeros h)
  have hdigit : c ∈ ds → isNumeric c = true := fun h => isNumeric_of_isDigit (hds c h)
  unfold Finite64.positional at hc
  split at hc
  · rw [List.append_assoc, List.mem_append, List.mem_append] at hc
    rcases hc with hc | hc | hc
    · rcases hc with _ | ⟨_, _ | ⟨_, _ | _⟩⟩ <;> rfl
    · exact hzero _ hc
    · exact hdigit hc
  · extract_lets n before after at hc
    rcases List.mem_append.1 hc with hc | hc
    · rcases List.mem_append.1 hc with hc | hc
      · exact hdigit (List.mem_of_mem_take hc)
      · exact hzero _ hc
    · rcases List.mem_cons.1 hc with rfl | hc
      · rfl
      · split at hc
        · exact hzero 1 hc
        · exact hdigit (List.mem_of_mem_drop hc)

theorem isNumeric_of_mem_scientific {exponent : Int} (hds : ∀ d ∈ ds, d.isDigit = true)
    (hc : c ∈ Finite64.scientific ds exponent) : isNumeric c = true := by
  unfold Finite64.scientific at hc
  extract_lets mantissa at hc
  rcases List.mem_append.1 hc with hc | hc
  · -- One digit, or one digit and the others behind the point.
    have hmantissa : c = '.' ∨ c ∈ ds := by
      cases ds with
      | nil => exact absurd hc List.not_mem_nil
      | cons d rest =>
        dsimp only [mantissa] at hc
        split at hc
        · exact .inr (List.mem_singleton.1 hc ▸ List.mem_cons_self)
        · rw [List.mem_cons, List.mem_cons] at hc
          rw [List.mem_cons]
          exact or_left_comm.1 hc
    rcases hmantissa with rfl | hc
    · rfl
    · exact isNumeric_of_isDigit (hds c hc)
  · rcases List.mem_cons.1 hc with rfl | hc
    · rfl
    · rcases List.mem_cons.1 hc with rfl | hc
      · split <;> rfl
      · exact isNumeric_of_isDigit (isDigit_of_mem_repr hc)

theorem isNumeric_of_mem_chars {x : Finite64} (hc : c ∈ x.chars) : isNumeric c = true := by
  have hds : ∀ d ∈ x.shortest.coefficient.repr.toList, d.isDigit = true := fun _ =>
    isDigit_of_mem_repr
  have hsign : c ∈ (if x.negative then ['-'] else []) → isNumeric c = true := by
    intro h
    split at h
    · rw [List.mem_singleton.1 h]
      rfl
    · exact absurd h List.not_mem_nil
  unfold Finite64.chars at hc
  extract_lets sign d ds leading at hc
  split at hc
  · rcases List.mem_append.1 hc with hc | hc
    · exact hsign hc
    · rcases hc with _ | ⟨_, _ | ⟨_, _ | ⟨_, _ | _⟩⟩⟩ <;> rfl
  · rcases List.mem_append.1 hc with hc | hc
    · exact hsign hc
    · split at hc
      · exact isNumeric_of_mem_positional hds hc
      · exact isNumeric_of_mem_scientific hds hc

theorem isNumeric_of_mem_toString {n : Int} (hc : c ∈ (toString n).toList) :
    isNumeric c = true := by
  rw [Binary64.toList_toString] at hc
  rcases List.mem_append.1 hc with hc | hc
  · split at hc
    · rw [List.mem_singleton.1 hc]
      rfl
    · exact absurd hc List.not_mem_nil
  · exact isNumeric_of_isDigit (isDigit_of_mem_repr hc)

theorem not_isBlank_of_isNumeric (h : isNumeric c = true) : isBlank c = false := by
  by_cases hdigit : c.isDigit = true
  · exact isBlank_of_isDigit hdigit
  · rw [isNumeric, Bool.eq_false_of_not_eq_true hdigit] at h
    simp only [Bool.false_or, Bool.or_eq_true, decide_eq_true_iff] at h
    rcases h with (((rfl | rfl) | rfl) | rfl) | rfl <;> decide

namespace Number

variable {n : Number}

theorem not_isBlank_of_mem_text (hc : c ∈ n.text.toList) : isBlank c = false := by
  refine not_isBlank_of_isNumeric ?_
  cases n with
  | integer n => exact isNumeric_of_mem_toString hc
  | float x =>
    rw [text, Finite64.text, String.toList_ofList] at hc
    exact isNumeric_of_mem_chars hc

/-! ## Numbers of 64 bits -/

/-- The number is a whole number of 64 bits, signed or unsigned, or a double. -/
def IsBounded : Number → Prop
  | .integer n => fitsInteger n = true
  | .float _ => True

instance : DecidablePred IsBounded
  | .integer n => inferInstanceAs (Decidable (fitsInteger n = true))
  | .float _ => .isTrue trivial

/-- A whole number of 64 bits is rounded to a finite double. -/
theorem ofInt_eq_toFinite {n : Int} (h : fitsInteger n = true) :
    Binary64.ofInt n = .finite (Number.integer n).toFinite := by
  have hsmall : n.natAbs ≤ 2 ^ 64 := by
    rw [fitsInteger, decide_eq_true_iff] at h
    omega
  have hrank : Magnitude.ofRatio n.natAbs 1 < Magnitude.count := Magnitude.ofRatio_lt_count hsmall
  rw [toFinite, Binary64.ofInt, Binary64.ofRank, Finite64.ofRank?, dif_pos hrank]
  rfl

theorem toFinite_integer {n : Int} (h : fitsInteger n = true) : ∃ hrank,
    (integer n).toFinite = ⟨decide (n < 0), Magnitude.ofRatio n.natAbs 1, hrank⟩ := by
  have hfinite := ofInt_eq_toFinite h
  rw [Binary64.ofInt, Binary64.ofRank, Finite64.ofRank?] at hfinite
  by_cases hrank : Magnitude.ofRatio n.natAbs 1 < Magnitude.count
  · rw [dif_pos hrank] at hfinite
    exact ⟨hrank, (Binary64.finite.inj hfinite).symm⟩
  · rw [dif_neg hrank] at hfinite
    cases hfinite

theorem isRounded_toFinite {n : Int} (h : fitsInteger n = true) :
    Finite64.IsRounded n (integer n).toFinite := by
  obtain ⟨hrank, hfinite⟩ := toFinite_integer h
  rw [hfinite]
  exact Finite64.isRounded_of_rank rfl rfl

/-- The text of a number is read as the double that the number is rounded to. -/
theorem read?_text (h : n.IsBounded) :
    Binary64.read? n.text.toList = some (.finite n.toFinite) := by
  cases n with
  | integer n => exact (Binary64.read?_toString n).trans (congrArg some (ofInt_eq_toFinite h))
  | float x =>
    rw [text, Finite64.text, String.toList_ofList]
    exact x.read?_chars

end Number

/-- Where the value is a number, it is one of 64 bits or a double. -/
def IsBounded (v : Json) : Prop := ∀ n, v = .number n → n.IsBounded

/-- A value that a text spells is bounded. -/
theorem isBounded_of_parse? {text : String} {v : Json} (h : Wire.parse? text = some v) :
    v.IsBounded := by
  rintro n rfl
  obtain ⟨d, hd, hv⟩ := Option.bind_eq_some_iff.1 h
  have hwithin := within_toDocument (Reader.within_of_parse? hd) hv
  cases hwithin with
  | integer hn => exact hn
  | float => trivial

end FeatureFlags.Json
