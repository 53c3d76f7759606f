import FeatureFlags.Text.Split

/-!
# Pieces of a text

* `intercalate_splitAll` and `splitAll_intercalate`: cutting a text into pieces and putting pieces
  together undo each other.
* `trim_append`: blanks around a text are trimmed, up to where it starts and ends with other
  characters (`IsTrimmed`).
-/

namespace FeatureFlags.Text

variable {sep : Char} {cs before after : List Char} {pieces : List (List Char)}

/-! ## Cutting -/

theorem splitAll_eq_splitOn (sep : Char) (cs : List Char) : splitAll sep cs = cs.splitOn sep := by
  induction cs with
  | nil => rfl
  | cons c cs ih =>
    rw [List.splitOn, List.splitOnP_cons_eq_if_modifyHead, ← List.splitOn, ← ih, splitAll]
    by_cases hc : c = sep
    · rw [if_pos hc, if_pos (beq_iff_eq.2 hc)]
    · rw [if_neg hc, if_neg fun h => hc (beq_iff_eq.1 h)]
      cases hpieces : splitAll sep cs with
      | nil => exact absurd (ih.symm.trans hpieces) (List.splitOn_ne_nil sep cs)
      | cons piece pieces => rfl

theorem splitAll_ne_nil (sep : Char) (cs : List Char) : splitAll sep cs ≠ [] := by
  rw [splitAll_eq_splitOn]
  exact List.splitOn_ne_nil sep cs

/-- The pieces of a text are put together to the text again. -/
theorem intercalate_splitAll (sep : Char) (cs : List Char) :
    [sep].intercalate (splitAll sep cs) = cs := by
  rw [splitAll_eq_splitOn, List.intercalate_splitOn]

/-- What was put together from pieces without separators is cut into them. -/
theorem splitAll_intercalate (hne : pieces ≠ []) (h : ∀ piece ∈ pieces, sep ∉ piece) :
    splitAll sep ([sep].intercalate pieces) = pieces := by
  rw [splitAll_eq_splitOn, List.splitOn_intercalate sep h hne]

/-! ## Trimming -/

/-- All characters are blank. -/
def AreBlank (cs : List Char) : Prop := ∀ c ∈ cs, isBlank c = true

instance : DecidablePred AreBlank := fun _ => decidable_of_iff _ List.all_eq_true

/-- The first and the last character, if there are any, are not blank. -/
structure IsTrimmed (cs : List Char) : Prop where
  head : ∀ c ∈ cs.head?, isBlank c = false
  last : ∀ c ∈ cs.getLast?, isBlank c = false

instance : DecidablePred IsTrimmed := fun cs =>
  decidable_of_iff (cs.head?.all (!isBlank ·) = true ∧ cs.getLast?.all (!isBlank ·) = true) <| by
    simp only [Option.all_eq_true, Bool.not_eq_true']
    exact ⟨fun h => ⟨h.1, h.2⟩, fun h => ⟨h.head, h.last⟩⟩

theorem trimStart_append (h : AreBlank before) : trimStart (before ++ cs) = trimStart cs :=
  List.dropWhile_append_of_pos h

theorem trimStart_of_head (h : ∀ c ∈ cs.head?, isBlank c = false) : trimStart cs = cs := by
  cases cs with
  | nil => rfl
  | cons c cs => exact List.dropWhile_cons_of_neg (by simp [h c rfl])

theorem trimEnd_eq (cs : List Char) : trimEnd cs = (trimStart cs.reverse).reverse := rfl

theorem trim_of_areBlank (h : AreBlank cs) : trim cs = [] := by
  have hstart : trimStart cs = [] := by
    rw [← List.append_nil cs, trimStart_append h]
    rfl
  rw [trim, hstart]
  rfl

/-- Blanks on both sides are trimmed. -/
theorem trim_append (hbefore : AreBlank before) (hafter : AreBlank after) (h : IsTrimmed cs)
    (hne : cs ≠ []) : trim (before ++ cs ++ after) = cs := by
  have hstart : trimStart (cs ++ after) = cs ++ after := by
    refine trimStart_of_head fun c hc => h.head c ?_
    cases cs with
    | nil => exact absurd rfl hne
    | cons d cs => exact hc
  have hreverse : AreBlank after.reverse := fun c hc => hafter c (List.mem_reverse.1 hc)
  have hend : trimStart cs.reverse = cs.reverse := by
    refine trimStart_of_head fun c hc => h.last c ?_
    rwa [List.head?_reverse] at hc
  rw [trim, List.append_assoc, trimStart_append hbefore, hstart, trimEnd_eq, List.reverse_append,
    trimStart_append hreverse, hend, List.reverse_reverse]

end FeatureFlags.Text
