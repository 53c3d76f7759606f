import FeatureFlags.Proofs.Rule.Negation
import FeatureFlags.Proofs.Text.Split

/-!
# Membership

A scalar is a member of what is equal to it somewhere, whichever operator asks for that, and however
the list is spelt.

* `memberOf?_eq`: membership goes by the list that the operand spells.
* `contains?_array_eq_memberOf?`: an array contains its members, since the sides of a comparison
  may be swapped.
* `commaItems_eq`: a text with commas spells the items that stand between them (`SpellsItems`),
  whatever blanks are around them.

`membership_of_equality` is the main result.
-/

namespace FeatureFlags

open Operator

namespace Json

variable {v w : Json} {s : String} {items : List String} {pieces : List (List Char)}

/-! ## Members of a list -/

theorem equals_comm (v w : Json) : v.equals w = w.equals v := by
  rw [equals, equals, equal?_comm]

theorem IsScalar.ne_null (hv : v.IsScalar) : v ≠ .null := by
  rintro rfl
  cases hv

/-- Membership goes by the list that the operand spells. -/
theorem memberOf?_eq (hv : v.IsScalar) (w : Json) :
    v.memberOf? w = w.listed?.map (·.any v.equals) := by
  obtain ⟨s, hs⟩ := exists_scalarText?_iff.2 hv
  rw [memberOf?, hs]
  cases w.listed? <;> rfl

/-- An array contains what is a member of it. -/
theorem contains?_array_eq_memberOf? (hv : v.IsScalar) (ws : List Json) :
    (Json.array ws).contains? v = v.memberOf? (.array ws) := by
  have hswap : (·.equals v) = v.equals := funext fun w => w.equals_comm v
  rw [memberOf?_eq hv]
  show some (ws.any (·.equals v)) = some (ws.any v.equals)
  rw [hswap]

/-! ## Lists with commas -/

/-- The text can be an item of a list with commas. -/
structure IsItem (s : String) : Prop where
  ne_nil : s.toList ≠ []
  no_comma : ',' ∉ s.toList
  trimmed : Text.IsTrimmed s.toList

/-- What stands between the commas spells the items: each of them with blanks around it or without,
and anywhere pieces that are blank. -/
inductive SpellsItems : List String → List (List Char) → Prop where
  | nil : SpellsItems [] []
  | item {items : List String} {pieces : List (List Char)} (before after : List Char) (s : String)
      (hbefore : Text.AreBlank before) (hafter : Text.AreBlank after)
      (h : SpellsItems items pieces) :
      SpellsItems (s :: items) ((before ++ s.toList ++ after) :: pieces)
  | blank {items : List String} {pieces : List (List Char)} (piece : List Char)
      (hpiece : Text.AreBlank piece) (h : SpellsItems items pieces) :
      SpellsItems items (piece :: pieces)

/-- The text that is put together from pieces with commas between them. -/
def joined (pieces : List (List Char)) : String := .ofList ([','].intercalate pieces)

theorem no_comma_of_areBlank {cs : List Char} (h : Text.AreBlank cs) : ',' ∉ cs := by
  intro hcomma
  have hblank : Text.isBlank ',' = true := h ',' hcomma
  exact absurd hblank (by decide)

theorem SpellsItems.no_comma (h : SpellsItems items pieces) (hitems : ∀ s ∈ items, IsItem s) :
    ∀ piece ∈ pieces, ',' ∉ piece := by
  induction h with
  | nil => exact List.forall_mem_nil _
  | item before after s hbefore hafter _ ih =>
    obtain ⟨hs, hitems⟩ := List.forall_mem_cons.1 hitems
    refine List.forall_mem_cons.2 ⟨?_, ih hitems⟩
    rw [List.mem_append, List.mem_append, not_or, not_or]
    exact ⟨⟨no_comma_of_areBlank hbefore, hs.no_comma⟩, no_comma_of_areBlank hafter⟩
  | blank piece hpiece _ ih =>
    exact List.forall_mem_cons.2 ⟨no_comma_of_areBlank hpiece, ih hitems⟩

/-- The items are what is left of the pieces without blanks. -/
theorem SpellsItems.filter_trim (h : SpellsItems items pieces) (hitems : ∀ s ∈ items, IsItem s) :
    (pieces.map Text.trim).filter (!·.isEmpty) = items.map String.toList := by
  induction h with
  | nil => rfl
  | item before after s hbefore hafter _ ih =>
    obtain ⟨hs, hitems⟩ := List.forall_mem_cons.1 hitems
    have hnonempty : (!s.toList.isEmpty) = true := by
      rw [List.isEmpty_eq_false_iff.2 hs.ne_nil]
      rfl
    rw [List.map_cons, Text.trim_append hbefore hafter hs.trimmed hs.ne_nil,
      List.filter_cons, if_pos hnonempty, ih hitems, List.map_cons]
  | blank piece hpiece _ ih =>
    rw [List.map_cons, Text.trim_of_areBlank hpiece, List.filter_cons_of_neg (by decide), ih hitems]

/-- A text with commas spells the items between them. -/
theorem commaItems_eq (h : SpellsItems items pieces) (hitems : ∀ s ∈ items, IsItem s) :
    commaItems (joined pieces) = items.map .string := by
  have hpieces : ((Text.splitAll ',' (joined pieces).toList).map Text.trim).filter (!·.isEmpty) =
      items.map String.toList := by
    rw [joined, String.toList_ofList]
    by_cases hne : pieces = []
    · -- No piece at all is the empty text, which is cut into one blank piece.
      subst hne
      cases h
      rfl
    · rw [Text.splitAll_intercalate hne (h.no_comma hitems), h.filter_trim hitems]
  rw [commaItems, hpieces, List.map_map]
  exact List.map_congr_left fun s _ => congrArg Json.string String.ofList_toList

/-! ## Main result -/

/-- Membership is told by equality.  A scalar is in an array if it is equal to an element of it, and
the array contains it exactly then; a number or a boolean that stands in the place of a list is a
list of one.  A text with commas is the list that it spells. -/
theorem membership_of_equality {x : Json} (hx : x.IsScalar) :
    (∀ elements, isIn.evaluate (some x) (.array elements) = true ↔
      ∃ a ∈ elements, Operator.equals.evaluate (some x) a = true) ∧
    (∀ elements,
      contains.evaluate (some (.array elements)) x = isIn.evaluate (some x) (.array elements) ∧
      notContains.evaluate (some (.array elements)) x =
        notIn.evaluate (some x) (.array elements)) ∧
    (∀ n, isIn.evaluate (some x) (.number n) = Operator.equals.evaluate (some x) (.number n)) ∧
    (∀ b, isIn.evaluate (some x) (.bool b) = Operator.equals.evaluate (some x) (.bool b)) ∧
    ∀ items pieces, (∀ s ∈ items, IsItem s) → SpellsItems items pieces →
      isIn.evaluate (some x) (.string (joined pieces)) =
        isIn.evaluate (some x) (.array (items.map .string)) ∧
      notIn.evaluate (some x) (.string (joined pieces)) =
        notIn.evaluate (some x) (.array (items.map .string)) := by
  have hequals : ∀ a, Operator.equals.evaluate (some x) a = x.equals a := fun _ =>
    evaluate_equals hx.ne_null
  have hin : ∀ operand, isIn.evaluate (some x) operand = (x.memberOf? operand == some true) :=
    fun _ => evaluate_operator_of_ne_null .membership hx.ne_null
  have hnotIn : ∀ operand, notIn.evaluate (some x) operand = (x.memberOf? operand == some false) :=
    fun _ => evaluate_negation_of_ne_null .membership hx.ne_null
  refine ⟨?array, ?contained, ?number, ?boolean, ?commas⟩
  case array =>
    intro elements
    rw [hin, memberOf?_eq hx]
    simp [listed?, hequals]
  case contained =>
    intro elements
    rw [hin, hnotIn, ← contains?_array_eq_memberOf? hx]
    exact ⟨evaluate_operator .containment, evaluate_negation .containment⟩
  case number =>
    intro n
    rw [hin, hequals, memberOf?_eq hx]
    simp [listed?]
  case boolean =>
    intro b
    rw [hin, hequals, memberOf?_eq hx]
    simp [listed?]
  case commas =>
    intro items pieces hitems hspells
    have hlisted : (Json.string (joined pieces)).listed? =
        (Json.array (items.map .string)).listed? :=
      congrArg some (commaItems_eq hspells hitems)
    rw [hin, hin, hnotIn, hnotIn, memberOf?_eq hx, memberOf?_eq hx, hlisted]
    exact ⟨rfl, rfl⟩

/-- Five is in the text with commas, and in the array that it spells. -/
theorem membership_of_equality_padded :
    isIn.evaluate (some (.number (.integer 5))) (.string " 4\t,, 5.0 ") = true ∧
    contains.evaluate (some (.array [.string "4", .string "5.0"])) (.number (.integer 5)) = true ∧
    isIn.evaluate (some (.number (.integer 5))) (.bool true) = false := by
  have hitems : ∀ s ∈ ["4", "5.0"], IsItem s := by
    intro s hs
    rcases hs with _ | ⟨_, _ | ⟨_, _ | _⟩⟩
    · exact ⟨by decide, by decide, by decide⟩
    · exact ⟨by decide, by decide, by decide⟩
  have hspells : SpellsItems ["4", "5.0"] [[' ', '4', '\t'], [], [' ', '5', '.', '0', ' ']] :=
    .item [' '] ['\t'] "4" (by decide) (by decide)
      (.blank [] (by decide) (.item [' '] [' '] "5.0" (by decide) (by decide) .nil))
  obtain ⟨harray, hcontained, _, hboolean, hcommas⟩ :=
    membership_of_equality (.number (.integer 5))
  have hlisted := (harray [.string "4", .string "5.0"]).2
    ⟨.string "5.0", by simp, by decide +kernel⟩
  exact ⟨(hcommas _ _ hitems hspells).1.trans hlisted, (hcontained _).1.trans hlisted,
    (hboolean true).trans (by decide +kernel)⟩

end Json

end FeatureFlags
