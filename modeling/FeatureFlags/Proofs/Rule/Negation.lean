import FeatureFlags.Proofs.Rule.Comparison

/-!
# Operators and their negations

Three pairs of operators put one question to an attribute and its operand (`Question`), and one of
the pair is passed if the answer is yes, the other if it is no.

* `answer?_eq_none_iff`: when there is an answer.
* `evaluate_operator` and `evaluate_negation`: how the two operators go by it.

`negation_complements` is the main result.
-/

namespace FeatureFlags

open Json Operator

variable {actual : Option Json} {operand v w : Json}

/-! ## Questions -/

/-- What two operators ask of an attribute and its operand, one for a yes and one for a no. -/
inductive Question where
  | equality
  | containment
  | membership

namespace Question

/-- The operator that is passed if the answer is yes. -/
def operator : Question → Operator
  | equality => .equals
  | containment => .contains
  | membership => .isIn

/-- The operator that is passed if the answer is no. -/
def negation : Question → Operator
  | equality => .notEquals
  | containment => .notContains
  | membership => .notIn

/-- The answer for an attribute that is there; none if the sides cannot be compared. -/
def answer? : Question → Json → Json → Option Bool
  | equality => Json.equal?
  | containment => Json.contains?
  | membership => Json.memberOf?

/-- Whether the sides can be compared: two scalars or two values that are none are equal or not,
an array contains anything or not and otherwise a scalar a scalar, and a scalar is a member of what
spells a list or not. -/
def Comparable : Question → Json → Json → Prop
  | equality, v, w => v.IsScalar ↔ w.IsScalar
  | containment, v, w => (∃ items, v = .array items) ∨ v.IsScalar ∧ w.IsScalar
  | membership, v, w => v.IsScalar ∧ w ≠ .null ∧ ∀ fields, w ≠ .object fields

end Question

/-! ## Answers -/

theorem contains?_eq_none_iff :
    v.contains? w = none ↔ ¬((∃ items, v = .array items) ∨ v.IsScalar ∧ w.IsScalar) := by
  by_cases harray : ∃ items, v = .array items
  · obtain ⟨items, rfl⟩ := harray
    simp [Json.contains?]
  · have htexts : v.contains? w = do
        let text ← v.scalarText?
        let part ← w.scalarText?
        return Text.occursIn part.toList text.toList := by
      cases v with
      | array items => exact absurd ⟨items, rfl⟩ harray
      | _ => rfl
    rw [htexts, ← exists_scalarText?_iff, ← exists_scalarText?_iff]
    cases v.scalarText? <;> cases w.scalarText? <;> simp [harray]

theorem listed?_eq_none_iff : v.listed? = none ↔ v = .null ∨ ∃ fields, v = .object fields := by
  cases v <;> simp [Json.listed?]

theorem memberOf?_eq_none_iff :
    v.memberOf? w = none ↔ ¬(v.IsScalar ∧ w ≠ .null ∧ ∀ fields, w ≠ .object fields) := by
  have hlisted : (w ≠ .null ∧ ∀ fields, w ≠ .object fields) ↔ ¬w.listed? = none := by
    rw [listed?_eq_none_iff, not_or, not_exists]
  rw [Json.memberOf?, hlisted, ← exists_scalarText?_iff]
  cases v.scalarText? <;> cases w.listed? <;> simp

/-- There is an answer if the sides can be compared. -/
theorem answer?_eq_none_iff (q : Question) : q.answer? v w = none ↔ ¬q.Comparable v w := by
  cases q with
  | equality => exact equal?_eq_none_iff
  | containment => exact contains?_eq_none_iff
  | membership => exact memberOf?_eq_none_iff

/-! ## Operators -/

/-- The operator is passed if the answer is yes. -/
theorem evaluate_operator (q : Question) : q.operator.evaluate actual operand =
    ((present? actual).bind (q.answer? · operand) == some true) := by
  cases q <;> cases hactual : present? actual <;>
    simp only [Question.operator, Operator.evaluate, hactual] <;> rfl

/-- The negation is passed if the answer is no. -/
theorem evaluate_negation (q : Question) : q.negation.evaluate actual operand =
    ((present? actual).bind (q.answer? · operand) == some false) := by
  cases q <;> cases hactual : present? actual <;>
    simp only [Question.negation, Operator.evaluate, hactual] <;> rfl

theorem present?_eq_none_iff : present? actual = none ↔ actual = none ∨ actual = some .null := by
  cases actual with
  | none => simp [present?]
  | some v => cases v <;> simp [present?, Option.filter, Json.isNull]

theorem present?_of_ne_null (h : v ≠ .null) : present? (some v) = some v := by
  cases v with
  | null => exact absurd rfl h
  | _ => rfl

theorem evaluate_operator_of_ne_null (q : Question) (h : v ≠ .null) :
    q.operator.evaluate (some v) operand = (q.answer? v operand == some true) := by
  rw [evaluate_operator, present?_of_ne_null h, Option.bind_some]

theorem evaluate_negation_of_ne_null (q : Question) (h : v ≠ .null) :
    q.negation.evaluate (some v) operand = (q.answer? v operand == some false) := by
  rw [evaluate_negation, present?_of_ne_null h, Option.bind_some]

/-! ## Main result -/

/-- An operator and its negation are never both passed.  Neither is passed if the attribute is
absent or null or the sides cannot be compared, and only then, so that otherwise the one is passed
if the other is not. -/
theorem negation_complements (q : Question) (actual : Option Json) (operand : Json) :
    ¬(q.operator.evaluate actual operand = true ∧ q.negation.evaluate actual operand = true) ∧
    ((q.operator.evaluate actual operand = false ∧ q.negation.evaluate actual operand = false) ↔
      actual = none ∨ actual = some .null ∨ ∃ v, actual = some v ∧ ¬q.Comparable v operand) ∧
    ∀ v, actual = some v → v ≠ .null → q.Comparable v operand →
      q.negation.evaluate actual operand = !q.operator.evaluate actual operand := by
  rw [evaluate_operator, evaluate_negation]
  refine ⟨?never, ?neither, ?complement⟩
  case never =>
    rw [beq_iff_eq, beq_iff_eq]
    rintro ⟨hyes, hno⟩
    cases hyes.symm.trans hno
  case neither =>
    have hnone : ∀ answer : Option Bool,
        (answer == some true) = false ∧ (answer == some false) = false ↔ answer = none := by
      intro answer
      cases answer with
      | none => simp
      | some b => cases b <;> simp
    rw [hnone, ← or_assoc, ← present?_eq_none_iff]
    by_cases hpresent : present? actual = none
    · simp [hpresent]
    · obtain ⟨v, hv⟩ := Option.ne_none_iff_exists'.1 hpresent
      have hactual : actual = some v := (Option.filter_eq_some_iff.1 hv).1
      rw [or_iff_right hpresent, hv, Option.bind_some, answer?_eq_none_iff]
      constructor
      · exact fun hnot => ⟨v, hactual, hnot⟩
      · rintro ⟨w, hw, hnot⟩
        cases hactual.symm.trans hw
        exact hnot
  case complement =>
    rintro v rfl hv hcomparable
    have hanswer : q.answer? v operand ≠ none := fun h =>
      (answer?_eq_none_iff q).1 h hcomparable
    obtain ⟨answer, hanswer⟩ := Option.ne_none_iff_exists'.1 hanswer
    rw [present?_of_ne_null hv, Option.bind_some, hanswer]
    cases answer <;> rfl

/-- Five is in the list, so it is not outside it; nothing is said of a list in the list. -/
theorem negation_complements_listed :
    Operator.isIn.evaluate (some (.number (.integer 5))) (.string "4, 5.0") = true ∧
    Operator.notIn.evaluate (some (.number (.integer 5))) (.string "4, 5.0") = false ∧
    Operator.isIn.evaluate (some (.array [])) (.string "4, 5.0") = false ∧
    Operator.notIn.evaluate (some (.array [])) (.string "4, 5.0") = false := by
  have hin : Operator.isIn.evaluate (some (.number (.integer 5))) (.string "4, 5.0") = true := by
    decide +kernel
  obtain ⟨_, _, hnumber⟩ :=
    negation_complements .membership (some (.number (.integer 5))) (.string "4, 5.0")
  obtain ⟨_, harray, _⟩ := negation_complements .membership (some (.array [])) (.string "4, 5.0")
  have hnot := hnumber _ rfl nofun ⟨.number _, nofun, nofun⟩
  exact ⟨hin, hnot.trans (congrArg not hin), harray.2 (.inr (.inr ⟨_, rfl, fun h => nomatch h.1⟩))⟩

end FeatureFlags
