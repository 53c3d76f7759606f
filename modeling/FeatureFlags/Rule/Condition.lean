import FeatureFlags.Rule.Operator

/-!
# Conditions

A condition names an attribute, an operator and an operand.  `Condition.Live` is a
condition in use: it keeps the pattern of its operand once that has been compiled,
so that it is compiled once at most.  A copy starts without it.
-/

namespace FeatureFlags

/-- A test of one attribute of a context. -/
structure Condition where
  /-- The name of the attribute. -/
  attributeName : String
  operator : Operator
  value : Json
deriving Inhabited

namespace Condition

/-- Whether the value of the attribute passes the test. -/
def evaluate (c : Condition) (actual : Option Json) : Bool := c.operator.evaluate actual c.value

/-- Equality of conditions. -/
def same (a b : Condition) : Bool :=
  a.attributeName == b.attributeName && a.operator == b.operator && a.value.same b.value

instance : Wire Condition where
  encode c := .object [("attribute", encode c.attributeName), ("operator", encode c.operator),
    ("value", encode c.value)]
  decode? d := do
    let [name, operator, value] ←
      d.record? [("attribute", .required), ("operator", .required), ("value", .defaulted)] | none
    return {
      attributeName := ← Document.field? name
      operator := ← Document.field? operator
      value := ← Document.fieldOr? .null value }

/-! ## Conditions in use -/

/-- A condition with the pattern of its operand, once that has been asked for. -/
structure Live where
  condition : Condition
  /-- None before the first use; then the pattern, if the operand spells one. -/
  compiled : Option (Option Pattern) := none

namespace Live

/-- A condition that has not been used. -/
def ofCondition (condition : Condition) : Live := { condition }

/-- A copy; it has no compiled pattern. -/
def copy (c : Live) : Live := .ofCondition c.condition

/-- Replaces the attribute, the operator and the operand, and keeps the compiled pattern. -/
def edit (c : Live) (condition : Condition) : Live := { c with condition }

/-- The pattern of the operand, compiled now if it has not been before. -/
def pattern (c : Live) : Option Pattern × Live :=
  match c.compiled with
  | some p => (p, c)
  | none =>
    let p := Operator.patternOf? c.condition.value
    (p, { c with compiled := some p })

/-- Whether the value of the attribute passes the test, and the condition after that use. -/
def evaluate (c : Live) (actual : Option Json) : Bool × Live :=
  if c.condition.operator = .isMatch then
    let (p, c) := c.pattern
    ((Operator.present? actual).any (Operator.isMatched p), c)
  else (c.condition.evaluate actual, c)

/-- Evaluates a condition for the values of attributes, one after the other. -/
def evaluateEach (c : Live) : List (Option Json) → List Bool × Live
  | [] => ([], c)
  | actual :: rest =>
    let (first, c) := c.evaluate actual
    let (others, c) := c.evaluateEach rest
    (first :: others, c)

/-- Equality of the conditions; what has been compiled does not count. -/
def same (a b : Live) : Bool := a.condition.same b.condition

end Live

end Condition

end FeatureFlags
