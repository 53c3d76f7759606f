import FeatureFlags.Json.Wire
import FeatureFlags.Pattern.Basic
import FeatureFlags.Rule.Comparison

/-!
# Operators

The tests that a condition may put to an attribute.  An attribute that is null counts
as absent, and an absent attribute passes no test but `notExists`.  Where the two sides
do not fit the test, it fails.
-/

namespace FeatureFlags

/-- A test of an attribute against an operand. -/
inductive Operator where
  | equals
  | notEquals
  | contains
  | notContains
  | startsWith
  | endsWith
  | greaterThan
  | lessThan
  | atLeast
  | atMost
  | isIn
  | notIn
  | isMatch
  | exists_
  | notExists
  /-- Any other operator. It is never passed. -/
  | unknown
deriving DecidableEq, Inhabited, Repr

namespace Operator

/-- The name of an operator. -/
def name : Operator → String
  | equals => "equals"
  | notEquals => "not_equals"
  | contains => "contains"
  | notContains => "not_contains"
  | startsWith => "starts_with"
  | endsWith => "ends_with"
  | greaterThan => "greater_than"
  | lessThan => "less_than"
  | atLeast => "gte"
  | atMost => "lte"
  | isIn => "in"
  | notIn => "not_in"
  | isMatch => "matches"
  | exists_ => "exists"
  | notExists => "not_exists"
  | unknown => "unknown"

/-- All operators. -/
def all : List Operator :=
  [equals, notEquals, contains, notContains, startsWith, endsWith, greaterThan, lessThan, atLeast,
    atMost, isIn, notIn, isMatch, exists_, notExists, unknown]

/-- The operator with the given name; any other name is that of the unknown operator. -/
def ofName (name : String) : Operator := (all.find? (·.name = name)).getD unknown

instance : Wire Operator where
  encode op := .string op.name
  decode? d := d.choice?.map ofName

/-- The pattern that an operand spells. -/
def patternOf? (operand : Json) : Option Pattern := operand.string? >>= Pattern.compile?

/-- Whether the text of a scalar has a match of a pattern in it. -/
def isMatched (pattern : Option Pattern) (actual : Json) : Bool :=
  match actual.scalarText?, pattern with
  | some text, some p => p.isMatch text
  | _, _ => false

/-- Whether an attribute that is there passes the test. -/
def compare (op : Operator) (actual operand : Json) : Bool :=
  match op with
  | equals => actual.equal? operand == some true
  | notEquals => actual.equal? operand == some false
  | contains => actual.contains? operand == some true
  | notContains => actual.contains? operand == some false
  | startsWith => actual.testTexts (fun s t => t.toList.isPrefixOf s.toList) operand
  | endsWith => actual.testTexts (fun s t => t.toList.isSuffixOf s.toList) operand
  | greaterThan => actual.testNumbers (fun x y => y.lt x) operand
  | lessThan => actual.testNumbers Finite64.lt operand
  | atLeast => actual.testNumbers (fun x y => y.le x) operand
  | atMost => actual.testNumbers Finite64.le operand
  | isIn => actual.memberOf? operand == some true
  | notIn => actual.memberOf? operand == some false
  | isMatch => isMatched (patternOf? operand) actual
  | exists_ | notExists | unknown => false

/-- The attribute, unless it is null. -/
def present? (actual : Option Json) : Option Json := actual.filter (!·.isNull)

/-- Whether an attribute passes the test. -/
def evaluate (op : Operator) (actual : Option Json) (operand : Json) : Bool :=
  match op with
  | exists_ => (present? actual).isSome
  | notExists => (present? actual).isNone
  | unknown => false
  | op =>
    match present? actual with
    | some actual => op.compare actual operand
    | none => false

end Operator

end FeatureFlags
