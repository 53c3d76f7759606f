import FeatureFlags.Json.Basic
import FeatureFlags.Text.Blank
import FeatureFlags.Text.Split

/-!
# Comparing values

How a condition compares an attribute with its operand.  A scalar is a string, a
number or a boolean; it has a text (`scalarText?`), and it is numeric if it is a
number or a string that spells a finite one (`numeric?`).

* Two numeric values are equal as numbers, two scalars otherwise as texts, and
  two values that are no scalars as values; a scalar and a value that is none
  cannot be compared (`equal?`).
* Containment and membership are told by this equality, and cannot be told where
  the sides have no such meaning (`contains?`, `memberOf?`).
-/

namespace FeatureFlags.Json

/-- The text of a scalar. -/
def scalarText? : Json → Option String
  | .string s => some s
  | .number n => some n.text
  | .bool true => some "true"
  | .bool false => some "false"
  | _ => none

/-- Whether the value is a string, a number or a boolean. -/
def isScalar (v : Json) : Bool := v.scalarText?.isSome

/-- The number that a number is, or that a string spells with blanks around it. -/
def numeric? : Json → Option Finite64
  | .number n => some n.toFinite
  | .string s => Binary64.read? (Text.trim s.toList) >>= Binary64.finite?
  | _ => none

/-- Whether two values are equal; none if they cannot be compared. -/
def equal? (actual operand : Json) : Option Bool :=
  match actual.numeric?, operand.numeric? with
  | some x, some y => some (x.eq y)
  | _, _ =>
    match actual.scalarText?, operand.scalarText? with
    | some s, some t => some (s == t)
    | none, none => some (actual.same operand)
    | _, _ => none

/-- Whether two values can be compared and are equal. -/
def equals (actual operand : Json) : Bool := actual.equal? operand == some true

/-- Whether an array has an element equal to the operand, or the text of a scalar has the text
of the operand in it; none if there is no such question. -/
def contains? (actual operand : Json) : Option Bool :=
  match actual with
  | .array items => some (items.any (·.equals operand))
  | _ => do
    let text ← actual.scalarText?
    let part ← operand.scalarText?
    return Text.occursIn part.toList text.toList

/-- The items between the commas of a text, without the blanks around them; blank items do not
count. -/
def commaItems (s : String) : List Json :=
  (((Text.splitAll ',' s.toList).map Text.trim).filter (!·.isEmpty)).map fun cs =>
    .string (String.ofList cs)

/-- The list that an operand spells: an array, a text with commas, or one number or boolean. -/
def listed? : Json → Option (List Json)
  | .array items => some items
  | .string s => some (commaItems s)
  | .number n => some [.number n]
  | .bool b => some [.bool b]
  | _ => none

/-- Whether a scalar is equal to an element of the list that the operand spells; none if there is
no such question. -/
def memberOf? (actual operand : Json) : Option Bool := do
  let _ ← actual.scalarText?
  let items ← operand.listed?
  return items.any actual.equals

/-- Tests the texts of two scalars; other values fail the test. -/
def testTexts (test : String → String → Bool) (actual operand : Json) : Bool :=
  match actual.scalarText?, operand.scalarText? with
  | some s, some t => test s t
  | _, _ => false

/-- Tests the numbers of two numeric values; other values fail the test. -/
def testNumbers (test : Finite64 → Finite64 → Bool) (actual operand : Json) : Bool :=
  match actual.numeric?, operand.numeric? with
  | some x, some y => test x y
  | _, _ => false

end FeatureFlags.Json
