import FeatureFlags.Binary64.Shortest
import FeatureFlags.Table

/-!
# JSON values

A JSON number is a whole number of 64 bits, signed or unsigned, or a finite
double.  The fields of an object stand in increasing key order, each once, when
the object was built by `Json.ofFields`.

`Json.same` is equality of values: numbers of one kind compare by value, so the
two zeros are the same number, but a whole number and a double never are.
-/

namespace FeatureFlags

namespace Json

/-- A JSON number. -/
inductive Number where
  /-- A whole number from `-2 ^ 63` to `2 ^ 64 - 1`. -/
  | integer (n : Int)
  /-- A number with a fraction or an exponent, or beyond 64 bits. -/
  | float (x : Finite64)
deriving DecidableEq, Inhabited

namespace Number

/-- Whether a whole number fits a signed or an unsigned word of 64 bits. -/
def fitsInteger (n : Int) : Bool := -9223372036854775808 ≤ n ∧ n < 18446744073709551616

/-- The number as a double, rounded if it is a large whole number. -/
def toFinite : Number → Finite64
  | .integer n => (Binary64.ofInt n).finite?.getD default
  | .float x => x

/-- The text of the number. -/
def text : Number → String
  | .integer n => toString n
  | .float x => x.text

/-- Equality of numbers of the same kind. -/
def same : Number → Number → Bool
  | .integer a, .integer b => a == b
  | .float x, .float y => x.eq y
  | _, _ => false

end Number

end Json

/-- A JSON value. -/
inductive Json where
  | null
  | bool (b : Bool)
  | number (n : Json.Number)
  | string (s : String)
  | array (items : List Json)
  | object (fields : List (String × Json))
deriving Inhabited

namespace Json

/-- An object from fields in any order; the last of repeated fields stays. -/
def ofFields (fields : List (String × Json)) : Json :=
  .object (Table.ofList fields).entries

/-- Whether the value is null. -/
def isNull : Json → Bool
  | .null => true
  | _ => false

/-- The text of a string value. -/
def string? : Json → Option String
  | .string s => some s
  | _ => none

mutual

/-- Equality of values. -/
def same : Json → Json → Bool
  | .null, .null => true
  | .bool a, .bool b => a == b
  | .number a, .number b => a.same b
  | .string a, .string b => a == b
  | .array xs, .array ys => sameItems xs ys
  | .object xs, .object ys => sameFields xs ys
  | _, _ => false

/-- Equality of lists of values, place by place. -/
def sameItems : List Json → List Json → Bool
  | [], [] => true
  | x :: xs, y :: ys => same x y && sameItems xs ys
  | _, _ => false

/-- Equality of lists of fields, place by place. -/
def sameFields : List (String × Json) → List (String × Json) → Bool
  | [], [] => true
  | (k, x) :: xs, (l, y) :: ys => k == l && same x y && sameFields xs ys
  | _, _ => false

end

end Json

end FeatureFlags
