import FeatureFlags.Json.Wire

/-!
# Flag values

The values that flags serve and the types that flags declare for them.  A value
travels as bare JSON: a boolean, a number or a string is read as such, and
everything else as a document.
-/

namespace FeatureFlags

/-- The declared type of the values of a flag. -/
inductive ValueType where
  | boolean
  | string
  | number
  | json
deriving DecidableEq, Inhabited, Repr

namespace ValueType

/-- The types and their names. -/
def names : List (ValueType × String) :=
  [(.boolean, "boolean"), (.string, "string"), (.number, "number"), (.json, "json")]

/-- The name of a type. -/
def name : ValueType → String
  | .boolean => "boolean"
  | .string => "string"
  | .number => "number"
  | .json => "json"

instance : Wire ValueType where
  encode t := .string t.name
  decode? := Document.choose? names

end ValueType

/-- A value that a flag serves. -/
inductive FlagValue where
  | boolean (b : Bool)
  | number (x : Binary64)
  | string (s : String)
  /-- Any document. -/
  | json (v : Json)
deriving Inhabited

namespace FlagValue

/-- The boolean of a boolean value. -/
def bool? : FlagValue → Option Bool
  | .boolean b => some b
  | _ => none

/-- The text of a string value. -/
def string? : FlagValue → Option String
  | .string s => some s
  | _ => none

/-- The number of a number value. -/
def number? : FlagValue → Option Binary64
  | .number x => some x
  | _ => none

/-- Whether a flag of the given type may serve the value.  A flag of type `json` may serve
any value, since every value is a document. -/
def hasType : FlagValue → ValueType → Bool
  | _, .json => true
  | .boolean _, .boolean => true
  | .string _, .string => true
  | .number _, .number => true
  | _, _ => false

/-- The value as JSON.  Infinities and not-a-number have no JSON form and become null. -/
def toJson : FlagValue → Json
  | .boolean b => .bool b
  | .number (.finite x) => .number (.float x)
  | .number _ => .null
  | .string s => .string s
  | .json v => v

/-- The value that a JSON value is read as. -/
def ofJson : Json → FlagValue
  | .bool b => .boolean b
  | .number n => .number (.finite n.toFinite)
  | .string s => .string s
  | v => .json v

/-- A value is written as what it holds.  It is read as the first of a boolean, a number, a string
and a document that it can be read as. -/
instance : Wire FlagValue where
  encode
    | .boolean b => encode b
    | .number x => encode x
    | .string s => encode s
    | .json v => encode v
  decode? d :=
    (decode? d).map boolean <|> (decode? d).map number <|> (decode? d).map string <|>
      (decode? d).map json

end FlagValue

end FeatureFlags
