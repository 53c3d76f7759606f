import FeatureFlags.Json.Basic

/-!
# Documents

A document is what a JSON text says before it is read as anything: fields stand
in the order of the text and may repeat.  Parts that are written well but have
no value (a number beyond the doubles, half a surrogate pair, a container nested
too deep) are `unreadable`: they may be skipped and not be read.

* `Json.toDocument` and `Document.toJson?` go between documents and values; of
  repeated fields the last one counts.
-/

namespace FeatureFlags

/-- A JSON text in structured form. -/
inductive Document where
  | null
  | bool (b : Bool)
  | number (n : Json.Number)
  | string (s : String)
  | array (items : List Document)
  | object (fields : List (String × Document))
  | unreadable
deriving Inhabited

namespace Document

mutual

/-- The value of the document, unless a part of it is unreadable. -/
def toJson? : Document → Option Json
  | .null => some .null
  | .bool b => some (.bool b)
  | .number n => some (.number n)
  | .string s => some (.string s)
  | .array items => (itemsToJson? items).map .array
  | .object fields => (fieldsToJson? fields).map Json.ofFields
  | .unreadable => none

/-- The values of a list of documents. -/
def itemsToJson? : List Document → Option (List Json)
  | [] => some []
  | d :: ds => do return (← toJson? d) :: (← itemsToJson? ds)

/-- The values of a list of fields, in the same order. -/
def fieldsToJson? : List (String × Document) → Option (List (String × Json))
  | [] => some []
  | (k, d) :: ds => do return (k, ← toJson? d) :: (← fieldsToJson? ds)

end

/-- Whether the document has a value. -/
def isReadable (d : Document) : Bool := d.toJson?.isSome

/-- Whether the document is the null value. -/
def isNull : Document → Bool
  | .null => true
  | _ => false

end Document

namespace Json

mutual

/-- The document that spells a value. -/
def toDocument : Json → Document
  | .null => .null
  | .bool b => .bool b
  | .number n => .number n
  | .string s => .string s
  | .array items => .array (itemsToDocument items)
  | .object fields => .object (fieldsToDocument fields)

/-- The documents that spell a list of values. -/
def itemsToDocument : List Json → List Document
  | [] => []
  | v :: vs => toDocument v :: itemsToDocument vs

/-- The fields that spell a list of fields. -/
def fieldsToDocument : List (String × Json) → List (String × Document)
  | [] => []
  | (k, v) :: vs => (k, toDocument v) :: fieldsToDocument vs

end

end Json

end FeatureFlags
