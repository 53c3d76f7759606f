import FeatureFlags.Json.Document
import FeatureFlags.Json.Quoted

/-!
# Writing documents

A document is written without blanks, its fields in their order.  An unreadable
part has no text of its own and is written as null.
-/

namespace FeatureFlags

/-- The literal for a string. -/
def Json.Quoted.literal (s : String) : List Char := quote s.toList

namespace Document

mutual

/-- The text of a document. -/
def chars : Document → List Char
  | .null | .unreadable => "null".toList
  | .bool true => "true".toList
  | .bool false => "false".toList
  | .number n => n.text.toList
  | .string s => Json.Quoted.literal s
  | .array items => '[' :: itemsChars items
  | .object fields => '{' :: fieldsChars fields

/-- Items up to the closing bracket. -/
def itemsChars : List Document → List Char
  | [] => [']']
  | d :: ds => chars d ++ moreItemsChars ds

/-- Items after the first one, up to the closing bracket. -/
def moreItemsChars : List Document → List Char
  | [] => [']']
  | d :: ds => ',' :: (chars d ++ moreItemsChars ds)

/-- Fields up to the closing brace. -/
def fieldsChars : List (String × Document) → List Char
  | [] => ['}']
  | (k, d) :: ds => Json.Quoted.literal k ++ ':' :: (chars d ++ moreFieldsChars ds)

/-- Fields after the first one, up to the closing brace. -/
def moreFieldsChars : List (String × Document) → List Char
  | [] => ['}']
  | (k, d) :: ds =>
    ',' :: (Json.Quoted.literal k ++ ':' :: (chars d ++ moreFieldsChars ds))

end

/-- The text of a document as a string. -/
def text (d : Document) : String := String.ofList d.chars

end Document

/-- The text of a value. -/
def Json.text (v : Json) : String := v.toDocument.text

end FeatureFlags
