import FeatureFlags.Json.Document
import FeatureFlags.Json.Token

/-!
# Reading documents

Tokens are read one after the other; the containers that are still open are kept
on a stack.  A container that has `Reader.depthLimit` or more containers around
and including itself is read and then becomes unreadable, and so does an object
with an unreadable field name.
-/

namespace FeatureFlags.Json

namespace Reader

/-- A container that is still open, with what it holds so far in reverse. -/
inductive Frame where
  | array (items : List Document)
  /-- An object whose last field has no value yet; `readable` says whether all names so far
  are. -/
  | object (readable : Bool) (fields : List (String × Document)) (name : String)

/-- What must come next. -/
inductive State where
  /-- A value; with `mayClose` the array just opened may end instead. -/
  | value (mayClose : Bool) (stack : List Frame)
  /-- A field name; with `mayClose` the object just opened may end instead. -/
  | name (mayClose readable : Bool) (fields : List (String × Document)) (stack : List Frame)
  /-- The colon after a field name. -/
  | colon (stack : List Frame)
  /-- A comma or the end of the innermost container. -/
  | separator (stack : List Frame)
  /-- Nothing. -/
  | done (d : Document)

/-- The number of nested containers that makes the innermost one unreadable. -/
def depthLimit : Nat := 128

/-- A closed container inside the given open ones. -/
def closed (readable : Bool) (d : Document) (stack : List Frame) : Document :=
  if readable ∧ stack.length + 1 < depthLimit then d else .unreadable

/-- The state after a value inside the given open containers. -/
def after (d : Document) : List Frame → State
  | [] => .done d
  | .array items :: stack => .separator (.array (d :: items) :: stack)
  | .object readable fields name :: stack =>
    .separator (.object readable ((name, d) :: fields) name :: stack)

/-- The token at the place of a value. -/
def value? (stack : List Frame) : Token → Option State
  | .openArray => some (.value true (.array [] :: stack))
  | .openObject => some (.name true true [] stack)
  | .null => some (after .null stack)
  | .bool b => some (after (.bool b) stack)
  | .number (some n) => some (after (.number n) stack)
  | .number none => some (after .unreadable stack)
  | .string (some s) => some (after (.string s) stack)
  | .string none => some (after .unreadable stack)
  | _ => none

/-- One token. -/
def step? : State → Token → Option State
  | .value true (.array items :: stack), .closeArray =>
    some (after (closed true (.array items.reverse) stack) stack)
  | .value _ stack, t => value? stack t
  | .name true readable fields stack, .closeObject =>
    some (after (closed readable (.object fields.reverse) stack) stack)
  | .name _ readable fields stack, .string (some s) =>
    some (.colon (.object readable fields s :: stack))
  | .name _ _ fields stack, .string none => some (.colon (.object false fields "" :: stack))
  | .colon stack, .colon => some (.value false stack)
  | .separator (.array items :: stack), .comma => some (.value false (.array items :: stack))
  | .separator (.array items :: stack), .closeArray =>
    some (after (closed true (.array items.reverse) stack) stack)
  | .separator (.object readable fields _ :: stack), .comma =>
    some (.name false readable fields stack)
  | .separator (.object readable fields _ :: stack), .closeObject =>
    some (after (closed readable (.object fields.reverse) stack) stack)
  | _, _ => none

/-- The document of a whole token list. -/
def document? (ts : List Token) : Option Document := do
  match ← ts.foldlM step? (.value false []) with
  | .done d => some d
  | _ => none

end Reader

end Json

namespace Document

/-- Reads a JSON text; none if it is not well written. -/
def read? (cs : List Char) : Option Document := do
  Json.Reader.document? (← Json.Token.cut? cs)

/-- Reads a JSON text. -/
def parse? (s : String) : Option Document := read? s.toList

end Document

end FeatureFlags
