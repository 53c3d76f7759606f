import FeatureFlags.Json.Numeral
import FeatureFlags.Json.Quoted

/-!
# Tokens

A JSON text is cut into tokens by one pass over its characters.  Blanks are the
space, the tab and the two line ends.
-/

namespace FeatureFlags.Json

/-- A token of a JSON text. -/
inductive Token where
  | openArray
  | closeArray
  | openObject
  | closeObject
  | colon
  | comma
  | null
  | bool (b : Bool)
  /-- A number; none if it is beyond the doubles. -/
  | number (n : Option Number)
  /-- A string; none if half a surrogate pair stands in it. -/
  | string (s : Option String)
deriving DecidableEq

namespace Token

/-- What the pass is in the middle of, with the characters so far in reverse. -/
inductive Pending where
  | nothing
  /-- A word or a number. -/
  | bare (chars : List Char)
  /-- A string, and whether its last character was a backslash that escapes the next one. -/
  | quoted (chars : List Char) (escaped : Bool)

/-- The token of a word or a number. -/
def ofBare? (cs : List Char) : Option Token :=
  if cs = "null".toList then some .null
  else if cs = "true".toList then some (.bool true)
  else if cs = "false".toList then some (.bool false)
  else (Numeral.read? cs).map (.number ·.value?)

/-- The token of a string with the given inside. -/
def ofQuoted? (cs : List Char) : Option Token :=
  (Quoted.unescape? cs).map fun pieces =>
    .string ((Quoted.joinUnits? pieces).map String.ofList)

/-- The token that a single character is. -/
def ofMark? : Char → Option Token
  | '[' => some .openArray
  | ']' => some .closeArray
  | '{' => some .openObject
  | '}' => some .closeObject
  | ':' => some .colon
  | ',' => some .comma
  | _ => none

/-- Whether a character may stand between tokens. -/
def isBlank (c : Char) : Bool := c = ' ' ∨ c = '\t' ∨ c = '\n' ∨ c = '\r'

/-- The pass with nothing pending, at a character that starts a token or a blank. -/
def start? (done : List Token) (c : Char) : Option (List Token × Pending) :=
  if isBlank c then some (done, .nothing)
  else if c = '"' then some (done, .quoted [] false)
  else match ofMark? c with
    | some t => some (t :: done, .nothing)
    | none => some (done, .bare [c])

/-- Ends a pending word or number. -/
def flush? (done : List Token) : Pending → Option (List Token)
  | .nothing => some done
  | .bare cs => (ofBare? cs.reverse).map (· :: done)
  | .quoted _ _ => none

/-- One character of the pass. -/
def step? : List Token × Pending → Char → Option (List Token × Pending)
  | (done, .quoted cs true), c => some (done, .quoted (c :: cs) false)
  | (done, .quoted cs false), c =>
    if c = '"' then (ofQuoted? cs.reverse).map fun t => (t :: done, .nothing)
    else some (done, .quoted (c :: cs) (c = '\\'))
  | (done, .bare cs), c =>
    if isBlank c ∨ c = '"' ∨ (ofMark? c).isSome then do
      start? (← flush? done (.bare cs)) c
    else some (done, .bare (c :: cs))
  | (done, .nothing), c => start? done c

/-- Cuts a text into tokens; none if a part of it is no token. -/
def cut? (cs : List Char) : Option (List Token) := do
  let (done, pending) ← cs.foldlM step? ([], .nothing)
  return (← flush? done pending).reverse

end Token

end FeatureFlags.Json
