import FeatureFlags.Text.Digit

/-!
# Quoted text

The inside of a JSON string literal.  `escape` writes a text: a quote, a
backslash and every control character as an escape sequence, all else as it is.
`unescape?` cuts a literal into characters and UTF-16 units; `joinUnits?` puts
the units of surrogate pairs together and fails if half a pair stands alone.
-/

namespace FeatureFlags.Json.Quoted

/-! ## Writing -/

/-- One character inside a literal. -/
def escapeChar (c : Char) : List Char :=
  if c = '"' then ['\\', '"']
  else if c = '\\' then ['\\', '\\']
  else if c = '\x08' then ['\\', 'b']
  else if c = '\x0c' then ['\\', 'f']
  else if c = '\n' then ['\\', 'n']
  else if c = '\r' then ['\\', 'r']
  else if c = '\t' then ['\\', 't']
  else if c.toNat < 32 then '\\' :: 'u' :: Text.hexPadded 4 c.toNat
  else [c]

/-- The inside of the literal for a text. -/
def escape (cs : List Char) : List Char := cs.flatMap escapeChar

/-- The literal for a text. -/
def quote (cs : List Char) : List Char := '"' :: escape cs ++ ['"']

/-! ## Reading -/

/-- A piece of a literal. -/
inductive Piece where
  /-- A character, written as it is or by a short escape sequence. -/
  | char (c : Char)
  /-- A UTF-16 unit, written by its number. -/
  | unit (n : Nat)
deriving DecidableEq

/-- The character of a short escape sequence. -/
def shortEscape? : Char → Option Char
  | '"' => some '"'
  | '\\' => some '\\'
  | '/' => some '/'
  | 'b' => some '\x08'
  | 'f' => some '\x0c'
  | 'n' => some '\n'
  | 'r' => some '\r'
  | 't' => some '\t'
  | _ => none

/-- Cuts the inside of a literal into pieces; none if it is not well written. -/
def unescape? : List Char → Option (List Piece)
  | [] => some []
  | '\\' :: 'u' :: a :: b :: c :: d :: rest => do
    let n ← Text.hexDigitsValue? [a, b, c, d]
    return .unit n :: (← unescape? rest)
  | '\\' :: e :: rest => do
    let c ← shortEscape? e
    return .char c :: (← unescape? rest)
  | ['\\'] => none
  | c :: rest => if c.toNat < 32 then none else (unescape? rest).map (.char c :: ·)

/-- The text of the pieces; none if a surrogate stands without its partner. -/
def joinUnits? : List Piece → Option (List Char)
  | [] => some []
  | .char c :: rest => (joinUnits? rest).map (c :: ·)
  | .unit h :: .unit l :: rest =>
    if 0xD800 ≤ h ∧ h < 0xDC00 then
      if 0xDC00 ≤ l ∧ l < 0xE000 then
        (joinUnits? rest).map (Char.ofNat (0x10000 + (h - 0xD800) * 0x400 + (l - 0xDC00)) :: ·)
      else none
    else if 0xDC00 ≤ h ∧ h < 0xE000 then none
    else (joinUnits? (.unit l :: rest)).map (Char.ofNat h :: ·)
  | .unit n :: rest =>
    if 0xD800 ≤ n ∧ n < 0xE000 then none else (joinUnits? rest).map (Char.ofNat n :: ·)

end FeatureFlags.Json.Quoted
