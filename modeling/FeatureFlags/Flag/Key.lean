/-!
# Flag keys

A flag key is at most 100 bytes long, starts with a lower-case letter and goes on
with lower-case letters, digits, `_`, `-` and dots, where a dot neither ends the
key nor follows another dot.
-/

namespace FeatureFlags.FlagKey

/-- Whether a character may stand in a segment of a key. -/
def isSegmentChar (c : Char) : Bool := c.isLower || c.isDigit || c == '_' || c == '-'

/-- Whether the characters may follow the start of a key; `afterDot` tells whether the
character before them is a dot. -/
def isRest (afterDot : Bool) : List Char → Bool
  | [] => !afterDot
  | c :: rest =>
    if c = '.' then !afterDot && isRest true rest
    else isSegmentChar c && isRest false rest

/-- The largest length of a key in bytes. -/
def maxBytes : Nat := 100

/-- Whether a text is a flag key. -/
def isValid (key : String) : Bool :=
  key.utf8ByteSize ≤ maxBytes &&
    match key.toList with
    | [] => false
    | c :: rest => c.isLower && isRest false rest

end FeatureFlags.FlagKey
