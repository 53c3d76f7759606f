import FeatureFlags.Text.Digit

/-!
# TOML strings

The four kinds of strings: basic ones with escape sequences and literal ones without, each on
one line or on several.  Every reader gets the text after the opening quotes, and gives the
string and the text after the closing quotes.
-/

namespace FeatureFlags.Toml.Quoted

/-- Whether a character may stand in a comment or a string: the tab and all characters that are
no control characters. -/
def isText (c : Char) : Bool := c = '\t' || (32 ≤ c.toNat && c.toNat != 127)

/-- The characters that one-letter escape sequences stand for. -/
def shortEscapes : List (Char × Char) :=
  [('b', '\x08'), ('t', '\t'), ('n', '\n'), ('f', '\x0c'), ('r', '\r'), ('"', '"'), ('\\', '\\')]

/-- Reads the number of a character with a fixed number of hexadecimal digits. -/
def readHex? (width : Nat) (cs : List Char) : Option (Char × List Char) := do
  let ds := cs.take width
  if ds.length ≠ width then none
  let n ← Text.hexDigitsValue? ds
  if n.isValidChar then some (Char.ofNat n, cs.drop width) else none

/-- Reads an escape sequence after its backslash. -/
def readEscape? : List Char → Option (Char × List Char)
  | [] => none
  | 'u' :: rest => readHex? 4 rest
  | 'U' :: rest => readHex? 8 rest
  | c :: rest => (shortEscapes.lookup c).map (·, rest)

/-- Passes over a backslash at the end of a line with all blanks and line ends after it. -/
def skipLineEnd? (cs : List Char) : Option (List Char) :=
  let blank (c : Char) := c = ' ' || c = '\t'
  let rec skipAll : List Char → Option (List Char)
    | '\r' :: '\n' :: rest => skipAll rest
    | '\r' :: _ => none
    | c :: rest => if blank c || c = '\n' then skipAll rest else some (c :: rest)
    | [] => some []
  match cs.dropWhile blank with
  | '\n' :: rest | '\r' :: '\n' :: rest => skipAll rest
  | _ => none

/-- Reads the rest of a literal string. -/
def readLiteral? (seen : List Char) : List Char → Option (List Char × List Char)
  | [] => none
  | c :: rest =>
    if c = '\'' then some (seen.reverse, rest)
    else if isText c then readLiteral? (c :: seen) rest
    else none

/-- Reads the rest of a basic string.  Every step takes characters away. -/
def readBasic? (seen cs : List Char) : Option (List Char × List Char) :=
  match cs with
  | [] => none
  | '"' :: rest => some (seen.reverse, rest)
  | '\\' :: rest =>
    match readEscape? rest with
    | some (c, after) =>
      if after.length < rest.length then readBasic? (c :: seen) after else none
    | none => none
  | c :: rest => if isText c then readBasic? (c :: seen) rest else none
termination_by cs.length
decreasing_by all_goals (simp only [List.length_cons]; omega)

/-- The quotes at the start of a text, and what is after them, at a place in a string on several
lines: three end it, and up to two more belong to its end. -/
def closing? (quote : Char) (cs : List Char) : Option (List Char × List Char) :=
  let n := (cs.takeWhile (· = quote)).length
  if n < 3 then none
  else
    let taken := min n 5
    some (List.replicate (taken - 3) quote, cs.drop taken)

/-- Reads the rest of a string on several lines; `escapes` says whether it is a basic one.  Line
ends are line feeds in the string.  Every step takes characters away. -/
def readLines? (quote : Char) (escapes : Bool) (seen cs : List Char) :
    Option (List Char × List Char) :=
  match closing? quote cs with
  | some (final, rest) => some (seen.reverse ++ final, rest)
  | none =>
    match cs with
    | [] => none
    | '\r' :: '\n' :: rest => readLines? quote escapes ('\n' :: seen) rest
    | c :: rest =>
      if escapes ∧ c = '\\' then
        match skipLineEnd? rest with
        | some after =>
          if after.length < rest.length then readLines? quote escapes seen after else none
        | none =>
          match readEscape? rest with
          | some (c, after) =>
            if after.length < rest.length then readLines? quote escapes (c :: seen) after else none
          | none => none
      else if c = '\n' ∨ isText c then readLines? quote escapes (c :: seen) rest
      else none
termination_by cs.length
decreasing_by all_goals (simp only [List.length_cons]; omega)

/-- The text after a line end at its start. -/
def dropLineEnd : List Char → List Char
  | '\n' :: rest | '\r' :: '\n' :: rest => rest
  | cs => cs

/-- Reads a string of any kind. -/
def read? : List Char → Option (List Char × List Char)
  | '"' :: '"' :: '"' :: rest => readLines? '"' true [] (dropLineEnd rest)
  | '"' :: rest => readBasic? [] rest
  | '\'' :: '\'' :: '\'' :: rest => readLines? '\'' false [] (dropLineEnd rest)
  | '\'' :: rest => readLiteral? [] rest
  | _ => none

/-- Reads a string on one line. -/
def readKey? : List Char → Option (List Char × List Char)
  | '"' :: rest => readBasic? [] rest
  | '\'' :: rest => readLiteral? [] rest
  | _ => none

end FeatureFlags.Toml.Quoted
