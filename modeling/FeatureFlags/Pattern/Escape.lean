import FeatureFlags.Pattern.Modes

/-!
# Escapes

The sequences that a backslash starts: characters by a letter or a number, marks
that would have a meaning without the backslash, classes of characters, and
assertions about places.
-/

namespace FeatureFlags.Pattern

/-- What an escape, or a character inside brackets, stands for. -/
inductive Atom where
  /-- A character; `byte` says whether it is written as a byte of two hexadecimal digits. -/
  | literal (c : Char) (byte : Bool)
  | set (s : CharSet)
  | assertion (a : Assertion)

namespace Escape

/-- The character with the given number. -/
def charOf? (n : Nat) : Option Char := if n.isValidChar then some (Char.ofNat n) else none

/-- The character whose number is spelt by hexadecimal digits. -/
def charOfHex? (ds : List Char) : Option Char := do
  if ds.isEmpty then none
  charOf? (← Text.hexDigitsValue? ds)

/-- Takes a fixed number of hexadecimal digits. -/
def takeHex? (m : Modes) : Nat → List Char → Option (List Char × List Char)
  | 0, cs => some ([], cs)
  | n + 1, c :: cs =>
    if (Text.hexValue? c).isSome then
      (takeHex? m n (m.skip cs)).map fun (ds, rest) => (c :: ds, rest)
    else none
  | _ + 1, [] => none

/-- Reads what stands in braces, up to the closing one. -/
def takeBraced? (m : Modes) (cs : List Char) : Option (List Char × List Char) :=
  match m.span (· ≠ '}') false cs with
  | (taken, '}' :: rest) => some (taken, rest)
  | _ => none

/-- Reads the number of a character: digits in braces, or a fixed number of them. -/
def readHex? (m : Modes) (width : Nat) (cs : List Char) : Option (Atom × List Char) :=
  match m.skip cs with
  | '{' :: rest => do
    let (ds, rest) ← takeBraced? m rest
    return (.literal (← charOfHex? ds) false, m.skip rest)
  | cs => do
    let (ds, rest) ← takeHex? m width cs
    return (.literal (← charOfHex? ds) (width = 2), rest)

/-- The set of a Unicode property: a name, or a property and its value with a mark between
them.  All of the marks mean the same. -/
def propertySet? (name : List Char) : Option CharSet :=
  let cut (at_ : Nat) (width : Nat) := Unicode.withValue? (name.take at_) (name.drop (at_ + width))
  let unequal := (List.range name.length).find? fun i => ['!', '='].isPrefixOf (name.drop i)
  match unequal, name.findIdx? (· = ':'), name.findIdx? (· = '=') with
  | some i, _, _ => cut i 2
  | none, some i, _ => cut i 1
  | none, none, some i => cut i 1
  | none, none, none => Unicode.named? name

/-- Reads the name of a Unicode property, one letter or a name in braces. -/
def readProperty? (m : Modes) (negated : Bool) (cs : List Char) : Option (Atom × List Char) := do
  if !m.unicode then none
  let (name, rest) ← match m.skip cs with
    | [] => none
    | '{' :: rest => takeBraced? m rest
    | c :: rest => if c = '\\' then none else some ([c], m.skip rest)
  return (.set (← m.setOf? negated (← propertySet? name)), rest)

/-- A class of characters or its complement. -/
def readClass? (m : Modes) (negated : Bool) (s : CharSet) (rest : List Char) :
    Option (Atom × List Char) :=
  if negated then (m.complement? s).map fun s => (.set s, rest) else some (.set s, rest)

/-- The edges of words that have a name. -/
def edgeNames : List (String × WordEdge) :=
  [("start", .start), ("end", .stop), ("start-half", .startHalf), ("end-half", .stopHalf)]

/-- Reads what follows the mark of a word boundary: the name of another edge in braces.  Braces
that do not start with a letter or a hyphen belong to a repetition. -/
def readEdge? (m : Modes) (cs : List Char) : Option (Atom × List Char) :=
  let isNameChar (c : Char) := c.isAlpha || c == '-'
  let boundary : Atom × List Char := (.assertion (.word .boundary m.unicode), cs)
  match cs with
  | '{' :: rest =>
    match m.skip rest with
    | [] => none
    | c :: rest =>
      if !isNameChar c then some boundary
      else match m.span isNameChar false (c :: rest) with
        | (name, '}' :: rest) =>
          (edgeNames.lookup (String.ofList name)).map fun edge =>
            (.assertion (.word edge m.unicode), rest)
        | _ => none
  | _ => some boundary

/-- The characters that letters stand for. -/
def letterChars : List (Char × Char) :=
  [('a', '\x07'), ('f', '\x0c'), ('t', '\t'), ('n', '\n'), ('r', '\r'), ('v', '\x0b')]

/-- Whether an escaped character stands for itself: an ASCII character other than letters,
digits and angle brackets. -/
def isPlain (c : Char) : Bool := c.toNat < 128 && !c.isAlphanum && c != '<' && c != '>'

/-- Reads what follows a backslash. -/
def read? (m : Modes) : List Char → Option (Atom × List Char)
  | [] => none
  | 'x' :: rest => readHex? m 2 rest
  | 'u' :: rest => readHex? m 4 rest
  | 'U' :: rest => readHex? m 8 rest
  | 'p' :: rest => readProperty? m false rest
  | 'P' :: rest => readProperty? m true rest
  | 'd' :: rest => readClass? m false m.digits rest
  | 'D' :: rest => readClass? m true m.digits rest
  | 's' :: rest => readClass? m false m.blanks rest
  | 'S' :: rest => readClass? m true m.blanks rest
  | 'w' :: rest => readClass? m false m.wordChars rest
  | 'W' :: rest => readClass? m true m.wordChars rest
  | 'A' :: rest => some (.assertion .textStart, rest)
  | 'z' :: rest => some (.assertion .textEnd, rest)
  | 'b' :: rest => readEdge? m rest
  | 'B' :: rest => some (.assertion (.word .inside m.unicode), rest)
  | '<' :: rest => some (.assertion (.word .start m.unicode), rest)
  | '>' :: rest => some (.assertion (.word .stop m.unicode), rest)
  | c :: rest =>
    if isPlain c then some (.literal c false, rest)
    else (letterChars.lookup c).map fun c => (.literal c false, rest)

end Escape

end FeatureFlags.Pattern
