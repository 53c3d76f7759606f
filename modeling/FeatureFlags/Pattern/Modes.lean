import FeatureFlags.Pattern.Expr
import FeatureFlags.Text.Blank
import FeatureFlags.Unicode.Property

/-!
# Modes

The modes that a pattern may switch on and off inside itself, and what they make
of characters, sets and marks.

Without the mode `unicode` a set may hold ASCII characters only, since all else
would match a part of a character; so there complements do not exist.
-/

namespace FeatureFlags.Pattern

/-- The modes at a place of a pattern. -/
structure Modes where
  /-- Characters match those that differ by case only. -/
  ignoreCase : Bool := false
  /-- Lines have starts and ends of their own. -/
  multiLine : Bool := false
  /-- The dot matches line ends, too. -/
  dotAll : Bool := false
  /-- A carriage return ends a line, too. -/
  crlf : Bool := false
  /-- Sets and words are those of Unicode. -/
  unicode : Bool := true
  /-- Blanks and comments of the pattern have no meaning. -/
  extended : Bool := false
deriving DecidableEq, Inhabited

namespace Modes

/-! ## Blanks in the pattern -/

/-- Takes the characters that `p` holds for from the start of a pattern and gives the rest.
In the extended mode blanks and comments are passed over. -/
def span (m : Modes) (p : Char → Bool) (inComment : Bool) : List Char → List Char × List Char
  | [] => ([], [])
  | c :: rest =>
    if inComment then m.span p (c != '\n') rest
    else if m.extended && Text.isBlank c then m.span p false rest
    else if m.extended && c == '#' then m.span p true rest
    else if p c then
      let (taken, rest) := m.span p false rest
      (c :: taken, rest)
    else ([], c :: rest)

/-- Passes over blanks and comments in the extended mode. -/
def skip (m : Modes) (cs : List Char) : List Char := (m.span (fun _ => false) false cs).2

/-! ## Case -/

/-- The two cases of the ASCII letters. -/
def asciiCaseGroups : List (List Nat) := (List.range 26).map fun i => [65 + i, 97 + i]

/-- The set with the characters that count as equal to a member. -/
def fold (m : Modes) (s : CharSet) : CharSet :=
  if !m.ignoreCase then s
  else if m.unicode then Unicode.closeUnderCase s
  else s.union
    ⟨(asciiCaseGroups.filter (·.any s.containsCode)).flatMap (·.map fun n => (n, n))⟩

/-! ## Characters and sets -/

/-- The characters that are not in a set; without Unicode they form no set. -/
def complement? (m : Modes) (s : CharSet) : Option CharSet :=
  if m.unicode then some s.complement else none

/-- A set of characters or its complement; case is ignored before the complement is taken. -/
def setOf? (m : Modes) (negated : Bool) (s : CharSet) : Option CharSet :=
  if negated then m.complement? (m.fold s) else some (m.fold s)

/-- A character that stands for itself.  Without Unicode a character of two hexadecimal digits is
a byte, and only ASCII bytes are characters. -/
def literal? (m : Modes) (c : Char) (byte : Bool) : Option Expr :=
  if !m.unicode ∧ byte ∧ 128 ≤ c.toNat then none
  else if !m.unicode ∧ 128 ≤ c.toNat then some (.char c)
  else some (.ofSet (m.fold (.singleton c)))

/-- The dot: any character, but for line ends. -/
def dot? (m : Modes) : Option Expr :=
  if !m.unicode then none
  else if m.dotAll then some (.set .all)
  else if m.crlf then some (.set (CharSet.complement ⟨[(10, 10), (13, 13)]⟩))
  else some (.set (CharSet.complement ⟨[(10, 10)]⟩))

/-- The mark for the start. -/
def caret (m : Modes) : Assertion := if m.multiLine then .lineStart m.crlf else .textStart

/-- The mark for the end. -/
def dollar (m : Modes) : Assertion := if m.multiLine then .lineEnd m.crlf else .textEnd

/-- Decimal digits. -/
def digits (m : Modes) : CharSet :=
  if m.unicode then Unicode.decimalDigits else .between 48 57

/-- Blanks. -/
def blanks (m : Modes) : CharSet :=
  if m.unicode then (Unicode.find? Unicode.propertyData "whitespace").getD .empty
  else ⟨[(9, 13), (32, 32)]⟩

/-- The characters of words. -/
def wordChars (m : Modes) : CharSet :=
  if m.unicode then Unicode.wordChars else ⟨[(48, 57), (65, 90), (95, 95), (97, 122)]⟩

/-! ## Switching -/

/-- The modes after one of them is switched; none if there is no such mode.  The mode `U` only
chooses among matches, so it changes nothing here. -/
def switch? (m : Modes) (mode : Char) (on : Bool) : Option Modes :=
  match mode with
  | 'i' => some { m with ignoreCase := on }
  | 'm' => some { m with multiLine := on }
  | 's' => some { m with dotAll := on }
  | 'R' => some { m with crlf := on }
  | 'u' => some { m with unicode := on }
  | 'x' => some { m with extended := on }
  | 'U' => some m
  | _ => none

/-- Reads mode letters up to a colon or a closing parenthesis, and gives the modes, how many
marks were read, the mark that ended them and the rest.  No letter and no minus may be
repeated, and letters must follow the minus. -/
def readSwitches? (m : Modes) (seen : List Char) :
    List Char → Option (Modes × Nat × Char × List Char)
  | [] => none
  | c :: rest =>
    if c = ':' ∨ c = ')' then
      if seen.head? = some '-' then none else some (m, seen.length, c, rest)
    else if seen.contains c then none
    else if c = '-' then readSwitches? m (c :: seen) rest
    else do readSwitches? (← m.switch? c !(seen.contains '-')) (c :: seen) rest

end Modes

end FeatureFlags.Pattern
