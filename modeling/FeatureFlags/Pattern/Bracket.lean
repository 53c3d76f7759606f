import FeatureFlags.Pattern.Escape

/-!
# Bracketed sets

Sets in brackets: characters, ranges, classes and further bracketed sets one after
the other are united, and `&&`, `--` and `~~` stand for intersection, difference and
symmetric difference of all to their left and what follows, up to the next of them.

The brackets that are still open are kept on a stack, so that each step reads one
item.  Every set comes with its depth, the number of nested constructs in it.
-/

namespace FeatureFlags.Pattern.Bracket

/-- A set and its depth. -/
structure Nested where
  set : CharSet
  depth : Nat

/-- The items read so far, in reverse. -/
abbrev Items := List Nested

/-- The union of some items; two or more make one more level. -/
def unite (items : Items) : Nested :=
  match items with
  | [] => ⟨.empty, 0⟩
  | [item] => item
  | items => ⟨.unions (items.map (·.set)), 1 + (items.map (·.depth)).foldl max 0⟩

/-- How two sets are put together. -/
inductive Joint where
  | inter
  | diff
  | symmDiff

/-- What an item stands in. -/
inductive Frame where
  /-- A bracket, after the items before it. -/
  | bracket (before : Items) (negated : Bool)
  /-- The right side of a joint. -/
  | right (joint : Joint) (left : Nested)

/-- Puts the two sides of a joint together. -/
def putTogether (m : Modes) (joint : Joint) (left right : Nested) : Nested :=
  let s := m.fold left.set
  let t := m.fold right.set
  let set := match joint with
    | .inter => s.inter t
    | .diff => s.diff t
    | .symmDiff => s.symmDiff t
  ⟨set, 1 + max left.depth right.depth⟩

/-- Ends the items: puts them together with the left side of a joint, if they follow one. -/
def finishSide (m : Modes) (items : Items) : List Frame → Nested × List Frame
  | .right joint left :: stack => (putTogether m joint left (unite items), stack)
  | stack => (unite items, stack)

/-- The set that an atom adds.  Without Unicode only ASCII characters may stand in a set. -/
def setIn? (m : Modes) : Atom → Option CharSet
  | .literal c _ => if !m.unicode ∧ 128 ≤ c.toNat then none else some (.singleton c)
  | .set s => some s
  | .assertion _ => none

/-- The character that an atom is as the end of a range. -/
def endIn? (m : Modes) : Atom → Option Char
  | .literal c _ => if !m.unicode ∧ 128 ≤ c.toNat then none else some c
  | _ => none

/-- Reads a character or an escape. -/
def readAtom? (m : Modes) : List Char → Option (Atom × List Char)
  | [] => none
  | '\\' :: rest => Escape.read? m rest
  | c :: rest => some (.literal c false, rest)

/-- The first character that counts after a hyphen; one mark of a comment is passed over. -/
def afterHyphen? (m : Modes) (cs : List Char) : Option Char :=
  if !m.extended then cs.head?
  else match cs.dropWhile Text.isBlank with
    | '#' :: rest => (rest.dropWhile Text.isBlank).head?
    | rest => rest.head?

/-- Reads a character, an escape or a range.  A hyphen before a closing bracket or before
another hyphen makes no range. -/
def readItem? (m : Modes) (cs : List Char) : Option (CharSet × List Char) := do
  let (first, rest) ← readAtom? m cs
  match m.skip rest with
  | [] => none
  | '-' :: rest =>
    let next := afterHyphen? m rest
    if next = some ']' ∨ next = some '-' then
      return (← setIn? m first, '-' :: rest)
    else
      let (last, rest) ← readAtom? m (m.skip rest)
      let lo ← endIn? m first
      let hi ← endIn? m last
      if hi < lo then none
      return (.between lo.toNat hi.toNat, rest)
  | rest => return (← setIn? m first, rest)

/-- The named classes of ASCII characters. -/
def asciiClasses : List (String × List (Nat × Nat)) := [
  ("alnum", [(48, 57), (65, 90), (97, 122)]),
  ("alpha", [(65, 90), (97, 122)]),
  ("ascii", [(0, 127)]),
  ("blank", [(9, 9), (32, 32)]),
  ("cntrl", [(0, 31), (127, 127)]),
  ("digit", [(48, 57)]),
  ("graph", [(33, 126)]),
  ("lower", [(97, 122)]),
  ("print", [(32, 126)]),
  ("punct", [(33, 47), (58, 64), (91, 96), (123, 126)]),
  ("space", [(9, 13), (32, 32)]),
  ("upper", [(65, 90)]),
  ("word", [(48, 57), (65, 90), (95, 95), (97, 122)]),
  ("xdigit", [(48, 57), (65, 70), (97, 102)])]

/-- Reads a named class after its opening bracket, and whether its complement is meant. -/
def readNamed? (cs : List Char) : Option (CharSet × Bool × List Char) :=
  match cs with
  | ':' :: rest =>
    let (negated, rest) := match rest with
      | '^' :: rest => (true, rest)
      | rest => (false, rest)
    match rest.dropWhile (· ≠ ':') with
    | ':' :: ']' :: after =>
      (asciiClasses.lookup (String.ofList (rest.takeWhile (· ≠ ':')))).map fun ranges =>
        (⟨ranges⟩, negated, after)
    | _ => none
  | _ => none

/-- Reads the start of a bracket after its mark: a caret for the complement, hyphens, and a
closing bracket as the first item. -/
def readOpen (m : Modes) (cs : List Char) : Bool × Items × List Char :=
  let (negated, cs) := match m.skip cs with
    | '^' :: rest => (true, m.skip rest)
    | cs => (false, cs)
  let (hyphens, cs) := m.span (· = '-') false cs
  let items : Items := hyphens.map fun c => ⟨.singleton c, 0⟩
  match items, cs with
  | [], ']' :: rest => (negated, [⟨.singleton ']', 0⟩], m.skip rest)
  | _, _ => (negated, items, cs)

/-- Where the reading of a bracketed set has come to. -/
inductive Progress where
  | more (stack : List Frame) (items : Items) (rest : List Char)
  | closed (set : Nested) (rest : List Char)

/-- Opens a bracket inside others or as the first one. -/
def openBracket (m : Modes) (stack : List Frame) (items : Items) (rest : List Char) : Progress :=
  let (negated, inner, rest) := readOpen m rest
  .more (.bracket items negated :: stack) inner rest

/-- Reads one item inside brackets. -/
def step? (m : Modes) (stack : List Frame) (items : Items) (cs : List Char) : Option Progress :=
  let joint (joint : Joint) (rest : List Char) : Progress :=
    let (left, stack) := finishSide m items stack
    .more (.right joint left :: stack) [] rest
  match m.skip cs with
  | [] => none
  | '[' :: rest =>
    match readNamed? rest with
    | some (s, negated, rest) =>
      (m.setOf? negated s).map fun s => .more stack (⟨s, 0⟩ :: items) rest
    | none => some (openBracket m stack items rest)
  | ']' :: rest =>
    match finishSide m items stack with
    | (inner, .bracket before negated :: stack) => do
      let set : Nested := ⟨← m.setOf? negated inner.set, 1 + inner.depth⟩
      if stack.isEmpty then return .closed set rest
      else return .more stack (set :: before) rest
    | _ => none
  | '&' :: '&' :: rest => some (joint .inter rest)
  | '-' :: '-' :: rest => some (joint .diff rest)
  | '~' :: '~' :: rest => some (joint .symmDiff rest)
  | cs => (readItem? m cs).map fun (s, rest) => .more stack (⟨s, 0⟩ :: items) rest

/-- Reads on until the first bracket is closed.  Every step takes characters away. -/
def readFrom? (m : Modes) (stack : List Frame) (items : Items) (cs : List Char) :
    Option (Nested × List Char) :=
  match step? m stack items cs with
  | none => none
  | some (.closed set rest) => some (set, rest)
  | some (.more stack items rest) =>
    if rest.length < cs.length then readFrom? m stack items rest else none
termination_by cs.length

/-- Reads a bracketed set after its opening bracket. -/
def read? (m : Modes) (cs : List Char) : Option (Nested × List Char) :=
  let (negated, items, rest) := readOpen m cs
  readFrom? m [.bracket [] negated] items rest

end FeatureFlags.Pattern.Bracket
