import FeatureFlags.Pattern.Bracket

/-!
# Reading patterns

A pattern is read from left to right.  The groups that are still open are kept on
a stack; each holds the branches of its choice and the items of its last branch.
A pattern with more than `Parser.depthLimit` nested constructs is refused.
-/

namespace FeatureFlags.Pattern.Parser

/-- A part of a pattern with the number of nested constructs in it. -/
structure Item where
  expr : Expr
  depth : Nat
  /-- Whether it only switches modes; such an item cannot be repeated. -/
  switchesOnly : Bool := false

/-- The inside of a group, as far as it is read. -/
structure Level where
  /-- The branches before the last one, in reverse. -/
  branches : List Item := []
  /-- The items of the last branch, in reverse. -/
  items : List Item := []

/-- A group that is still open. -/
structure Open where
  /-- The level that the group stands in. -/
  outer : Level
  /-- The modes to go back to after the group. -/
  modes : Modes
  captures : Bool

/-- Where the reading has come to. -/
structure State where
  modes : Modes := {}
  /-- The names of groups so far. -/
  names : List String := []
  level : Level := {}
  opened : List Open := []

/-- One more than the depth of the deepest of some items. -/
def deeper (items : List Item) : Nat := 1 + (items.map (·.depth)).foldl max 0

namespace Level

/-- The last branch as one item. -/
def branch (l : Level) : Item :=
  match l.items with
  | [] => ⟨.empty, 0, false⟩
  | [item] => item
  | items => ⟨.inOrder (items.reverse.map (·.expr)), deeper items, false⟩

/-- The whole level as one item. -/
def close (l : Level) : Item :=
  match l.branches with
  | [] => l.branch
  | branches =>
    let all := l.branch :: branches
    ⟨.anyOf (all.reverse.map (·.expr)), deeper all, false⟩

/-- Starts another branch. -/
def nextBranch (l : Level) : Level := ⟨l.branch :: l.branches, []⟩

/-- Appends an item to the last branch. -/
def push (l : Level) (item : Item) : Level := { l with items := item :: l.items }

/-- Repeats the last item, if there is one to repeat. -/
def repeatLast? (l : Level) (least : Nat) (most : Option Nat) : Option Level :=
  match l.items with
  | [] => none
  | item :: items =>
    if item.switchesOnly then none
    else some { l with items := ⟨item.expr.times least most, 1 + item.depth, false⟩ :: items }

end Level

/-! ## Groups -/

/-- Whether a character may stand in the name of a group. -/
def isNameChar (first : Bool) (c : Char) : Bool :=
  if first then c == '_' || Unicode.alphabetic.contains c
  else c == '_' || c == '.' || c == '[' || c == ']' || Unicode.alphanumeric.contains c

/-- Reads the name of a group up to the closing angle bracket. -/
def readName? (cs : List Char) : Option (String × List Char) :=
  match cs.span (· ≠ '>') with
  | (c :: name, '>' :: rest) =>
    if isNameChar true c ∧ name.all (isNameChar false) then some (String.ofList (c :: name), rest)
    else none
  | _ => none

/-- The state inside a group that is opened with the given modes. -/
def State.enter (s : State) (modes : Modes) (captures : Bool) : State :=
  { s with modes, level := {}, opened := ⟨s.level, s.modes, captures⟩ :: s.opened }

/-- Opens a group whose name follows. -/
def openNamed? (s : State) (cs : List Char) : Option (State × List Char) := do
  let (name, rest) ← readName? cs
  if s.names.contains name then none
  return ({ s with names := name :: s.names }.enter s.modes true, rest)

/-- Reads what follows an opening parenthesis: a group, or modes to switch up to the end of the
group around. -/
def openGroup? (s : State) (cs : List Char) : Option (State × List Char) :=
  match s.modes.skip cs with
  | '?' :: '=' :: _ | '?' :: '!' :: _ | '?' :: '<' :: '=' :: _ | '?' :: '<' :: '!' :: _ => none
  | '?' :: 'P' :: '<' :: rest | '?' :: '<' :: rest => openNamed? s rest
  | '?' :: rest => do
    let (modes, count, mark, rest) ← s.modes.readSwitches? [] rest
    if mark = ':' then return (s.enter modes false, rest)
    else if count = 0 then none
    else return ({ s with modes, level := s.level.push ⟨.empty, 0, true⟩ }, rest)
  | rest => some (s.enter s.modes true, rest)

/-- Closes the innermost group. -/
def closeGroup? (s : State) : Option State :=
  match s.opened with
  | [] => none
  | o :: opened =>
    let inner := s.level.close
    let item : Item :=
      ⟨if o.captures then .group inner.expr else inner.expr, 1 + inner.depth, false⟩
    some { s with modes := o.modes, level := o.outer.push item, opened }

/-! ## Repetitions -/

/-- Drops the mark that asks for as few repetitions as possible; it only chooses among matches. -/
def dropLazyMark : List Char → List Char
  | '?' :: rest => rest
  | rest => rest

/-- Reads a count, with blanks around it; no number if there are no digits. -/
def readCount? (m : Modes) (cs : List Char) : Option (Option Nat × List Char) :=
  let (digits, rest) := m.span Char.isDigit false (cs.dropWhile Text.isBlank)
  let rest := m.skip (rest.dropWhile Text.isBlank)
  if digits.isEmpty then some (none, rest)
  else
    let n := Text.digitsValue digits
    if n < UInt32.size then some (some n, rest) else none

/-- Reads the counts of a repetition after the opening brace. -/
def readCounts? (m : Modes) (cs : List Char) : Option (Nat × Option Nat × List Char) := do
  let (least, rest) ← readCount? m (m.skip cs)
  let least ← least
  let (most, rest) ← match rest with
    | ',' :: rest =>
      match m.skip rest with
      | '}' :: rest => some (none, '}' :: rest)
      | rest => do
        let (most, rest) ← readCount? m rest
        some (some (← most), rest)
    | rest => some (some least, rest)
  if most.any (· < least) then none
  match rest with
  | '}' :: rest => some (least, most, dropLazyMark (m.skip rest))
  | _ => none

/-! ## Whole patterns -/

/-- The expression that an atom is outside brackets. -/
def exprOf? (m : Modes) : Atom → Option Expr
  | .literal c byte => m.literal? c byte
  | .set s => some (.ofSet s)
  | .assertion a => some (.assertion a)

/-- The state after an item without inner structure. -/
def State.push (s : State) (expr : Expr) : State :=
  { s with level := s.level.push ⟨expr, 0, false⟩ }

/-- The state after a repetition of the last item. -/
def State.repeatLast? (s : State) (least : Nat) (most : Option Nat) : Option State :=
  (s.level.repeatLast? least most).map fun level => { s with level }

/-- Reads one construct, whose first character is `c`. -/
def step? (s : State) (c : Char) (rest : List Char) : Option (State × List Char) :=
  match c with
  | '(' => openGroup? s rest
  | ')' => (closeGroup? s).map (·, rest)
  | '|' => some ({ s with level := s.level.nextBranch }, rest)
  | '[' => do
    let (nested, rest) ← Bracket.read? s.modes rest
    return ({ s with level := s.level.push ⟨.ofSet nested.set, nested.depth, false⟩ }, rest)
  | '?' => (s.repeatLast? 0 (some 1)).map (·, dropLazyMark rest)
  | '*' => (s.repeatLast? 0 none).map (·, dropLazyMark rest)
  | '+' => (s.repeatLast? 1 none).map (·, dropLazyMark rest)
  | '{' => do
    let (least, most, rest) ← readCounts? s.modes rest
    return (← s.repeatLast? least most, rest)
  | '\\' => do
    let (atom, rest) ← Escape.read? s.modes rest
    return (s.push (← exprOf? s.modes atom), rest)
  | '.' => s.modes.dot?.map fun e => (s.push e, rest)
  | '^' => some (s.push (.assertion s.modes.caret), rest)
  | '$' => some (s.push (.assertion s.modes.dollar), rest)
  | c => (s.modes.literal? c false).map fun e => (s.push e, rest)

/-- Reads on to the end.  Every step takes characters away. -/
def readFrom? (s : State) (cs : List Char) : Option State :=
  match s.modes.skip cs with
  | [] => some s
  | c :: rest =>
    match step? s c rest with
    | none => none
    | some (s, rest) => if rest.length < cs.length then readFrom? s rest else none
termination_by cs.length

/-- The largest number of nested constructs. -/
def depthLimit : Nat := 250

/-- The expression of a pattern; none if the pattern is not well formed. -/
def expr? (pattern : List Char) : Option Expr := do
  let s ← readFrom? {} pattern
  if !s.opened.isEmpty then none
  let whole := s.level.close
  if whole.depth ≤ depthLimit then some whole.expr else none

end FeatureFlags.Pattern.Parser
