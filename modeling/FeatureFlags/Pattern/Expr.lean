import FeatureFlags.Unicode.CharSet

/-!
# Expressions

The structure of a pattern: characters, sets of characters, assertions about a
place in the text, groups, repetitions, sequences and choices.  The functions
`ofSet`, `times`, `inOrder` and `anyOf` build an expression in its simplest form.
-/

namespace FeatureFlags.Pattern

/-- What stands on the two sides of a place, seen as parts of words. -/
inductive WordEdge where
  /-- A word on one side only. -/
  | boundary
  /-- A word on both sides or on neither. -/
  | inside
  /-- A word on the right only. -/
  | start
  /-- A word on the left only. -/
  | stop
  /-- No word on the left. -/
  | startHalf
  /-- No word on the right. -/
  | stopHalf
deriving DecidableEq, Repr

/-- A condition on a place in the text. -/
inductive Assertion where
  | textStart
  | textEnd
  /-- The start of a line; with `crlf` a carriage return and the pair of it and a line feed end
  lines, too. -/
  | lineStart (crlf : Bool)
  /-- The end of a line. -/
  | lineEnd (crlf : Bool)
  /-- An edge of a word of Unicode or of ASCII characters. -/
  | word (edge : WordEdge) (unicode : Bool)
deriving DecidableEq, Repr

/-- The structure of a pattern. -/
inductive Expr where
  /-- The empty text. -/
  | empty
  /-- One character. -/
  | char (c : Char)
  /-- Any member of a set. -/
  | set (s : CharSet)
  /-- The empty text, at some places. -/
  | assertion (a : Assertion)
  /-- A group that captures what it matches. -/
  | group (e : Expr)
  /-- An expression several times in a row. -/
  | repeated (e : Expr) (least : Nat) (most : Option Nat)
  /-- Expressions one after the other. -/
  | sequence (es : List Expr)
  /-- Any of some expressions. -/
  | choice (es : List Expr)
deriving Inhabited, Repr

namespace Expr

mutual

/-- The smallest number of UTF-8 bytes of a match, unless the expression never matches. -/
def minLength? : Expr → Option Nat
  | empty | assertion _ => some 0
  | char c => some c.utf8Size
  | set s => s.ranges.head?.map fun (lo, _) => (Char.ofNat lo).utf8Size
  | group e => minLength? e
  | repeated e least _ => (minLength? e).map (· * least)
  | sequence es => sumOfMinLengths? es
  | choice es => leastOfMinLengths? es

/-- The sum of the smallest lengths. -/
def sumOfMinLengths? : List Expr → Option Nat
  | [] => some 0
  | e :: es => do return (← minLength? e) + (← sumOfMinLengths? es)

/-- The least of the smallest lengths, if all expressions can match. -/
def leastOfMinLengths? : List Expr → Option Nat
  | [] => none
  | [e] => minLength? e
  | e :: es => do return min (← minLength? e) (← leastOfMinLengths? es)

end

mutual

/-- Whether the expression can match the empty text only. -/
def onlyEmpty : Expr → Bool
  | empty | assertion _ => true
  | char _ | set _ => false
  | group e => onlyEmpty e
  | repeated e _ _ => onlyEmpty e
  | sequence es => allOnlyEmpty es
  | choice es => allOnlyEmpty es

/-- Whether all expressions can match the empty text only. -/
def allOnlyEmpty : List Expr → Bool
  | [] => true
  | e :: es => onlyEmpty e && allOnlyEmpty es

end

mutual

/-- Whether every match starts at the start of the text. -/
def startsAtStart : Expr → Bool
  | assertion a => a = .textStart
  | empty | char _ | set _ => false
  | group e => startsAtStart e
  | repeated e least _ => least ≠ 0 && startsAtStart e
  | sequence es => someStartsAtStart es
  | choice es => !es.isEmpty && allStartAtStart es

/-- Whether one of the expressions starts at the start of the text and those before it match
the empty text only. -/
def someStartsAtStart : List Expr → Bool
  | [] => false
  | e :: es => startsAtStart e || (onlyEmpty e && someStartsAtStart es)

/-- Whether every match of every expression starts at the start of the text. -/
def allStartAtStart : List Expr → Bool
  | [] => true
  | e :: es => startsAtStart e && allStartAtStart es

end

mutual

/-- Whether every match ends at the end of the text. -/
def endsAtEnd : Expr → Bool
  | assertion a => a = .textEnd
  | empty | char _ | set _ => false
  | group e => endsAtEnd e
  | repeated e least _ => least ≠ 0 && endsAtEnd e
  | sequence es => someEndsAtEnd es
  | choice es => !es.isEmpty && allEndAtEnd es

/-- Whether one of the expressions ends at the end of the text and those after it match the
empty text only. -/
def someEndsAtEnd : List Expr → Bool
  | [] => false
  | e :: es => someEndsAtEnd es || (endsAtEnd e && allOnlyEmpty es)

/-- Whether every match of every expression ends at the end of the text. -/
def allEndAtEnd : List Expr → Bool
  | [] => true
  | e :: es => endsAtEnd e && allEndAtEnd es

end

/-! ## Simplest forms -/

/-- Any member of a set; the member itself if there is just one. -/
def ofSet (s : CharSet) : Expr :=
  match s.only? with
  | some c => .char c
  | none => .set s

/-- An expression several times in a row.  The empty text need not be repeated. -/
def times (e : Expr) (least : Nat) (most : Option Nat) : Expr :=
  let (least, most) :=
    if e.onlyEmpty then (min least 1, some (min (most.getD 1) 1)) else (least, most)
  if least = 0 ∧ most = some 0 then .empty
  else if least = 1 ∧ most = some 1 then e
  else .repeated e least most

/-- The parts of a sequence without the empty text, and with inner sequences opened up. -/
def parts : Expr → List Expr
  | .empty => []
  | .sequence es => es
  | e => [e]

/-- Expressions one after the other. -/
def inOrder (es : List Expr) : Expr :=
  match es.flatMap parts with
  | [] => .empty
  | [e] => e
  | es => .sequence es

/-- The branches of a choice. -/
def branches : Expr → List Expr
  | .choice es => es
  | e => [e]

/-- The set of characters that the expression is, if it is one. -/
def asSet? : Expr → Option CharSet
  | .char c => some (.singleton c)
  | .set s => some s
  | _ => none

/-- Any of some expressions.  A choice between sets of characters is a set. -/
def anyOf (es : List Expr) : Expr :=
  match es.flatMap branches with
  | [] => .set .empty
  | [e] => e
  | es => match es.mapM asSet? with
    | some sets => .ofSet (.unions sets)
    | none => .choice es

end Expr

end FeatureFlags.Pattern
