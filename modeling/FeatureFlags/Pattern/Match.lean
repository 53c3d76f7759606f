import FeatureFlags.Pattern.Expr
import FeatureFlags.Unicode.Property

/-!
# Matching

What an expression matches in a text, told by places: place `i` is before the
character with index `i`.  `Expr.reach` takes a set of places where a match may
start to the places where it may end, by recursion on the expression; a repetition
goes on until no new place turns up.
-/

namespace FeatureFlags.Pattern

/-- A set of places in increasing order. -/
abbrev Places := List Nat

namespace Places

/-- The union of two sets of places. -/
def union : Places → Places → Places
  | [], ps => ps
  | ps, [] => ps
  | p :: ps, q :: qs =>
    if p < q then p :: union ps (q :: qs)
    else if q < p then q :: union (p :: ps) qs
    else p :: union ps qs

end Places

/-! ## Assertions -/

/-- Whether a character belongs to a word. -/
def isWordChar (unicode : Bool) (c : Char) : Bool :=
  if unicode then Unicode.wordChars.contains c else c.isAlphanum || c == '_'

/-- Whether the edge of a word is at a place with the given sides. -/
def WordEdge.holds (left right : Bool) : WordEdge → Bool
  | .boundary => left != right
  | .inside => left == right
  | .start => !left && right
  | .stop => left && !right
  | .startHalf => !left
  | .stopHalf => !right

/-- Whether an assertion holds between two characters; none stands for an end of the text. -/
def Assertion.holds (before after : Option Char) : Assertion → Bool
  | .textStart => before.isNone
  | .textEnd => after.isNone
  | .lineStart false => before.isNone || before == some '\n'
  | .lineEnd false => after.isNone || after == some '\n'
  | .lineStart true =>
    before.isNone || before == some '\n' || (before == some '\r' && after != some '\n')
  | .lineEnd true =>
    after.isNone || after == some '\r' || (after == some '\n' && before != some '\r')
  | .word edge unicode =>
    edge.holds (before.any (isWordChar unicode)) (after.any (isWordChar unicode))

/-! ## Places -/

/-- The character before a place. -/
def before? (text : Array Char) (p : Nat) : Option Char := if p = 0 then none else text[p - 1]?

/-- The places after one character that `p` holds for. -/
def advance (text : Array Char) (p : Char → Bool) (starts : Places) : Places :=
  (starts.filter fun i => (text[i]?).any p).map (· + 1)

/-- The places after `n` steps; none are left once a step leads nowhere. -/
def stepTimes (step : Places → Places) : Nat → Places → Places
  | 0, ps => ps
  | n + 1, ps => if ps.isEmpty then [] else stepTimes step n (step ps)

/-- The places after at most `n` steps.  The steps end early when they add no place. -/
def stepUpTo (step : Places → Places) : Nat → Places → Places
  | 0, ps => ps
  | n + 1, ps =>
    let ps' := ps.union (step ps)
    if ps' = ps then ps else stepUpTo step n ps'

namespace Expr

mutual

/-- The places where a match that starts at one of the given places may end. -/
def reach (text : Array Char) (e : Expr) (starts : Places) : Places :=
  match e with
  | empty => starts
  | char c => advance text (· == c) starts
  | set s => advance text s.contains starts
  | assertion a => starts.filter fun i => a.holds (before? text i) text[i]?
  | group e => reach text e starts
  | repeated e least most =>
    let first := stepTimes (fun ps => reach text e ps) least starts
    stepUpTo (fun ps => reach text e ps) ((most.getD (text.size + least + 1)) - least) first
  | sequence es => reachAll text es starts
  | choice es => reachAny text es starts

/-- The places where a match of all expressions, one after the other, may end. -/
def reachAll (text : Array Char) (es : List Expr) (starts : Places) : Places :=
  match es with
  | [] => starts
  | e :: es => reachAll text es (reach text e starts)

/-- The places where a match of any of the expressions may end. -/
def reachAny (text : Array Char) (es : List Expr) (starts : Places) : Places :=
  match es with
  | [] => []
  | e :: es => (reach text e starts).union (reachAny text es starts)

end

/-- Whether the expression matches somewhere in the text. -/
def occursIn (e : Expr) (text : String) : Bool :=
  let chars := text.toList.toArray
  !(e.reach chars (List.range (chars.size + 1))).isEmpty

end Expr

end FeatureFlags.Pattern
