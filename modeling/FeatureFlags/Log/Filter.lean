import FeatureFlags.Log.Line
import FeatureFlags.Text.Blank
import FeatureFlags.Text.Split
import FeatureFlags.Unicode.Property

/-!
# Log filters

A filter is a list of directives with commas between them.  A directive is a level, a part of the
server, or both with an equals sign between them: it lets lines of the part through up to the
level.  A part stands for all whose names start with its name.  For each line the directive with
the longest name counts.

A directive may also name a span in brackets; such a directive lets no line through here, since
no line is reported by its span alone.
-/

namespace FeatureFlags.Log

/-- Which lines of a part of the server to let through. -/
structure Directive where
  /-- The start of the names of parts; all parts if there is none. -/
  target : Option String
  /-- The largest rank of a level to let through; zero for no lines. -/
  rank : Nat
  /-- Whether the directive is about spans. -/
  onSpans : Bool
deriving DecidableEq, Inhabited, Repr

namespace Directive

/-- The levels by their names. -/
def levelNames : List (String × Nat) :=
  [("", 1), ("off", 0), ("error", 1), ("warn", 2), ("info", 3), ("debug", 4), ("trace", 5)]

/-- The rank of the level with a number or a name. -/
def rank? (cs : List Char) : Option Nat :=
  let ds := match cs with
    | '+' :: rest => rest
    | cs => cs
  let n := Text.digitsValue ds
  if !ds.isEmpty ∧ ds.all Char.isDigit ∧ n ≤ 5 then some n
  else levelNames.lookup (String.ofList (cs.map Char.toLower))

/-- The largest rank. -/
def allRanks : Nat := 5

/-- Reads a level, which is all of them if nothing is written. -/
def readRank? (cs : List Char) : Option Nat := if cs.isEmpty then some allRanks else rank? cs

/-- Whether a character may start a directive. -/
def isStart (c : Char) : Bool :=
  c == '-' || c == ':' || c == '_' || Unicode.alphanumeric.contains c

/-- Reads what follows the bracket of a span: fields in braces, the closing bracket and a level. -/
def readSpan? (target : Option String) (cs : List Char) : Option Directive := do
  let inside := cs.takeWhile (· ≠ ']')
  if cs.length = inside.length then none
  let rank ← match cs.drop (inside.length + 1) with
    | [] => some allRanks
    | '=' :: level => readRank? level
    | _ => none
  return ⟨target, rank, true⟩

/-- Reads a directive.  Blanks around it are no part of its start and do belong to its names, so
a level has none around it. -/
def read? (cs : List Char) : Option Directive :=
  match Text.trim cs with
  | [] => none
  | '[' :: rest => readSpan? none rest
  | start :: _ =>
    let name := cs.takeWhile fun c => c ≠ '=' ∧ c ≠ '['
    let target := some (String.ofList name)
    if !isStart start then none
    else
      match cs.drop name.length with
      | '=' :: level =>
        if cs.head? = some start then (readRank? level).map (⟨target, ·, false⟩) else none
      | '[' :: span => readSpan? target span
      | _ =>
        match rank? cs with
        | some rank => some ⟨none, rank, false⟩
        | none => some ⟨target, allRanks, false⟩

/-- Whether a directive is about a part of the server. -/
def covers (d : Directive) (target : String) : Bool :=
  !d.onSpans && d.target.all fun start => start.toList.isPrefixOf target.toList

/-- How specific a directive is: it counts before those that are less so. -/
def weight (d : Directive) : Nat :=
  match d.target with
  | none => 0
  | some start => start.utf8ByteSize + 1

end Directive

/-- Which lines to let through. -/
structure Filter where
  directives : List Directive

namespace Filter

/-- The directive that counts for a part of the server: the most specific one, and of equal ones
the last. -/
def deciding? (f : Filter) (target : String) : Option Directive :=
  (f.directives.filter (·.covers target)).foldl (fun best d =>
    match best with
    | none => some d
    | some b => if b.weight ≤ d.weight then some d else some b) none

/-- Whether a line is let through. -/
def allows (f : Filter) (l : Line) : Bool :=
  (f.deciding? l.target).any fun d => l.level.rank ≤ d.rank

/-- The filter with the given directives; without any, only errors are let through. -/
def ofDirectives (directives : List Directive) : Filter :=
  ⟨if directives.isEmpty then [⟨none, 1, false⟩] else directives⟩

/-- The texts of the directives of a filter. -/
def parts (text : String) : List (List Char) :=
  (Text.splitAll ',' text.toList).filter (!·.isEmpty)

/-- Reads a filter; one directive that is not well formed spoils it. -/
def parse? (text : String) : Option Filter :=
  ((parts text).mapM Directive.read?).map ofDirectives

/-- Reads a filter, and passes over directives that are not well formed. -/
def ofText (text : String) : Filter := ofDirectives ((parts text).filterMap Directive.read?)

end Filter

end FeatureFlags.Log
