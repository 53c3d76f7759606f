import FeatureFlags.Text.Digit
import FeatureFlags.Text.Split

/-!
# Sets of characters

A set of code points as a list of ranges.  `CharSet.ofRanges` puts ranges in
increasing order and joins those that overlap or touch, so that equal sets have
equal lists.  Intersection and difference are given by union and complement.
-/

namespace FeatureFlags

/-- A set of code points. -/
structure CharSet where
  /-- The first and the last code point of each range. -/
  ranges : List (Nat × Nat)
deriving DecidableEq, Inhabited, Repr

namespace CharSet

/-- The largest code point. -/
def maxCode : Nat := 0x10FFFF

/-- Appends a range to ranges in reverse, none of which starts after it: it is joined with the
last one if it overlaps or touches that. -/
def appendRange (done : List (Nat × Nat)) (range : Nat × Nat) : List (Nat × Nat) :=
  match done with
  | (lo, hi) :: rest =>
    if range.1 ≤ hi + 1 then (lo, max hi range.2) :: rest else range :: done
  | [] => [range]

/-- The set of the code points in some ranges. -/
def ofRanges (ranges : List (Nat × Nat)) : CharSet :=
  ⟨((ranges.mergeSort fun a b => a.1 ≤ b.1).foldl appendRange []).reverse⟩

/-- The empty set. -/
def empty : CharSet := ⟨[]⟩

/-- The set of all code points. -/
def all : CharSet := ⟨[(0, maxCode)]⟩

/-- The set of one character. -/
def singleton (c : Char) : CharSet := ⟨[(c.toNat, c.toNat)]⟩

/-- The set of the code points from `lo` to `hi`. -/
def between (lo hi : Nat) : CharSet := ⟨[(lo, hi)]⟩

/-- Whether a code point is in the set. -/
def containsCode (s : CharSet) (n : Nat) : Bool := s.ranges.any fun (lo, hi) => lo ≤ n && n ≤ hi

/-- Whether a character is in the set. -/
def contains (s : CharSet) (c : Char) : Bool := s.containsCode c.toNat

/-- Whether the set is empty. -/
def isEmpty (s : CharSet) : Bool := s.ranges.isEmpty

/-- Whether all members are below `bound`. -/
def isBelow (s : CharSet) (bound : Nat) : Bool := s.ranges.all fun (_, hi) => hi < bound

/-- The only member of a set with one member. -/
def only? (s : CharSet) : Option Char :=
  match s.ranges with
  | [(lo, hi)] => if lo = hi then some (Char.ofNat lo) else none
  | _ => none

/-- The union of two sets. -/
def union (s t : CharSet) : CharSet := ofRanges (s.ranges ++ t.ranges)

/-- The union of some sets. -/
def unions (sets : List CharSet) : CharSet := ofRanges (sets.flatMap (·.ranges))

/-- The gaps between increasing ranges from `start` up to and without `stop`. -/
def gaps (stop start : Nat) : List (Nat × Nat) → List (Nat × Nat)
  | [] => if start < stop then [(start, stop - 1)] else []
  | (lo, hi) :: rest =>
    if start < lo then (start, lo - 1) :: gaps stop (hi + 1) rest else gaps stop (hi + 1) rest

/-- The code points below `bound` that are not in the set. -/
def complementBelow (s : CharSet) (bound : Nat) : CharSet := ⟨gaps bound 0 s.ranges⟩

/-- The code points that are not in the set. -/
def complement (s : CharSet) : CharSet := s.complementBelow (maxCode + 1)

/-- The intersection of two sets. -/
def inter (s t : CharSet) : CharSet := (s.complement.union t.complement).complement

/-- The members of the first set that are not in the second. -/
def diff (s t : CharSet) : CharSet := s.inter t.complement

/-- The members of just one of two sets. -/
def symmDiff (s t : CharSet) : CharSet := (s.union t).diff (s.inter t)

/-! ## Written sets -/

/-- Reads a range `lo-hi` or a single code point `lo` of hexadecimal digits. -/
def readRange? (cs : List Char) : Option (Nat × Nat) :=
  match Text.splitFirst '-' cs with
  | some (lo, hi) => do return (← Text.hexDigitsValue? lo, ← Text.hexDigitsValue? hi)
  | none => (Text.hexDigitsValue? cs).map fun n => (n, n)

/-- The set of increasing ranges with blanks between them. -/
def ofText (text : String) : CharSet := ⟨(Text.words text.toList).filterMap readRange?⟩

end CharSet

end FeatureFlags
