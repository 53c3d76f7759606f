/-!
# Double-precision numbers

The binary64 format in exact arithmetic.  The magnitudes of the finite numbers
are numbered in increasing order: magnitude 0 is zero, magnitude 1 is the
smallest subnormal number, and so on up to `Magnitude.count`.  Every magnitude
is a whole multiple of the smallest one, `2 ^ -1074` (`Magnitude.units`).

* A ratio is rounded to the nearest magnitude, a tie to the even one
  (`Magnitude.ofRatio`).
* Order and equality are those of the signed magnitude (`Finite64.order`), so the
  two zeros are equal and the order is total.
-/

namespace FeatureFlags

/-- The quotient rounded to the nearest whole number, a half to the even one. -/
def roundHalfEven (num den : Nat) : Nat :=
  let q := num / den
  let r := num % den
  if 2 * r < den then q
  else if den < 2 * r then q + 1
  else q + q % 2

namespace Magnitude

/-- The number of magnitudes between two powers of two. -/
def binade : Nat := 4503599627370496

/-- The number of finite magnitudes. -/
def count : Nat := 2047 * binade

/-- How often the spacing of the magnitudes has doubled below this one. -/
def doublings (rank : Nat) : Nat := rank / binade - 1

/-- The magnitude as a multiple of `2 ^ -1074`. -/
def units (rank : Nat) : Nat :=
  (rank - doublings rank * binade) * Nat.pow 2 (doublings rank)

/-- The number one as a multiple of `2 ^ -1074`. -/
def one : Nat := Nat.pow 2 1074

/-- The magnitude nearest to a ratio; `count` or more if it is beyond the finite ones.
The spacing is one unit up to `2 ^ 53` units and then doubles with every power of two. -/
def ofRatio (num den : Nat) : Nat :=
  let scaled := num * one
  let k := (scaled / den).log2 - 52
  k * binade + roundHalfEven scaled (den * Nat.pow 2 k)

end Magnitude

/-- A finite double-precision number: a sign and the rank of its magnitude. -/
structure Finite64 where
  negative : Bool
  rank : Nat
  rank_lt : rank < Magnitude.count
deriving DecidableEq

namespace Finite64

/-- Zero with the given sign. -/
def zero (negative : Bool) : Finite64 := ⟨negative, 0, by decide⟩

instance : Inhabited Finite64 := ⟨zero false⟩

/-- The number with this sign and magnitude, unless it is beyond the finite ones. -/
def ofRank? (negative : Bool) (rank : Nat) : Option Finite64 :=
  if h : rank < Magnitude.count then some ⟨negative, rank, h⟩ else none

/-- The number nearest to a ratio with the given sign. -/
def ofRatio? (negative : Bool) (num den : Nat) : Option Finite64 :=
  ofRank? negative (Magnitude.ofRatio num den)

/-- The number with the given sign. -/
def withSign (x : Finite64) (negative : Bool) : Finite64 := { x with negative }

/-- The signed rank.  Numbers compare as their signed ranks do. -/
def order (x : Finite64) : Int := if x.negative then -(x.rank : Int) else x.rank

/-- Numeric equality; the two zeros are equal. -/
def eq (x y : Finite64) : Bool := x.order == y.order

/-- Numeric order. -/
def lt (x y : Finite64) : Bool := x.order < y.order

/-- Numeric order or equality. -/
def le (x y : Finite64) : Bool := x.order ≤ y.order

/-- The magnitude as a multiple of `2 ^ -1074`. -/
def units (x : Finite64) : Nat := Magnitude.units x.rank

/-- The product, rounded to the nearest number, unless that is beyond the finite ones. -/
def mul? (x y : Finite64) : Option Finite64 :=
  ofRatio? (x.negative != y.negative) (x.units * y.units) (Magnitude.one * Magnitude.one)

/-- The quotient by a number other than zero, rounded to the nearest number, unless that is
beyond the finite ones. -/
def div? (x y : Finite64) : Option Finite64 :=
  ofRatio? (x.negative != y.negative) x.units y.units

end Finite64

/-- A double-precision number. -/
inductive Binary64 where
  | finite (x : Finite64)
  | infinity (negative : Bool)
  | nan
deriving DecidableEq, Inhabited

namespace Binary64

/-- The number with this sign and magnitude; a magnitude beyond the finite ones is infinite. -/
def ofRank (negative : Bool) (rank : Nat) : Binary64 :=
  match Finite64.ofRank? negative rank with
  | some x => .finite x
  | none => .infinity negative

/-- The number itself if it is finite. -/
def finite? : Binary64 → Option Finite64
  | .finite x => some x
  | _ => none

/-- The number nearest to a whole number. -/
def ofInt (n : Int) : Binary64 := ofRank (n < 0) (Magnitude.ofRatio n.natAbs 1)

end Binary64

end FeatureFlags
