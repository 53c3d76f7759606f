import FeatureFlags.Binary64.Decimal

/-!
# The shortest decimal that reads back

`Finite64.shortest` finds, for a number other than zero, the decimal with the
fewest digits that rounds to it, and of those the nearest.  On the grid of
decimals with a given number of digits only the two neighbours of the number
matter: if any decimal of the grid rounds to it, one of these does.

`Finite64.text` writes the decimal: positional notation for magnitudes from
`10 ^ -5` up to `10 ^ 16`, always with a point, and otherwise scientific notation with a
signed exponent.
-/

namespace FeatureFlags

namespace Decimal

/-- The same number without zeros at the end of its coefficient. -/
def normalize (d : Decimal) : Decimal :=
  let ds := d.coefficient.repr.toList.reverse
  let zeros := (ds.takeWhile (· = '0')).length
  if d.coefficient = 0 then d
  else { d with coefficient := d.coefficient / Nat.pow 10 zeros, exponent := d.exponent + zeros }

end Decimal

namespace Finite64

/-- The power of ten of the leading digit of a number other than zero.  Scaled by `10 ^ 400`
every magnitude is above one, and the scaling adds 400 to the power. -/
def leading (x : Finite64) : Int :=
  (Decimal.digitCount (x.units * Nat.pow 10 400 / Magnitude.one) : Int) - 401

/-- The two neighbours of the magnitude among the multiples of `10 ^ place`, the nearer one
first; of two equally near ones the even one first. -/
def neighbours (x : Finite64) (place : Int) : Nat × Nat :=
  let (num, den) := match place with
    | .ofNat e => (x.units, Magnitude.one * Nat.pow 10 e)
    | .negSucc e => (x.units * Nat.pow 10 (e + 1), Magnitude.one)
  let below := num / den
  if roundHalfEven num den = below then (below, below + 1) else (below + 1, below)

/-- A multiple of `10 ^ place` that rounds to the number, the nearest if there are two. -/
def decimalAt? (x : Finite64) (place : Int) : Option Decimal :=
  let (near, far) := x.neighbours place
  [near, far].findSome? fun c =>
    let d : Decimal := ⟨x.negative, c, place⟩
    if d.rank = x.rank then some d.normalize else none

/-- The number as a decimal without any rounding. -/
def exactDecimal (x : Finite64) : Decimal :=
  Decimal.normalize ⟨x.negative, x.units * Nat.pow 5 1074, -1074⟩

/-- The shortest decimal that rounds to the number.  Seventeen digits always suffice. -/
def shortest (x : Finite64) : Decimal :=
  let leading := x.leading
  let found := (List.range 17).findSome? fun (digits : Nat) => x.decimalAt? (leading - digits)
  found.getD x.exactDecimal

/-- Digits with a point after the first `whole` of them; zeros fill the places that have no
digit, and a zero stands on each side of the point where there would be nothing. -/
def positional (ds : List Char) (whole : Int) : List Char :=
  if whole ≤ 0 then
    "0.".toList ++ List.replicate whole.natAbs '0' ++ ds
  else
    let n := whole.toNat
    let before := ds.take n ++ List.replicate (n - ds.length) '0'
    let after := ds.drop n
    before ++ '.' :: (if after.isEmpty then ['0'] else after)

/-- One digit, the others after a point, and the exponent with its sign. -/
def scientific (ds : List Char) (exponent : Int) : List Char :=
  let mantissa := match ds with
    | d :: rest => if rest.isEmpty then [d] else d :: '.' :: rest
    | [] => []
  mantissa ++ 'e' :: (if exponent < 0 then '-' else '+') :: exponent.natAbs.repr.toList

/-- The text of a finite number. -/
def chars (x : Finite64) : List Char :=
  let sign := if x.negative then ['-'] else []
  if x.rank = 0 then sign ++ "0.0".toList
  else
    let d := x.shortest
    let ds := d.coefficient.repr.toList
    let leading := d.leading
    sign ++ if -5 ≤ leading ∧ leading < 16 then positional ds (leading + 1)
      else scientific ds leading

/-- The text of a finite number. -/
def text (x : Finite64) : String := String.ofList x.chars

end Finite64

end FeatureFlags
