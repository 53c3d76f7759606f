import FeatureFlags.Json.Basic

/-!
# Numerals

The number texts of JSON and the numbers they stand for.  A numeral without
fraction and exponent is a whole number if it fits 64 bits.  Any other numeral is
a double in two roundings: the leading digits that fit an unsigned word of 64 bits
are rounded to a double (`significand`), and that is multiplied or divided by
the power of ten that is left, in steps of at most `10 ^ 308` (`scale?`).
-/

namespace FeatureFlags.Json

/-- A number text, cut into its parts. -/
structure Numeral where
  negative : Bool
  /-- The digits before the point. -/
  whole : List Char
  /-- The digits after the point, if there is one. -/
  fraction : Option (List Char)
  /-- The sign and the digits of the exponent, if there is one. -/
  exponent : Option (Bool × List Char)
deriving DecidableEq, Inhabited

namespace Numeral

/-! ## Reading the parts -/

/-- The exponent part, which ends the text. -/
def readExponent? : List Char → Option (Option (Bool × List Char))
  | [] => some none
  | c :: rest =>
    if c = 'e' ∨ c = 'E' then
      let (negative, ds) := Binary64.readSign rest
      if ds.isEmpty ∨ !ds.all Char.isDigit then none else some (some (negative, ds))
    else none

/-- Cuts a number text into its parts: no needless leading zero, and digits on both sides
of the point. -/
def read? (cs : List Char) : Option Numeral :=
  let (negative, cs) := match cs with
    | '-' :: rest => (true, rest)
    | cs => (false, cs)
  let whole := cs.takeWhile Char.isDigit
  let rest := cs.dropWhile Char.isDigit
  if whole.isEmpty ∨ (whole.head? = some '0' ∧ whole.length ≠ 1) then none
  else match rest with
    | '.' :: rest =>
      let fraction := rest.takeWhile Char.isDigit
      if fraction.isEmpty then none
      else (readExponent? (rest.dropWhile Char.isDigit)).map fun exponent =>
        { negative, whole, fraction := some fraction, exponent }
    | rest => (readExponent? rest).map fun exponent =>
        { negative, whole, fraction := none, exponent }

/-! ## Values -/

/-- Appends digits to a number as long as it fits an unsigned word of 64 bits, and gives the
digits that are left. -/
def appendDigits (n : Nat) : List Char → Nat × List Char
  | [] => (n, [])
  | d :: ds =>
    let n' := n * 10 + Text.digitValue d
    if n' < UInt64.size then appendDigits n' ds else (n, d :: ds)

/-- The leading digits that fit 64 bits, and the power of ten that they are to be scaled by. -/
def significand (m : Numeral) : Nat × Int :=
  let (n, dropped) := appendDigits 0 m.whole
  let fraction := m.fraction.getD []
  let (n, ignored) := appendDigits n fraction
  (n, (dropped.length : Int) - (fraction.length - ignored.length : Nat))

/-- The double nearest to a power of ten up to the 308th. -/
def powerOfTen (e : Nat) : Finite64 := (Finite64.ofRatio? false (Nat.pow 10 e) 1).getD default

/-- Divides by a power of ten, in steps of at most `10 ^ 308`. -/
def scaleDown (x : Finite64) (e : Nat) : Finite64 :=
  if e ≤ 308 then (x.div? (powerOfTen e)).getD default
  else if x.rank = 0 then x
  else scaleDown ((x.div? (powerOfTen 308)).getD default) (e - 308)
termination_by e

/-- Scales by a power of ten; none if the result is beyond the finite numbers. -/
def scale? (x : Finite64) (e : Int) : Option Finite64 :=
  if e < 0 then some (scaleDown x e.natAbs)
  else if e ≤ 308 then x.mul? (powerOfTen e.toNat)
  else if x.rank = 0 then some x
  else none

/-- The largest exponent of an exponent part; a larger one is out of range at once. -/
def maxExponent : Nat := 2147483647

/-- The numeral as a double; none if it is beyond the finite numbers. -/
def float? (m : Numeral) : Option Finite64 :=
  let (n, e) := m.significand
  let x := (Finite64.ofRatio? false n 1).getD default
  let scaled := match m.exponent with
    | none => scale? x e
    | some (negative, ds) =>
      let written := Text.digitsValue ds
      if written ≤ maxExponent then
        let total := if negative then e - written else e + written
        scale? x (max (-maxExponent - 1) (min maxExponent total))
      else if n ≠ 0 ∧ !negative then none
      else some (.zero false)
  scaled.map (·.withSign m.negative)

/-- The number that the numeral stands for.  Minus zero is a double. -/
def value? (m : Numeral) : Option Number :=
  let n : Int := Text.digitsValue m.whole
  let n := if m.negative then -n else n
  if m.fraction.isNone ∧ m.exponent.isNone ∧ Number.fitsInteger n ∧ !(m.negative ∧ n = 0) then
    some (.integer n)
  else m.float?.map .float

end Numeral

end FeatureFlags.Json
