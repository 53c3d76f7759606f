import FeatureFlags.Binary64.Basic
import FeatureFlags.Text.Digit

/-!
# Reading decimal numbers

A decimal number is a signed coefficient times a power of ten.  `ofDecimal`
rounds it once, to the nearest double.  `read?` reads the texts that spell a
double: digits with an optional point and exponent, or the words for infinity
and not-a-number in any case.
-/

namespace FeatureFlags

/-- The number `coefficient * 10 ^ exponent` with a sign. -/
structure Decimal where
  negative : Bool
  coefficient : Nat
  exponent : Int
deriving DecidableEq, Repr, Inhabited

namespace Decimal

/-- How many digits a number other than zero has. -/
def digitCount (n : Nat) : Nat := n.repr.length

/-- The power of ten of the leading digit. -/
def leading (d : Decimal) : Int := d.exponent + digitCount d.coefficient - 1

/-- The magnitude nearest to the decimal number. -/
def rank (d : Decimal) : Nat :=
  match d.exponent with
  | .ofNat e => Magnitude.ofRatio (d.coefficient * Nat.pow 10 e) 1
  | .negSucc e => Magnitude.ofRatio d.coefficient (Nat.pow 10 (e + 1))

end Decimal

namespace Binary64

/-- The double nearest to a decimal number.  A leading digit above the 309th place is
beyond the finite numbers, and one below the 330th decimal is next to zero, so in both cases
the power of ten need not be computed. -/
def ofDecimal (d : Decimal) : Binary64 :=
  if d.coefficient = 0 then .finite (.zero d.negative)
  else if 309 < d.leading then .infinity d.negative
  else if d.leading < -330 then .finite (.zero d.negative)
  else ofRank d.negative d.rank

/-- An optional sign; `true` for a minus. -/
def readSign : List Char → Bool × List Char
  | '-' :: rest => (true, rest)
  | '+' :: rest => (false, rest)
  | rest => (false, rest)

/-- An exponent at the end of the text: `e` or `E`, a sign and digits. -/
def readExponent? : List Char → Option Int
  | [] => some 0
  | c :: rest =>
    if c = 'e' ∨ c = 'E' then
      let (negative, ds) := readSign rest
      if ds.isEmpty ∨ !ds.all Char.isDigit then none
      else
        let n := Text.digitsValue ds
        some (if negative then -(n : Int) else n)
    else none

/-- Digits with an optional point among them, and an optional exponent. -/
def readDecimal? (negative : Bool) (cs : List Char) : Option Decimal :=
  let whole := cs.takeWhile Char.isDigit
  let rest := cs.dropWhile Char.isDigit
  let (fraction, rest) := match rest with
    | '.' :: rest => (rest.takeWhile Char.isDigit, rest.dropWhile Char.isDigit)
    | rest => ([], rest)
  if whole.isEmpty ∧ fraction.isEmpty then none
  else (readExponent? rest).map fun e =>
    { negative, coefficient := Text.digitsValue (whole ++ fraction),
      exponent := e - fraction.length }

/-- Reads a text that spells a double. -/
def read? (cs : List Char) : Option Binary64 :=
  let (negative, rest) := readSign cs
  let word := rest.map Char.toLower
  if word = "inf".toList ∨ word = "infinity".toList then some (.infinity negative)
  else if word = "nan".toList then some .nan
  else (readDecimal? negative rest).map ofDecimal

end Binary64

end FeatureFlags
