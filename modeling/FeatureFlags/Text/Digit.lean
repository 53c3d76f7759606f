/-!
# Digits

Decimal and hexadecimal digits as numbers, and runs of them.  All digits are
ASCII characters.
-/

namespace FeatureFlags.Text

/-- The value of a decimal digit. -/
def digitValue (c : Char) : Nat := c.toNat - 48

/-- The number that a run of decimal digits spells after `start`. -/
def digitsValueFrom (start : Nat) (ds : List Char) : Nat :=
  ds.foldl (fun n d => n * 10 + digitValue d) start

/-- The number that a run of decimal digits spells. -/
def digitsValue (ds : List Char) : Nat := digitsValueFrom 0 ds

/-- The value of a hexadecimal digit of either case. -/
def hexValue? (c : Char) : Option Nat :=
  if c.isDigit then some (c.toNat - 48)
  else if 'a' ≤ c ∧ c ≤ 'f' then some (c.toNat - 87)
  else if 'A' ≤ c ∧ c ≤ 'F' then some (c.toNat - 55)
  else none

/-- The number that a run of hexadecimal digits spells; none if one is no digit. -/
def hexDigitsValue? (ds : List Char) : Option Nat :=
  ds.foldlM (fun n d => (hexValue? d).map (n * 16 + ·)) 0

/-- The lower-case hexadecimal digit of a value below sixteen. -/
def hexDigit (n : Nat) : Char :=
  if n < 10 then Char.ofNat (48 + n) else Char.ofNat (87 + n)

/-- The last `width` hexadecimal digits of a number. -/
def hexPadded (width n : Nat) : List Char :=
  match width with
  | 0 => []
  | w + 1 => hexPadded w (n / 16) ++ [hexDigit (n % 16)]

/-- The last `width` decimal digits of a number. -/
def decimalPadded (width n : Nat) : List Char :=
  match width with
  | 0 => []
  | w + 1 => decimalPadded w (n / 10) ++ [Char.ofNat (48 + n % 10)]

/-- The decimal digits of a number, padded with zeros on the left to a width. -/
def decimalAtLeast (width n : Nat) : List Char :=
  let ds := n.repr.toList
  List.replicate (width - ds.length) '0' ++ ds

/-- Whether two texts are equal up to the case of ASCII letters. -/
def equalIgnoringCase (a b : List Char) : Bool :=
  a.map Char.toLower == b.map Char.toLower

end FeatureFlags.Text
