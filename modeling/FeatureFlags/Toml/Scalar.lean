import FeatureFlags.Calendar.Date
import FeatureFlags.Toml.Quoted
import FeatureFlags.Toml.Value

/-!
# TOML scalars

Numbers, dates and times.  Underscores may stand between two digits.  A whole number has to
fit 64 bits with a sign, and a number with a fraction or an exponent must not round to positive
infinity.
-/

namespace FeatureFlags.Toml.Scalar

/-! ## Digits -/

/-- Reads digits with single underscores between them, and gives the digits and the rest; none if
there is no digit, or an underscore does not stand between two. -/
def readDigits? (isDigit : Char → Bool) : List Char → Option (List Char × List Char)
  | [] => none
  | c :: rest =>
    if !isDigit c then none
    else match rest with
      | '_' :: d :: more =>
        if isDigit d then (readDigits? isDigit (d :: more)).map fun (ds, rest) => (c :: ds, rest)
        else none
      | ['_'] => none
      | d :: more =>
        if isDigit d then (readDigits? isDigit (d :: more)).map fun (ds, rest) => (c :: ds, rest)
        else some ([c], rest)
      | [] => some ([c], [])

/-- Takes a fixed number of decimal digits. -/
def takeNumber? (width : Nat) (cs : List Char) : Option (Nat × List Char) :=
  let ds := cs.take width
  if ds.length = width ∧ ds.all Char.isDigit then some (Text.digitsValue ds, cs.drop width)
  else none

/-! ## Dates and times -/

/-- What trying to read a form of scalar comes to. -/
inductive Attempt where
  /-- The text is not of this form. -/
  | other
  /-- The text starts like this form and then goes wrong. -/
  | wrong
  | value (v : Value) (rest : List Char)

/-- Reads the decimals of a second, if there are any. -/
def skipFraction : List Char → List Char
  | '.' :: c :: rest => if c.isDigit then rest.dropWhile Char.isDigit else '.' :: c :: rest
  | cs => cs

/-- Reads a time of day; the hour and the colon tell that it is one. -/
def readTime (cs : List Char) : Attempt :=
  match takeNumber? 2 cs with
  | some (hour, ':' :: rest) =>
    match takeNumber? 2 rest with
    | some (minute, ':' :: rest) =>
      match takeNumber? 2 rest with
      | some (second, rest) =>
        if hour < 24 ∧ minute < 60 ∧ second ≤ 60 then .value .dateTime (skipFraction rest)
        else .wrong
      | none => .wrong
    | _ => .wrong
  | _ => .other

/-- Reads an offset from UTC, if there is one. -/
def readOffset? (cs : List Char) : Option (List Char) :=
  match cs with
  | 'Z' :: rest | 'z' :: rest => some rest
  | sign :: rest =>
    if sign = '+' ∨ sign = '-' then do
      let (hour, rest) ← takeNumber? 2 rest
      let rest ← match rest with
        | ':' :: rest => some rest
        | _ => none
      let (minute, rest) ← takeNumber? 2 rest
      if hour < 24 ∧ minute < 60 then some rest else none
    else some cs
  | [] => some []

/-- Reads what may follow a date: a time of day and an offset. -/
def afterDate (cs : List Char) : Attempt :=
  match cs with
  | c :: rest =>
    if c = 'T' ∨ c = 't' ∨ c = ' ' then
      match readTime rest with
      | .value v rest =>
        match readOffset? rest with
        | some rest => .value v rest
        | none => .wrong
      | .wrong => .wrong
      | .other => .value .dateTime cs
    else .value .dateTime cs
  | [] => .value .dateTime []

/-- Reads a date, with or without a time; the year and the hyphen tell that it is one. -/
def readDate (cs : List Char) : Attempt :=
  match takeNumber? 4 cs with
  | some (year, '-' :: rest) =>
    match takeNumber? 2 rest with
    | some (month, '-' :: rest) =>
      match takeNumber? 2 rest with
      | some (day, rest) =>
        if 1 ≤ month ∧ month ≤ 12 ∧ 1 ≤ day ∧ day ≤ Calendar.daysInMonth year month then
          afterDate rest
        else .wrong
      | none => .wrong
    | _ => .wrong
  | _ => .other

/-! ## Numbers -/

/-- The range of whole numbers. -/
def fits (n : Int) : Bool := -9223372036854775808 ≤ n ∧ n < 9223372036854775808

/-- Reads the digits of a whole number in another base than ten. -/
def readBase? (base : Nat) (cs : List Char) : Option (Value × List Char) := do
  let (ds, rest) ← readDigits? (fun c => (Text.hexValue? c).any (· < base)) cs
  let n : Nat := ds.foldl (fun n d => n * base + (Text.hexValue? d).getD 0) 0
  if fits n then some (.integer n, rest) else none

/-- Reads the whole part of a number: a zero, or digits that do not start with one. -/
def readWhole? : List Char → Option (List Char × List Char)
  | '0' :: rest => some (['0'], rest)
  | cs => readDigits? Char.isDigit cs

/-- Reads an exponent, if there is one. -/
def readExponent? (cs : List Char) : Option (Option Int × List Char) :=
  match cs with
  | c :: rest =>
    if c = 'e' ∨ c = 'E' then do
      let (negative, rest) := Binary64.readSign rest
      let (ds, rest) ← readDigits? Char.isDigit rest
      let n : Int := Text.digitsValue ds
      return (some (if negative then -n else n), rest)
    else some (none, cs)
  | [] => some (none, [])

/-- Reads a number in base ten. -/
def readDecimal? (cs : List Char) : Option (Value × List Char) := do
  let (negative, rest) := Binary64.readSign cs
  let (whole, rest) ← readWhole? rest
  let (fraction, rest) ← match rest with
    | '.' :: rest => readDigits? Char.isDigit rest
    | rest => some ([], rest)
  let (exponent, rest) ← readExponent? rest
  if fraction.isEmpty ∧ exponent.isNone then
    let n : Int := Text.digitsValue whole
    let n := if negative then -n else n
    if fits n then some (.integer n, rest) else none
  else
    let x := Binary64.ofDecimal {
      negative
      coefficient := Text.digitsValue (whole ++ fraction)
      exponent := exponent.getD 0 - fraction.length }
    if x = .infinity false then none else some (.float x, rest)

/-- Reads infinity or not-a-number. -/
def readSpecial? (cs : List Char) : Option (Value × List Char) :=
  let (negative, rest) := Binary64.readSign cs
  if "inf".toList.isPrefixOf rest then some (.float (.infinity negative), rest.drop 3)
  else if "nan".toList.isPrefixOf rest then some (.float .nan, rest.drop 3)
  else none

/-- Reads a number. -/
def readNumber? (cs : List Char) : Option (Value × List Char) :=
  match cs with
  | '0' :: 'x' :: rest => readBase? 16 rest
  | '0' :: 'o' :: rest => readBase? 8 rest
  | '0' :: 'b' :: rest => readBase? 2 rest
  | _ => (readSpecial? cs).orElse fun _ => readDecimal? cs

/-- Reads a number, a date or a time. -/
def readNumeric? (cs : List Char) : Option (Value × List Char) :=
  match readDate cs with
  | .value v rest => some (v, rest)
  | .wrong => none
  | .other =>
    match readTime cs with
    | .value v rest => some (v, rest)
    | .wrong => none
    | .other => readNumber? cs

/-- Reads a scalar. -/
def read? (cs : List Char) : Option (Value × List Char) :=
  match cs with
  | '"' :: _ | '\'' :: _ =>
    (Quoted.read? cs).map fun (s, rest) => (.string (String.ofList s), rest)
  | _ =>
    if "true".toList.isPrefixOf cs then some (.boolean true, cs.drop 4)
    else if "false".toList.isPrefixOf cs then some (.boolean false, cs.drop 5)
    else readNumeric? cs

end FeatureFlags.Toml.Scalar
