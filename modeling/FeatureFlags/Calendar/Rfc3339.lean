import FeatureFlags.Calendar.Timestamp
import FeatureFlags.Json.Wire
import FeatureFlags.Text.Blank

/-!
# RFC 3339 texts

A timestamp is written in UTC with `Z` and with as few of 0, 3, 6 or 9 decimals
as lose nothing; years outside 0 to 9999 have a sign.

Reading is lenient: blanks may stand before every number and before every mark
but the one between date and time, which is `T`, `t` or a space; numbers may be
short; a year of another length than four digits needs a sign; the offset is
`Z`, `z`, `UTC` or a sign, two digits of hours and two of minutes.
-/

namespace FeatureFlags.Timestamp

/-! ## Writing -/

/-- The year with four digits or more, and a sign outside 0 to 9999. -/
def yearChars (year : Int) : List Char :=
  if 0 ≤ year ∧ year ≤ 9999 then Text.decimalPadded 4 year.toNat
  else (if year < 0 then '-' else '+') :: Text.decimalAtLeast 4 year.natAbs

/-- The decimals of the second, after a point. -/
def fractionChars (nanosecond : Nat) : List Char :=
  if nanosecond = 0 then []
  else if nanosecond % 1000000 = 0 then '.' :: Text.decimalPadded 3 (nanosecond / 1000000)
  else if nanosecond % 1000 = 0 then '.' :: Text.decimalPadded 6 (nanosecond / 1000)
  else '.' :: Text.decimalPadded 9 nanosecond

/-- The text of an instant. -/
def chars (t : Timestamp) : List Char :=
  let d := Calendar.Date.ofDays t.day
  let second := t.second % 60 + t.nanosecond / nanosPerSecond
  yearChars d.year ++ '-' :: Text.decimalPadded 2 d.month ++ '-' :: Text.decimalPadded 2 d.day
    ++ 'T' :: Text.decimalPadded 2 (t.second / 3600)
    ++ ':' :: Text.decimalPadded 2 (t.second / 60 % 60)
    ++ ':' :: Text.decimalPadded 2 second
    ++ fractionChars (t.nanosecond % nanosPerSecond) ++ ['Z']

/-- The text of an instant. -/
def text (t : Timestamp) : String := String.ofList t.chars

/-! ## Reading -/

/-- A number of at most `width` digits after blanks, and the rest of the text. -/
def readNumber? (width : Nat) (cs : List Char) : Option (Nat × List Char) :=
  let cs := Text.trimStart cs
  let ds := (cs.take width).takeWhile Char.isDigit
  if ds.isEmpty then none else some (Text.digitsValue ds, cs.drop ds.length)

/-- A year: with a sign any number of digits, and else at most four. -/
def readYear? (cs : List Char) : Option (Int × List Char) :=
  match Text.trimStart cs with
  | '-' :: rest =>
    if (rest.takeWhile Char.isDigit).isEmpty then none
    else some (-(Text.digitsValue (rest.takeWhile Char.isDigit) : Int), rest.dropWhile Char.isDigit)
  | '+' :: rest =>
    if (rest.takeWhile Char.isDigit).isEmpty then none
    else some (Text.digitsValue (rest.takeWhile Char.isDigit), rest.dropWhile Char.isDigit)
  | rest => (readNumber? 4 rest).map fun (n, rest) => (n, rest)

/-- A mark after blanks. -/
def readMark? (mark : Char) (cs : List Char) : Option (List Char) :=
  match Text.trimStart cs with
  | c :: rest => if c = mark then some rest else none
  | [] => none

/-- The decimals of the second as nanoseconds; digits after the ninth are dropped. -/
def readFraction? : List Char → Option (Nat × List Char)
  | '.' :: rest =>
    let ds := rest.takeWhile Char.isDigit
    if ds.isEmpty then none
    else some (Text.digitsValue (ds.take 9) * Nat.pow 10 (9 - (ds.take 9).length),
      rest.dropWhile Char.isDigit)
  | rest => some (0, rest)

/-- The offset from UTC in seconds. -/
def readOffset? (cs : List Char) : Option (Int × List Char) :=
  match cs with
  | 'Z' :: rest | 'z' :: rest => some (0, rest)
  | _ =>
    if Text.equalIgnoringCase (cs.take 3) "utc".toList then some (0, cs.drop 3)
    else do
      let (negative, rest) ← match cs with
        | '+' :: rest => some (false, rest)
        | '-' :: rest | '−' :: rest => some (true, rest)
        | _ => none
      let hours := rest.take 2
      if hours.length ≠ 2 ∨ !hours.all Char.isDigit then none
      let rest := (rest.drop 2).dropWhile fun c => c = ':' ∨ Text.isBlank c
      let minutes := rest.take 2
      if minutes.length ≠ 2 ∨ !minutes.all Char.isDigit ∨ 60 ≤ Text.digitsValue minutes then none
      let offset : Int := Text.digitsValue hours * 3600 + Text.digitsValue minutes * 60
      some (if negative then -offset else offset, rest.drop 2)

/-- The instant of a local date and time at an offset from UTC.  The sixtieth second is the
leap second. -/
def ofLocal? (date : Calendar.Date) (hour minute second nanosecond : Nat) (offset : Int) :
    Option Timestamp :=
  if !date.isValid ∨ 24 ≤ hour ∨ 60 ≤ minute ∨ 61 ≤ second ∨ 86400 ≤ offset.natAbs then none
  else
    let leap := second = 60
    let ofDay : Int := hour * 3600 + minute * 60 + (if leap then 59 else second) - offset
    let t : Timestamp :=
      { day := date.toDays + ofDay / 86400
        second := (ofDay % 86400).toNat
        nanosecond := if leap then nanosecond + nanosPerSecond else nanosecond }
    if t.inCalendar then some t else none

/-- Reads a timestamp. -/
def read? (cs : List Char) : Option Timestamp := do
  let (year, cs) ← readYear? cs
  let cs ← readMark? '-' cs
  let (month, cs) ← readNumber? 2 cs
  let cs ← readMark? '-' cs
  let (day, cs) ← readNumber? 2 cs
  let cs ← match cs with
    | 'T' :: rest | 't' :: rest | ' ' :: rest => some rest
    | _ => none
  let (hour, cs) ← readNumber? 2 cs
  let cs ← readMark? ':' cs
  let (minute, cs) ← readNumber? 2 cs
  let cs ← readMark? ':' cs
  let (second, cs) ← readNumber? 2 cs
  let (nanosecond, cs) ← readFraction? cs
  let (offset, cs) ← readOffset? (Text.trimStart cs)
  if !(Text.trimStart cs).isEmpty then none
  ofLocal? ⟨year, month, day⟩ hour minute second nanosecond offset

/-- Reads a timestamp. -/
def parse? (s : String) : Option Timestamp := read? s.toList

instance : Wire Timestamp where
  encode t := .string t.text
  decode?
    | .string s => parse? s
    | _ => none

end FeatureFlags.Timestamp
