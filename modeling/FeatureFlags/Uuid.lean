import FeatureFlags.Json.Wire

/-!
# Identifiers

A UUID is a number of 128 bits.  It is written as 32 lower-case hexadecimal
digits in groups of 8, 4, 4, 4 and 12 with hyphens between them.  It is read from
that form in any case, bare, in braces or after `urn:uuid:`, and from the 32
digits without hyphens.
-/

namespace FeatureFlags

/-- The number of numbers with 32 hexadecimal digits. -/
def Uuid.count : Nat := 0x100000000000000000000000000000000

/-- A number of 128 bits that identifies something. -/
structure Uuid where
  value : Nat
  value_lt : value < Uuid.count
deriving DecidableEq

namespace Uuid

instance : Inhabited Uuid := ⟨⟨0, by decide⟩⟩

/-- The identifier that 32 hexadecimal digits spell. -/
def ofDigits? (ds : List Char) : Option Uuid := do
  if ds.length ≠ 32 then none
  let n ← Text.hexDigitsValue? ds
  if h : n < count then some ⟨n, h⟩ else none

/-- Puts hyphens between the groups. -/
def hyphenate (ds : List Char) : List Char :=
  ds.take 8 ++ '-' :: (ds.drop 8).take 4 ++ '-' :: (ds.drop 12).take 4
    ++ '-' :: (ds.drop 16).take 4 ++ '-' :: ds.drop 20

/-- The identifier that the hyphenated form spells. -/
def ofHyphenated? (cs : List Char) : Option Uuid :=
  let ds := cs.take 8 ++ (cs.drop 9).take 4 ++ (cs.drop 14).take 4 ++ (cs.drop 19).take 4
    ++ cs.drop 24
  if hyphenate ds = cs then ofDigits? ds else none

/-- Reads an identifier in any of its forms. -/
def read? (cs : List Char) : Option Uuid :=
  let marker := cs.take 9
  if cs.length = 32 then ofDigits? cs
  else if cs.length = 36 then ofHyphenated? cs
  else if cs.length = 38 ∧ cs.head? = some '{' ∧ cs.getLast? = some '}' then
    ofHyphenated? ((cs.drop 1).take 36)
  else if cs.length = 45 ∧ (marker = "urn:uuid:".toList ∨ marker = "URN:UUID:".toList) then
    ofHyphenated? (cs.drop 9)
  else none

/-- Reads an identifier. -/
def parse? (s : String) : Option Uuid := read? s.toList

/-- The hyphenated form. -/
def text (u : Uuid) : String := String.ofList (hyphenate (Text.hexPadded 32 u.value))

instance : Wire Uuid where
  encode u := .string u.text
  decode?
    | .string s => parse? s
    | _ => none

end Uuid

end FeatureFlags
