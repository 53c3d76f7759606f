import FeatureFlags.Json.Reader
import FeatureFlags.Json.Writer

/-!
# Wire formats

`Wire` pairs the two directions of a wire format: the document that spells a
value, and the value that a document spells, if it does.

A record is spelt as an object whose fields stand in a fixed order.  It is also
read from an array that holds the fields in that order (`Document.record?`):

* fields with other names are skipped, and no field may be written twice;
* an object may leave out the fields that have a default and those that may be
  null; an array may leave out only fields with a default, at its end.

A choice between names is spelt as the name, and is also read from an object
with that one name and the value null (`Document.choice?`).

Some values can be spelt in more than one order, as what is held in a map without
an order.  `Wire.encode` gives one of the spellings, and `Wire.canonical` the one with
sorted keys, which such values are compared by.
-/

namespace FeatureFlags

/-- A type with a wire format. -/
class Wire (α : Type) where
  /-- The document that spells a value. -/
  encode : α → Document
  /-- The value that a document spells. -/
  decode? : Document → Option α
  /-- The document by which values are told apart.  It is another one than that which spells the
  value only if there are several spellings. -/
  canonical : α → Document := encode

export Wire (encode decode?)

/-! ## Plain values -/

instance : Wire Bool where
  encode := .bool
  decode?
    | .bool b => some b
    | _ => none

instance : Wire String where
  encode := .string
  decode?
    | .string s => some s
    | _ => none

/-- A double is also read from a whole number.  Infinities and not-a-number are written as null,
which is not read as a double. -/
instance : Wire Binary64 where
  encode
    | .finite x => .number (.float x)
    | _ => .null
  decode?
    | .number n => some (.finite n.toFinite)
    | _ => none

instance : Wire Json where
  encode := Json.toDocument
  decode? := Document.toJson?

/-- A whole number below a bound. -/
def Document.natBelow? (bound : Nat) : Document → Option Nat
  | .number (.integer (.ofNat n)) => if n < bound then some n else none
  | _ => none

/-- The document of a whole number. -/
def Document.nat (n : Nat) : Document := .number (.integer n)

instance : Wire UInt8 where
  encode n := .nat n.toNat
  decode? d := (d.natBelow? UInt8.size).map UInt8.ofNat

/-- Counters are whole numbers of 64 bits. -/
instance : Wire Nat where
  encode := Document.nat
  decode? := Document.natBelow? UInt64.size

instance {α : Type} [Wire α] : Wire (Option α) where
  encode
    | some a => encode a
    | none => .null
  decode?
    | .null => some none
    | d => (decode? d).map some

instance {α : Type} [Wire α] : Wire (List α) where
  encode as := .array (as.map encode)
  decode?
    | .array ds => ds.mapM decode?
    | _ => none

/-- Maps from names; the last of repeated fields counts. -/
instance {α : Type} [Wire α] : Wire (Table String α) where
  encode t := .object (t.entries.map fun (k, a) => (k, encode a))
  decode?
    | .object fields =>
      (fields.mapM fun (f : String × Document) => (decode? f.2).map (f.1, ·)).map Table.ofList
    | _ => none

namespace Document

/-! ## Records -/

/-- When a field of a record may be left out. -/
inductive Presence where
  /-- Never. -/
  | required
  /-- In an object, and then it is null. -/
  | nullable
  /-- In an object and at the end of an array. -/
  | defaulted
deriving DecidableEq

/-- The name of a field and when it may be left out. -/
abbrev Layout := List (String × Presence)

/-- The fields of an object in the order of the layout; none for a field that is left out. -/
def objectSlots? (fields : List (String × Document)) : Layout → Option (List (Option Document))
  | [] => some []
  | (name, presence) :: layout => do
    let slot ← match fields.filter (·.1 = name) with
      | [] => if presence = .required then none else some none
      | [(_, d)] => some (some d)
      | _ => none
    return slot :: (← objectSlots? fields layout)

/-- The fields of an array in the order of the layout; none for a field that is left out. -/
def arraySlots? : List Document → Layout → Option (List (Option Document))
  | [], [] => some []
  | [], (_, .defaulted) :: layout => (arraySlots? [] layout).map (none :: ·)
  | [], _ :: _ => none
  | _ :: _, [] => none
  | d :: ds, _ :: layout => (arraySlots? ds layout).map (some d :: ·)

/-- The fields of a record in the order of its layout. -/
def record? (layout : Layout) : Document → Option (List (Option Document))
  | .object fields => objectSlots? fields layout
  | .array items => arraySlots? items layout
  | _ => none

/-- Decodes a field that must be there. -/
def field? {α : Type} [Wire α] : Option Document → Option α
  | some d => decode? d
  | none => none

/-- Decodes a field with a default. -/
def fieldOr? {α : Type} [Wire α] (default : α) : Option Document → Option α
  | some d => decode? d
  | none => some default

/-! ## Choices -/

/-- The name that the document chooses. -/
def choice? : Document → Option String
  | .string s => some s
  | .object [(s, .null)] => some s
  | _ => none

/-- The first value whose name the document chooses. -/
def choose? {α : Type} (names : List (α × String)) (d : Document) : Option α := do
  let s ← d.choice?
  (← names.find? (·.2 = s)).1

end Document

namespace Wire

/-- The JSON text of a value; with sorted keys if it can be spelt in more than one order. -/
def text {α : Type} [Wire α] (a : α) : String := (canonical a).text

/-- Reads a value from a JSON text. -/
def parse? {α : Type} [Wire α] (s : String) : Option α := Document.parse? s >>= decode?

/-- Reads a value from a JSON value. -/
def ofJson? {α : Type} [Wire α] (v : Json) : Option α := decode? v.toDocument

end Wire

end FeatureFlags
