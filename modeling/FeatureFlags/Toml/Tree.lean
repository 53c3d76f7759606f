import FeatureFlags.Toml.Value

/-!
# Growing tables

The tables of a TOML document while it is read.  A table is implicit until its header is met,
and dotted if a key with dots made it; a value that is written out whole, tables in braces
included, cannot be added to.

* `Node.addKey?` puts a value under a key with dots.
* `Node.openTable?` and `Node.openItem?` do what the header of a table and the header of an item
  of an array of tables say.
-/

namespace FeatureFlags.Toml

/-- A part of a document that may still grow. -/
inductive Node where
  /-- A value that is written out whole. -/
  | value (v : Value)
  | table (implicit dotted : Bool) (fields : List (String × Node))
  /-- An array of tables, the last of which may still grow. -/
  | tables (items : List (List (String × Node)))
deriving Inhabited

namespace Node

/-- The fields of a table. -/
abbrev Fields := List (String × Node)

/-- Replaces a field or appends it. -/
def setField (fields : Fields) (key : String) (n : Node) : Fields :=
  if (fields.lookup key).isSome then
    fields.map fun f => if f.1 = key then (key, n) else f
  else fields ++ [(key, n)]

/-- Changes the table at the end of a path, which is made if need be.  The change is told whether
the table is dotted.  A key with dots does not lead into tables that have a header. -/
def update? (byKey : Bool) (change : Bool → Fields → Option Fields) (path : List String)
    (dotted : Bool) (fields : Fields) : Option Fields :=
  match path with
  | [] => change dotted fields
  | key :: path =>
    match fields.lookup key with
    | none => do
      let inner ← update? byKey change path byKey []
      return setField fields key (.table true byKey inner)
    | some (.value _) => none
    | some (.table implicit dotted inner) =>
      if byKey ∧ !implicit then none
      else do
        let inner ← update? byKey change path dotted inner
        return setField fields key (.table implicit dotted inner)
    | some (.tables items) => do
      let inner ← update? byKey change path false (items.getLast?.getD [])
      return setField fields key (.tables (items.dropLast ++ [inner]))

/-- Splits a path into the table that it leads to and the last key. -/
def splitPath (path : List String) : List String × String :=
  (path.dropLast, path.getLast?.getD "")

/-- Puts a value under a key with dots.  No key is written twice, and a table that the key leads
to is one that was made by keys with dots. -/
def addKey? (path : List String) (v : Node) (fields : Fields) : Option Fields :=
  let (outer, key) := splitPath path
  update? true (fun dotted inner =>
    if dotted = outer.isEmpty then none
    else if (inner.lookup key).isSome then none
    else some (inner ++ [(key, v)])) outer false fields

/-- The header of a table: the table is new, or implicit and not made by keys with dots. -/
def openTable? (path : List String) (fields : Fields) : Option Fields :=
  let (outer, key) := splitPath path
  update? false (fun _ inner =>
    match inner.lookup key with
    | none => some (inner ++ [(key, .table false false [])])
    | some (.table true false own) => some (setField inner key (.table false false own))
    | some _ => none) outer false fields

/-- The header of an item of an array of tables. -/
def openItem? (path : List String) (fields : Fields) : Option Fields :=
  let (outer, key) := splitPath path
  update? false (fun _ inner =>
    match inner.lookup key with
    | none => some (inner ++ [(key, .tables [[]])])
    | some (.tables items) => some (setField inner key (.tables (items ++ [[]])))
    | some _ => none) outer false fields

mutual

/-- The value of a part of a document. -/
def toValue : Node → Value
  | value v => v
  | table _ _ fields => .table (fieldsToValues fields)
  | tables items => .array (itemsToValues items)

/-- The values of fields. -/
def fieldsToValues : List (String × Node) → List (String × Value)
  | [] => []
  | (key, n) :: rest => (key, toValue n) :: fieldsToValues rest

/-- The values of tables. -/
def itemsToValues : List (List (String × Node)) → List Value
  | [] => []
  | fields :: rest => .table (fieldsToValues fields) :: itemsToValues rest

end

end Node

end FeatureFlags.Toml
