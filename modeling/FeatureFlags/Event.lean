import FeatureFlags.Flag.Value

/-!
# Change events

What subscribers of a scope are told when a flag changes there: that it was updated, with
the value and the variant that it now serves by default, or that it was deleted.  A field
that an event does not have is left out on the wire.
-/

namespace FeatureFlags

/-- What happened to a flag. -/
inductive ChangeKind where
  | update
  | delete
deriving DecidableEq, Inhabited, Repr

namespace ChangeKind

/-- The name of a kind. -/
def name : ChangeKind → String
  | update => "update"
  | delete => "delete"

/-- The kinds and their names. -/
def names : List (ChangeKind × String) := [(update, "update"), (delete, "delete")]

instance : Wire ChangeKind where
  encode k := .string k.name
  decode? := Document.choose? names

end ChangeKind

/-- A change of a flag in one scope. -/
structure ChangeEvent where
  kind : ChangeKind
  flagKey : String
  value : Option FlagValue
  variant : Option String
deriving Inhabited

namespace ChangeEvent

/-- The flag or its configuration changed. -/
def updated (flagKey : String) (value : FlagValue) (variant : Option String) : ChangeEvent :=
  ⟨.update, flagKey, some value, variant⟩

/-- The flag was deleted. -/
def deleted (flagKey : String) : ChangeEvent := ⟨.delete, flagKey, none, none⟩

/-- A field that is left out if there is no value. -/
def optionalField {α : Type} [Wire α] (name : String) : Option α → List (String × Document)
  | some a => [(name, encode a)]
  | none => []

instance : Wire ChangeEvent where
  encode e := .object (
    [("type", encode e.kind), ("flag_key", encode e.flagKey)]
      ++ optionalField "value" e.value ++ optionalField "variant" e.variant)
  decode? d := do
    let [kind, flagKey, value, variant] ← d.record? [("type", .required),
      ("flag_key", .required), ("value", .defaulted), ("variant", .defaulted)] | none
    return {
      kind := ← Document.field? kind
      flagKey := ← Document.field? flagKey
      value := ← Document.fieldOr? none value
      variant := ← Document.fieldOr? none variant }

end ChangeEvent

end FeatureFlags
