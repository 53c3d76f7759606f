import FeatureFlags.Calendar.Rfc3339
import FeatureFlags.Flag.Id
import FeatureFlags.Flag.Value

/-!
# Flags

A flag of a project: what it is called, the type of its values, and the value that it
serves whenever nothing more specific applies.  How it behaves in an environment is a
configuration of its own.
-/

namespace FeatureFlags

/-- Where a flag is in its life. -/
inductive FlagStatus where
  | active
  | potentiallyStale
  | stale
  /-- Serves its default value and nothing else. -/
  | archived
deriving DecidableEq, Inhabited, Repr

namespace FlagStatus

/-- The statuses and their names. -/
def names : List (FlagStatus × String) :=
  [(active, "active"), (potentiallyStale, "potentially_stale"), (stale, "stale"),
    (archived, "archived")]

/-- The name of a status. -/
def name : FlagStatus → String
  | active => "active"
  | potentiallyStale => "potentially_stale"
  | stale => "stale"
  | archived => "archived"

instance : Wire FlagStatus where
  encode s := .string s.name
  decode? := Document.choose? names

end FlagStatus

/-- A feature flag. -/
structure Flag where
  id : FlagId
  projectId : ProjectId
  /-- Unique within the project. -/
  key : String
  name : String
  description : Option String
  valueType : ValueType
  category : Option String
  /-- Served whenever nothing more specific applies. -/
  defaultValue : FlagValue
  tags : List String
  status : FlagStatus
  createdAt : Timestamp
  updatedAt : Timestamp
deriving Inhabited

namespace Flag

/-- Whether the flag is archived. -/
def isArchived (f : Flag) : Bool := f.status == .archived

/-- The fields of a flag on the wire. -/
def layout : Document.Layout := [
  ("id", .required), ("project_id", .required), ("key", .required), ("name", .required),
  ("description", .defaulted), ("value_type", .required), ("category", .defaulted),
  ("default_value", .required), ("tags", .defaulted), ("status", .defaulted),
  ("created_at", .required), ("updated_at", .required)]

instance : Wire Flag where
  encode f := .object [
    ("id", encode f.id), ("project_id", encode f.projectId), ("key", encode f.key),
    ("name", encode f.name), ("description", encode f.description),
    ("value_type", encode f.valueType), ("category", encode f.category),
    ("default_value", encode f.defaultValue), ("tags", encode f.tags),
    ("status", encode f.status), ("created_at", encode f.createdAt),
    ("updated_at", encode f.updatedAt)]
  decode? d := do
    let [id, projectId, key, name, description, valueType, category, defaultValue, tags, status,
      createdAt, updatedAt] ← d.record? layout | none
    return {
      id := ← Document.field? id
      projectId := ← Document.field? projectId
      key := ← Document.field? key
      name := ← Document.field? name
      description := ← Document.fieldOr? none description
      valueType := ← Document.field? valueType
      category := ← Document.fieldOr? none category
      defaultValue := ← Document.field? defaultValue
      tags := ← Document.fieldOr? [] tags
      status := ← Document.fieldOr? .active status
      createdAt := ← Document.field? createdAt
      updatedAt := ← Document.field? updatedAt }

end Flag

end FeatureFlags
