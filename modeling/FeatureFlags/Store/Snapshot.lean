import FeatureFlags.Store.Basic

/-!
# Snapshots

A snapshot lists the flags of scopes.  A store is made from it by putting in one flag after the
other, so that the last of several flags with one key in one scope counts.
-/

namespace FeatureFlags

/-- The flags that a snapshot lists for a scope. -/
structure SnapshotScope where
  project : String
  environment : String
  flags : List Entry
deriving Inhabited

namespace SnapshotScope

/-- The scope that the flags belong to. -/
def scope (s : SnapshotScope) : Scope := ⟨s.project, s.environment⟩

instance : Wire SnapshotScope where
  encode s := .object [("project", encode s.project), ("environment", encode s.environment),
    ("flags", encode s.flags)]
  decode? d := do
    let [project, environment, flags] ← d.record?
      [("project", .required), ("environment", .required), ("flags", .defaulted)] | none
    return {
      project := ← Document.field? project
      environment := ← Document.field? environment
      flags := ← Document.fieldOr? [] flags }

end SnapshotScope

/-- The flags of some scopes. -/
structure Snapshot where
  scopes : List SnapshotScope
deriving Inhabited

namespace Snapshot

instance : Wire Snapshot where
  encode s := .object [("scopes", encode s.scopes)]
  decode? d := do
    let [scopes] ← d.record? [("scopes", .defaulted)] | none
    return { scopes := ← Document.fieldOr? [] scopes }

/-- The flags of a snapshot with their scopes, in the order of the snapshot. -/
def entries (s : Snapshot) : List (Scope × Entry) :=
  s.scopes.flatMap fun part => part.flags.map fun e => (part.scope, e)

end Snapshot

namespace Store

/-- Puts flags into their scopes, one after the other; the first that is refused ends it. -/
def upsertAll (s : Store) (entries : List (Scope × Entry)) : Except FlagError Store :=
  entries.foldlM (fun s (scope, e) => s.upsert scope e) s

/-- The flags of a list that get into a store, up to the first that is refused. -/
def accepted (s : Store) : List (Scope × Entry) → List (Scope × Entry)
  | [] => []
  | (scope, e) :: rest =>
    match s.upsert scope e with
    | .ok s => (scope, e) :: s.accepted rest
    | .error _ => []

/-- The store of a snapshot. -/
def ofSnapshot (s : Snapshot) : Except FlagError Store := empty.upsertAll s.entries

end Store

/-- Why there is no store for a snapshot file. -/
inductive SnapshotError where
  /-- There is no such file, or it is no text. -/
  | unread
  /-- The text is no snapshot. -/
  | malformed
  | refused (e : FlagError)

/-- The snapshot in a file with the given content, if there is such a file. -/
def Snapshot.ofFile (content : Option ByteArray) : Except SnapshotError Snapshot :=
  match content >>= String.fromUTF8? with
  | none => .error .unread
  | some text =>
    match (Wire.parse? text : Option Snapshot) with
    | none => .error .malformed
    | some s => .ok s

/-- The store of a snapshot file with the given content, if there is such a file. -/
def Store.ofSnapshotFile (content : Option ByteArray) : Except SnapshotError Store := do
  (Store.ofSnapshot (← Snapshot.ofFile content)).mapError .refused

end FeatureFlags
