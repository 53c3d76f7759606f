import FeatureFlags.Evaluation
import FeatureFlags.Flag.Error
import FeatureFlags.Flag.Key
import FeatureFlags.Flag.Validation
import FeatureFlags.Scope

/-!
# The store

The flags of all scopes, each with its configuration.  Only valid flags get in, a key belongs
to one flag in all scopes of a project, and a scope without flags is not kept.
-/

namespace FeatureFlags

/-- The flags of one scope by their keys. -/
abbrev ScopeFlags := Table String Entry

/-- The flags of all scopes. -/
structure Store where
  scopes : Table Scope ScopeFlags

namespace Store

/-- A store without flags. -/
def empty : Store := ⟨.empty⟩

/-- The flags of a scope; none if the scope is unknown. -/
def flags (s : Store) (scope : Scope) : ScopeFlags := (s.scopes.get? scope).getD .empty

/-- The scopes that have flags, in their order. -/
def listScopes (s : Store) : List Scope := s.scopes.keys

/-- The flags of a scope in the order of their keys. -/
def load (s : Store) (scope : Scope) : List Entry := (s.flags scope).values

/-- Whether another flag of the project has the key. -/
def hasConflict (s : Store) (project key : String) (id : FlagId) : Bool :=
  s.scopes.entries.any fun (scope, flags) =>
    scope.project == project && (flags.get? key).any (·.flag.id != id)

/-- Puts a flag into a scope, over a flag with the same key. -/
def put (s : Store) (scope : Scope) (e : Entry) : Store :=
  ⟨s.scopes.insert scope ((s.flags scope).insert e.key e)⟩

/-- Puts a flag into a scope if the flag, its configuration and its key are fine. -/
def upsert (s : Store) (scope : Scope) (e : Entry) : Except FlagError Store :=
  if !FlagKey.isValid e.key then .error (.invalidFlagKey e.key)
  else do
    e.config.validate e.flag
    if s.hasConflict scope.project e.key e.flag.id then .error (.duplicateFlagKey e.key)
    else .ok (s.put scope e)

/-- Takes a flag out of a scope, and says whether it was there. -/
def removeFlag (s : Store) (scope : Scope) (key : String) : Bool × Store :=
  match s.scopes.get? scope with
  | none => (false, s)
  | some flags =>
    let rest := flags.erase key
    (flags.contains key,
      ⟨if rest.isEmpty then s.scopes.erase scope else s.scopes.insert scope rest⟩)

/-- Takes a scope with all its flags out, and says whether it was there. -/
def removeScope (s : Store) (scope : Scope) : Bool × Store :=
  (s.scopes.contains scope, ⟨s.scopes.erase scope⟩)

end Store

end FeatureFlags
