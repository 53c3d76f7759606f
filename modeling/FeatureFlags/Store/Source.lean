import FeatureFlags.Store.Basic

/-!
# Sources

What the cache reads flags from: the scopes that there are, and the flags of each.  A read
may fail.
-/

namespace FeatureFlags

/-- A read that failed. -/
structure ReadError where
  /-- What was read: the key of a scope, or a star for the list of scopes. -/
  subject : String
  detail : String
deriving DecidableEq, Repr

/-- The wording of the error. -/
def ReadError.message (e : ReadError) : String :=
  "store read failed for " ++ e.subject ++ ": " ++ e.detail

/-- Something that flags are read from. -/
structure Source where
  listScopes : Except ReadError (List Scope)
  load : Scope → Except ReadError (List Entry)

/-- Reads from a store, which never fails. -/
def Store.source (s : Store) : Source where
  listScopes := .ok s.listScopes
  load scope := .ok (s.load scope)

/-- The source when the list of scopes cannot be read, or the flags of some scopes cannot. -/
def Source.failing (s : Source) (listFails : Bool) (scopes : List Scope) (detail : String) :
    Source where
  listScopes := if listFails then .error ⟨"*", detail⟩ else s.listScopes
  load scope := if scopes.contains scope then .error ⟨scope.key, detail⟩ else s.load scope

end FeatureFlags
