/-!
# Errors about flags

Why a flag, its configuration or the key of a scope is refused.
-/

namespace FeatureFlags

/-- A reason to refuse a flag, its configuration or the key of a scope. -/
inductive FlagError where
  | invalidFlagKey (key : String)
  /-- Another flag of the project has the key. -/
  | duplicateFlagKey (key : String)
  | duplicateVariantKey (key : String)
  /-- A variant is named that the configuration does not have. -/
  | variantNotFound (key : String)
  | valueTypeMismatch (variant : String) (expected : String)
  | defaultValueTypeMismatch (expected : String)
  | invalidRollout (percentage : UInt8)
  /-- The configuration belongs to another flag. -/
  | configFlagMismatch (flag : String) (configFlag : String)
  | invalidScopeKey (text : String)
deriving DecidableEq, Repr

namespace FlagError

/-- The wording of an error. -/
def message : FlagError → String
  | invalidFlagKey key => "invalid flag key: " ++ key
  | duplicateFlagKey key => "duplicate flag key: " ++ key
  | duplicateVariantKey key => "duplicate variant key: " ++ key
  | variantNotFound key => "variant not found: " ++ key
  | valueTypeMismatch variant expected =>
    "variant " ++ variant ++ " does not match flag value type " ++ expected
  | defaultValueTypeMismatch expected =>
    "flag default value does not match flag value type " ++ expected
  | invalidRollout percentage =>
    "percentage rollout must be between 0 and 100, got " ++ toString percentage.toNat
  | configFlagMismatch flag configFlag =>
    "config belongs to flag " ++ configFlag ++ ", not " ++ flag
  | invalidScopeKey text => "invalid scope key: " ++ text

end FlagError

end FeatureFlags
