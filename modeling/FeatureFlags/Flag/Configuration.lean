import FeatureFlags.Flag.Basic
import FeatureFlags.Rule.TargetingRule

/-!
# Configurations

How a flag behaves in one environment: whether it is enabled there, the variants that it
can serve, the variant that it serves by default, and its targeting rules.
-/

namespace FeatureFlags

/-- A named value that a flag can serve. -/
structure Variant where
  key : String
  value : FlagValue
deriving Inhabited

instance : Wire Variant where
  encode v := .object [("key", encode v.key), ("value", encode v.value)]
  decode? d := do
    let [key, value] ← d.record? [("key", .required), ("value", .required)] | none
    return { key := ← Document.field? key, value := ← Document.field? value }

/-- The behaviour of a flag in an environment. -/
structure Configuration where
  flagId : FlagId
  environmentId : EnvironmentId
  enabled : Bool
  /-- The key of the variant that is served when no rule applies; the default value of the flag
  if there is none. -/
  defaultVariant : Option String
  variants : List Variant
  /-- The first rule that applies decides. -/
  rules : List TargetingRule
  updatedAt : Timestamp
deriving Inhabited

namespace Configuration

/-- A configuration without variants and rules. -/
def plain (flagId : FlagId) (environmentId : EnvironmentId) (enabled : Bool) (now : Timestamp) :
    Configuration where
  flagId
  environmentId
  enabled
  defaultVariant := none
  variants := []
  rules := []
  updatedAt := now

/-- The first variant with the given key. -/
def variant? (c : Configuration) (key : String) : Option Variant := c.variants.find? (·.key == key)

/-- The fields of a configuration on the wire. -/
def layout : Document.Layout := [
  ("flag_id", .required), ("environment_id", .required), ("enabled", .required),
  ("default_variant", .defaulted), ("variants", .defaulted), ("targeting_rules", .defaulted),
  ("updated_at", .required)]

instance : Wire Configuration where
  encode c := .object [
    ("flag_id", encode c.flagId), ("environment_id", encode c.environmentId),
    ("enabled", encode c.enabled), ("default_variant", encode c.defaultVariant),
    ("variants", encode c.variants), ("targeting_rules", encode c.rules),
    ("updated_at", encode c.updatedAt)]
  decode? d := do
    let [flagId, environmentId, enabled, defaultVariant, variants, rules, updatedAt] ←
      d.record? layout | none
    return {
      flagId := ← Document.field? flagId
      environmentId := ← Document.field? environmentId
      enabled := ← Document.field? enabled
      defaultVariant := ← Document.fieldOr? none defaultVariant
      variants := ← Document.fieldOr? [] variants
      rules := ← Document.fieldOr? [] rules
      updatedAt := ← Document.field? updatedAt }

end Configuration

end FeatureFlags
