import FeatureFlags.Flag.Configuration
import FeatureFlags.Flag.Error

/-!
# Validation

Whether a configuration fits its flag: it belongs to the flag, all values have the type of
the flag, variant keys are distinct, every variant that is named exists, and rollouts are
percentages.  The first thing that is wrong is reported.
-/

namespace FeatureFlags.Configuration

/-- The largest percentage of a rollout. -/
def maxRollout : UInt8 := 100

/-- Checks variants that follow variants with the keys `seen`. -/
def checkVariants (type : ValueType) (seen : List String) : List Variant → Except FlagError Unit
  | [] => .ok ()
  | v :: rest =>
    if v.key ∈ seen then .error (.duplicateVariantKey v.key)
    else if !v.value.hasType type then .error (.valueTypeMismatch v.key type.name)
    else checkVariants type (v.key :: seen) rest

/-- Checks that a variant exists. -/
def checkReference (variants : List Variant) (key : String) : Except FlagError Unit :=
  if variants.any (·.key == key) then .ok () else .error (.variantNotFound key)

/-- Checks the variant that is served by default, if one is named. -/
def checkDefault (variants : List Variant) : Option String → Except FlagError Unit
  | none => .ok ()
  | some key => checkReference variants key

/-- Checks that a rollout is a percentage. -/
def checkRollout : Option UInt8 → Except FlagError Unit
  | none => .ok ()
  | some percentage =>
    if maxRollout < percentage then .error (.invalidRollout percentage) else .ok ()

/-- Checks rules one after the other. -/
def checkRules (variants : List Variant) : List TargetingRule → Except FlagError Unit
  | [] => .ok ()
  | r :: rest => do
    checkReference variants r.variant
    checkRollout r.rollout
    checkRules variants rest

/-- Checks a configuration against its flag. -/
def validate (c : Configuration) (f : Flag) : Except FlagError Unit :=
  if c.flagId ≠ f.id then .error (.configFlagMismatch f.id.text c.flagId.text)
  else if !f.defaultValue.hasType f.valueType then
    .error (.defaultValueTypeMismatch f.valueType.name)
  else do
    checkVariants f.valueType [] c.variants
    checkDefault c.variants c.defaultVariant
    checkRules c.variants c.rules

end FeatureFlags.Configuration
