import FeatureFlags.Rule.Condition

/-!
# Targeting rules

A rule serves a variant to the contexts that meet all of its conditions, or, with a
rollout, to a percentage of them.
-/

namespace FeatureFlags

/-- An override of the variant that a flag serves. -/
structure TargetingRule where
  /-- All of them must be met. -/
  conditions : List Condition
  /-- The key of the variant that is served. -/
  variant : String
  /-- The percentage of subjects that the rule serves; everyone if there is none. -/
  rollout : Option UInt8
deriving Inhabited

namespace TargetingRule

instance : Wire TargetingRule where
  encode r := .object [("conditions", encode r.conditions), ("variant", encode r.variant),
    ("percentage_rollout", encode r.rollout)]
  decode? d := do
    let [conditions, variant, rollout] ← d.record? [("conditions", .defaulted),
      ("variant", .required), ("percentage_rollout", .defaulted)] | none
    return {
      conditions := ← Document.fieldOr? [] conditions
      variant := ← Document.field? variant
      rollout := ← Document.fieldOr? none rollout }

end TargetingRule

end FeatureFlags
