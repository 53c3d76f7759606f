import FeatureFlags.Flag.Configuration
import FeatureFlags.Murmur

/-!
# Evaluation

The value that a flag serves to a context.  An archived flag and a disabled configuration
serve the default value of the flag.  Otherwise the first rule that admits the context
decides: all of its conditions are met and the subject falls into its rollout.  If no rule
does, the default variant is served, or the default value if there is none.

Subjects are spread over a hundred buckets by a hash, so a subject stays in its bucket.
-/

namespace FeatureFlags

/-- Who asks for the value of a flag. -/
structure Context where
  /-- The identity that rollouts go by. -/
  userId : Option String
  attributes : Table String Json

namespace Context

/-- A context without an identity and without attributes. -/
def empty : Context := ⟨none, .empty⟩

/-- The identity for rollouts; the empty one if there is none. -/
def subject (c : Context) : String := c.userId.getD ""

/-- The value of an attribute. -/
def attribute? (c : Context) (name : String) : Option Json := c.attributes.get? name

/-- The attributes are spelt in any order, and here in that of the table. -/
instance : Wire Context where
  encode c := .object [("user_id", encode c.userId), ("attributes", encode c.attributes)]
  decode? d := do
    let [userId, attributes] ←
      d.record? [("user_id", .defaulted), ("attributes", .defaulted)] | none
    return {
      userId := ← Document.fieldOr? none userId
      attributes := ← Document.fieldOr? .empty attributes }
  canonical c := .object [("attributes", encode c.attributes), ("user_id", encode c.userId)]

end Context

/-- Why a flag serves the value it serves. -/
inductive Reason where
  | archived
  | disabled
  /-- A rule without a rollout admits the context. -/
  | ruleMatch
  /-- A rule with a rollout admits the context. -/
  | rolloutMatch
  /-- No rule admits the context. -/
  | default
deriving DecidableEq, Inhabited, Repr

namespace Reason

/-- The name of a reason. -/
def name : Reason → String
  | archived => "archived"
  | disabled => "disabled"
  | ruleMatch => "rule_match"
  | rolloutMatch => "rollout_match"
  | default => "default"

/-- The reasons and their names. -/
def names : List (Reason × String) :=
  [archived, disabled, ruleMatch, rolloutMatch, default].map fun r => (r, r.name)

instance : Wire Reason where
  encode r := .string r.name
  decode? := Document.choose? names

end Reason

/-- What a flag serves to a context. -/
structure Evaluation where
  value : FlagValue
  /-- The key of the variant; empty if the default value is served. -/
  variant : String
  reason : Reason
deriving Inhabited

namespace Evaluation

instance : Wire Evaluation where
  encode e := .object [("value", encode e.value), ("variant", encode e.variant),
    ("reason", encode e.reason)]
  decode? d := do
    let [value, variant, reason] ←
      d.record? [("value", .required), ("variant", .required), ("reason", .required)] | none
    return {
      value := ← Document.field? value
      variant := ← Document.field? variant
      reason := ← Document.field? reason }

end Evaluation

/-- Evaluations by the keys of their flags. -/
abbrev BulkEvaluation := Table String Evaluation

/-- The number of buckets. -/
def bucketCount : UInt32 := 100

/-- The bucket of a subject under a flag. -/
def bucket (flagKey subject : String) : UInt32 :=
  Murmur.hash (flagKey ++ "." ++ subject) % bucketCount

/-- Whether a subject falls into a rollout. -/
def inRollout (flagKey subject : String) (percentage : UInt8) : Bool :=
  bucket flagKey subject < percentage.toUInt32

/-- Whether a context meets a condition. -/
def Condition.isMet (c : Condition) (context : Context) : Bool :=
  c.evaluate (context.attribute? c.attributeName)

namespace TargetingRule

/-- Whether a context meets all conditions of a rule. -/
def isMet (r : TargetingRule) (context : Context) : Bool := r.conditions.all (·.isMet context)

/-- Whether the subject of a context falls into the rollout of a rule. -/
def includes (r : TargetingRule) (flagKey : String) (context : Context) : Bool :=
  r.rollout.all (inRollout flagKey context.subject)

/-- Whether a rule decides for a context. -/
def admits (r : TargetingRule) (flagKey : String) (context : Context) : Bool :=
  r.isMet context && r.includes flagKey context

/-- The reason for which a rule serves its variant. -/
def reason (r : TargetingRule) : Reason := if r.rollout.isNone then .ruleMatch else .rolloutMatch

end TargetingRule

namespace Flag

/-- Serves the default value. -/
def serveDefault (f : Flag) (reason : Reason) : Evaluation := ⟨f.defaultValue, "", reason⟩

/-- Serves a variant, or the default value if the configuration does not have it. -/
def serveVariant (f : Flag) (c : Configuration) (key : String) (reason : Reason) : Evaluation :=
  match c.variant? key with
  | some v => ⟨v.value, v.key, reason⟩
  | none => f.serveDefault reason

/-- The value that a flag serves to a context. -/
def evaluate (f : Flag) (c : Configuration) (context : Context) : Evaluation :=
  if f.isArchived then f.serveDefault .archived
  else if !c.enabled then f.serveDefault .disabled
  else
    match c.rules.find? (·.admits f.key context) with
    | some r => f.serveVariant c r.variant r.reason
    | none =>
      match c.defaultVariant with
      | some key => f.serveVariant c key .default
      | none => f.serveDefault .default

end Flag

/-- A flag and its configuration in one environment. -/
structure Entry where
  flag : Flag
  config : Configuration
deriving Inhabited

namespace Entry

/-- The key of the flag. -/
def key (e : Entry) : String := e.flag.key

/-- The value that the flag serves to a context. -/
def evaluate (e : Entry) (context : Context) : Evaluation := e.flag.evaluate e.config context

instance : Wire Entry where
  encode e := .object [("flag", encode e.flag), ("config", encode e.config)]
  decode? d := do
    let [flag, config] ← d.record? [("flag", .required), ("config", .required)] | none
    return { flag := ← Document.field? flag, config := ← Document.field? config }

end Entry

/-- Evaluates flags for a context; of flags with one key the last one counts. -/
def evaluateAll (entries : List Entry) (context : Context) : BulkEvaluation :=
  .ofList (entries.map fun e => (e.key, e.evaluate context))

end FeatureFlags
