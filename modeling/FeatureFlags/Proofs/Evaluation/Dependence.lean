import FeatureFlags.Proofs.Evaluation.FirstRule
import Mathlib.Data.List.Find

/-!
# What an evaluation reads

Of a context, an evaluation reads the attributes that conditions name, and the subject if there are
rollouts.  Of a flag and a configuration, it reads no identifiers, no descriptions and no times.

* `Operator.present?_eq_of_getD_eq`: to an operator, an absent attribute and a null are the same.
* `Operator.evaluate_congr`, `Condition.evaluate_congr` and `Condition.Live.evaluate_congr`: a
  condition reads the attribute that it names and nothing else, whether it is evaluated for itself
  or in use, with a pattern that has been compiled before or not.
* `TargetingRule.isMet_congr` and `TargetingRule.includes_congr`: what a rule reads.
* `choice?_congr`: so contexts that agree on what is read choose the same.

`evaluate_reads_named` is the main result.
-/

namespace FeatureFlags

variable {f g : Flag} {c d : Configuration} {x y : Context}

/-! ## Conditions -/

namespace Operator

variable {a b : Option Json}

/-- To an operator, an absent attribute and a null are the same. -/
theorem present?_eq_of_getD_eq (h : a.getD .null = b.getD .null) : present? a = present? b := by
  have hpresent : ∀ o : Option Json, present? o = (some (o.getD .null)).filter (!·.isNull) := by
    intro o
    cases o with
    | none => rfl
    | some v => rfl
  rw [hpresent a, hpresent b, h]

/-- Every operator reads of the attribute only what is not null. -/
theorem evaluate_congr (h : present? a = present? b) (op : Operator) (operand : Json) :
    op.evaluate a operand = op.evaluate b operand := by
  unfold evaluate
  rw [h]

end Operator

namespace Condition

theorem evaluate_congr {a b : Option Json} (h : a.getD .null = b.getD .null) (c : Condition) :
    c.evaluate a = c.evaluate b :=
  Operator.evaluate_congr (Operator.present?_eq_of_getD_eq h) c.operator c.value

/-- A condition in use gives the same answer and is left in the same state, whatever has been
compiled before. -/
theorem Live.evaluate_congr {a b : Option Json} (h : a.getD .null = b.getD .null) (c : Live) :
    c.evaluate a = c.evaluate b := by
  unfold Live.evaluate
  rw [Operator.present?_eq_of_getD_eq h, Condition.evaluate_congr h]

end Condition

/-! ## What is read -/

/-- Whether a condition of a configuration names an attribute. -/
def Configuration.Reads (c : Configuration) (name : String) : Prop :=
  ∃ r ∈ c.rules, ∃ condition ∈ r.conditions, condition.attributeName = name

/-- Whether two contexts are the same in what a configuration reads of them: the attributes that its
conditions name, where an absent one and a null are the same, and the subject if there is a
rollout. -/
structure Context.Agree (x y : Context) (c : Configuration) : Prop where
  attributes : ∀ name, c.Reads name →
    (x.attribute? name).getD .null = (y.attribute? name).getD .null
  subject : x.subject = y.subject ∨ ∀ r ∈ c.rules, r.rollout = none

/-- Whether two flags are the same but for the identifiers, the name, the description, the category,
the tags, the times and the type of the values. -/
structure Flag.Alike (f g : Flag) : Prop where
  key : f.key = g.key
  defaultValue : f.defaultValue = g.defaultValue
  status : f.status = g.status

/-- Whether two configurations are the same but for the identifiers and the time. -/
structure Configuration.Alike (c d : Configuration) : Prop where
  enabled : c.enabled = d.enabled
  defaultVariant : c.defaultVariant = d.defaultVariant
  variants : c.variants = d.variants
  rules : c.rules = d.rules

/-! ## Rules -/

namespace TargetingRule

variable {r : TargetingRule}

theorem isMet_congr (hr : r ∈ c.rules) (h : x.Agree y c) : r.isMet x = r.isMet y := by
  have hcondition : ∀ condition ∈ r.conditions, condition.isMet x = condition.isMet y := by
    intro condition hmem
    exact Condition.evaluate_congr (h.attributes _ ⟨r, hr, condition, hmem, rfl⟩) condition
  unfold isMet
  rw [Bool.eq_iff_iff, List.all_eq_true, List.all_eq_true]
  apply forall₂_congr
  intro condition hmem
  rw [hcondition condition hmem]

/-- Whom a rollout includes is a matter of the subject; a rule without one includes everyone. -/
theorem includes_congr (hr : r ∈ c.rules) (h : x.Agree y c) (key : String) :
    r.includes key x = r.includes key y := by
  unfold includes
  rcases h.subject with hsubject | hnone
  · rw [hsubject]
  · rw [hnone r hr, Option.all_none, Option.all_none]

theorem admits_congr (hr : r ∈ c.rules) (h : x.Agree y c) (key : String) :
    r.admits key x = r.admits key y := by
  unfold admits
  rw [isMet_congr hr h, includes_congr hr h]

end TargetingRule

/-- Contexts that agree on what is read choose the same. -/
theorem choice?_congr (h : x.Agree y c) (key : String) : c.choice? key x = c.choice? key y := by
  have hrule : c.rules.find? (·.admits key x) = c.rules.find? (·.admits key y) := by
    apply List.find?_congr
    intro r hr
    exact TargetingRule.admits_congr hr h key
  unfold Configuration.choice?
  rw [hrule]

/-! ## Main result -/

/-- Flags and configurations that are alike serve the same to contexts that agree on what is read.
Nobody in particular and someone with an empty identity are the same subject.  A condition of the
configuration that is in use, with whatever it has compiled, answers both contexts alike. -/
theorem evaluate_reads_named (hflag : f.Alike g) (hconfig : c.Alike d) (hcontext : x.Agree y c) :
    f.evaluate c x = g.evaluate d y ∧
    (∀ attributes, f.evaluate c ⟨none, attributes⟩ = g.evaluate d ⟨some "", attributes⟩) ∧
    ∀ r ∈ c.rules, ∀ live : Condition.Live, live.condition ∈ r.conditions →
      live.evaluate (x.attribute? live.condition.attributeName) =
        live.evaluate (y.attribute? live.condition.attributeName) := by
  have hevaluate : ∀ x y : Context, x.Agree y c → f.evaluate c x = g.evaluate d y := by
    intro x y hcontext
    have harchived : f.isArchived = g.isArchived := by
      unfold Flag.isArchived
      rw [hflag.status]
    have hchoice : c.choice? f.key x = d.choice? g.key y := by
      rw [choice?_congr hcontext, hflag.key]
      unfold Configuration.choice?
      rw [hconfig.rules, hconfig.defaultVariant]
    exact evaluate_congr harchived hflag.defaultValue hconfig.enabled hconfig.variants hchoice
  refine ⟨hevaluate x y hcontext, ?_, ?_⟩
  · intro attributes
    exact hevaluate _ _ ⟨fun _ _ => rfl, .inl rfl⟩
  · intro r hr live hlive
    exact Condition.Live.evaluate_congr (hcontext.attributes _ ⟨r, hr, _, hlive, rfl⟩) live

/-- The staged flag with another name, tags and identifiers, changed at another time. -/
def renamed : Entry where
  flag := { staged.flag with
    id := ⟨1, by decide⟩, name := "Dark mode", tags := ["ui"], updatedAt := ⟨20412, 0, 0⟩ }
  config := { staged.config with flagId := ⟨1, by decide⟩, updatedAt := ⟨20412, 0, 0⟩ }

/-- Someone without a plan. -/
def withoutPlan : Context where
  userId := some "u1"
  attributes := .empty

/-- The same one from New Zealand, with a plan that is null. -/
def withNullPlan : Context where
  userId := some "u1"
  attributes := .ofList [("country", .string "NZ"), ("plan", .null)]

theorem evaluate_reads_named_nullPlan :
    staged.flag.Alike renamed.flag ∧ staged.config.Alike renamed.config ∧
    withoutPlan.Agree withNullPlan staged.config ∧
    staged.evaluate withoutPlan = renamed.evaluate withNullPlan := by
  have hflag : staged.flag.Alike renamed.flag := ⟨rfl, rfl, rfl⟩
  have hconfig : staged.config.Alike renamed.config := ⟨rfl, rfl, rfl, rfl⟩
  have hname : ∀ name, staged.config.Reads name → name = "plan" := by
    simp [Configuration.Reads, staged]
  have hcontext : withoutPlan.Agree withNullPlan staged.config := by
    refine ⟨fun name hreads => ?_, .inl rfl⟩
    obtain rfl := hname name hreads
    rfl
  exact ⟨hflag, hconfig, hcontext, (evaluate_reads_named hflag hconfig hcontext).1⟩

end FeatureFlags
