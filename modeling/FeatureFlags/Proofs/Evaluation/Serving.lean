import FeatureFlags.Evaluation
import FeatureFlags.Proofs.Flag.Fitting

/-!
# What a flag serves

`Entry.Serves` says what a flag has to serve to a context, and `Entry.serves` that a flag with a
configuration that fits does so.

* The rules are walked in their order: `find?_admits_eq_some_iff` and `find?_admits_eq_none_iff` say
  what the walk finds.
* `evaluate_of_isFirst`, `evaluate_of_default` and `value_of_servesDefault` are the ends of an
  evaluation.
* A variant that is named is found (`Configuration.Fits.exists_isVariant`), so that the default
  value never stands in for one.
-/

namespace FeatureFlags

variable {f : Flag} {c : Configuration} {context : Context} {key : String}

/-! ## The rule that decides -/

/-- A rule admits a context that meets its conditions and whose subject falls into its rollout. -/
structure TargetingRule.Admits (r : TargetingRule) (flagKey : String) (context : Context) :
    Prop where
  met : ∀ condition ∈ r.conditions, condition.isMet context = true
  included : ∀ percentage, r.rollout = some percentage →
    bucket flagKey context.subject < percentage.toUInt32

theorem TargetingRule.admits_iff {r : TargetingRule} {flagKey : String} :
    r.admits flagKey context = true ↔ r.Admits flagKey context := by
  rw [admits, Bool.and_eq_true, isMet, List.all_eq_true, includes]
  cases hrollout : r.rollout with
  | none =>
    constructor
    · rintro ⟨hmet, _⟩
      exact ⟨hmet, fun p hp => by rw [hrollout] at hp; cases hp⟩
    · intro h
      exact ⟨h.met, rfl⟩
  | some percentage =>
    rw [Option.all_some, inRollout, decide_eq_true_iff]
    constructor
    · rintro ⟨hmet, hin⟩
      refine ⟨hmet, fun p hp => ?_⟩
      rw [hrollout, Option.some.injEq] at hp
      rwa [← hp]
    · intro h
      exact ⟨h.met, h.included percentage hrollout⟩

/-- The first rule of a configuration that admits a context. -/
def Configuration.IsFirst (c : Configuration) (flagKey : String) (context : Context)
    (r : TargetingRule) : Prop :=
  r.Admits flagKey context ∧ ∃ before after, c.rules = before ++ r :: after ∧
    ∀ earlier ∈ before, ¬earlier.Admits flagKey context

/-- Whether no rule of a configuration admits a context. -/
def Configuration.NoneAdmits (c : Configuration) (flagKey : String) (context : Context) : Prop :=
  ∀ r ∈ c.rules, ¬r.Admits flagKey context

theorem find?_admits_eq_some_iff {r : TargetingRule} :
    c.rules.find? (·.admits key context) = some r ↔ c.IsFirst key context r := by
  rw [List.find?_eq_some_iff_append, TargetingRule.admits_iff, Configuration.IsFirst]
  simp only [Bool.not_eq_true', ← Bool.not_eq_true, TargetingRule.admits_iff]

theorem find?_admits_eq_none_iff :
    c.rules.find? (·.admits key context) = none ↔ c.NoneAdmits key context := by
  rw [List.find?_eq_none, Configuration.NoneAdmits]
  simp only [TargetingRule.admits_iff]

/-! ## The ends of an evaluation -/

/-- Whether neither a rule nor the default variant decides. -/
def Flag.ServesDefault (f : Flag) (c : Configuration) (context : Context) : Prop :=
  f.status = .archived ∨ c.enabled = false ∨ c.NoneAdmits f.key context ∧ c.defaultVariant = none

theorem Flag.isArchived_iff : f.isArchived = true ↔ f.status = .archived := beq_iff_eq

/-- The default value is served without a variant. -/
theorem value_of_servesDefault (h : f.ServesDefault c context) :
    (f.evaluate c context).value = f.defaultValue ∧ (f.evaluate c context).variant = "" := by
  rw [Flag.evaluate]
  by_cases harchived : f.isArchived = true
  · rw [if_pos harchived]
    exact ⟨rfl, rfl⟩
  · rw [if_neg harchived]
    rcases h with h | h | ⟨hnone, hdefault⟩
    · exact absurd (Flag.isArchived_iff.2 h) harchived
    · rw [h]
      exact ⟨rfl, rfl⟩
    · split
      · exact ⟨rfl, rfl⟩
      · rw [find?_admits_eq_none_iff.2 hnone, hdefault]
        exact ⟨rfl, rfl⟩

/-- The first rule that admits the context decides. -/
theorem evaluate_of_isFirst {r : TargetingRule} (hactive : f.status ≠ .archived)
    (henabled : c.enabled = true) (hr : c.IsFirst f.key context r) :
    f.evaluate c context = f.serveVariant c r.variant r.reason := by
  rw [Flag.evaluate, if_neg (fun h => hactive (Flag.isArchived_iff.1 h)), henabled,
    if_neg (by decide), find?_admits_eq_some_iff.2 hr]

/-- The default variant decides if no rule admits the context. -/
theorem evaluate_of_default (hactive : f.status ≠ .archived) (henabled : c.enabled = true)
    (hnone : c.NoneAdmits f.key context) (hdefault : c.defaultVariant = some key) :
    f.evaluate c context = f.serveVariant c key .default := by
  rw [Flag.evaluate, if_neg (fun h => hactive (Flag.isArchived_iff.1 h)), henabled,
    if_neg (by decide), find?_admits_eq_none_iff.2 hnone, hdefault]

/-- Every evaluation comes to one of these ends. -/
theorem servesDefault_or_decides (f : Flag) (c : Configuration) (context : Context) :
    f.ServesDefault c context ∨ f.status ≠ .archived ∧ c.enabled = true ∧
      ((∃ r, c.IsFirst f.key context r) ∨
        c.NoneAdmits f.key context ∧ ∃ key, c.defaultVariant = some key) := by
  by_cases harchived : f.status = .archived
  · exact .inl (.inl harchived)
  · cases henabled : c.enabled with
    | false => exact .inl (.inr (.inl henabled))
    | true =>
      cases hfind : c.rules.find? (·.admits f.key context) with
      | some r => exact .inr ⟨harchived, rfl, .inl ⟨r, find?_admits_eq_some_iff.1 hfind⟩⟩
      | none =>
        have hnone : c.NoneAdmits f.key context := find?_admits_eq_none_iff.1 hfind
        cases hdefault : c.defaultVariant with
        | none => exact .inl (.inr (.inr ⟨hnone, hdefault⟩))
        | some key => exact .inr ⟨harchived, rfl, .inr ⟨hnone, key, rfl⟩⟩

/-! ## What a flag has to serve -/

/-- A variant is what a key stands for: evaluations find it, and no other variant has the key. -/
structure Configuration.IsVariant (c : Configuration) (key : String) (v : Variant) : Prop where
  found : c.variant? key = some v
  mem : v ∈ c.variants
  key_eq : v.key = key
  only : ∀ w ∈ c.variants, w.key = key → w = v

/-- In a configuration that fits, every key that is named stands for a variant. -/
theorem Configuration.Fits.exists_isVariant (h : c.Fits f) (hkey : c.Names key) :
    ∃ v, c.IsVariant key v := by
  obtain ⟨v, hfound⟩ := h.exists_variant hkey
  obtain ⟨hmem, hv⟩ := mem_of_variant?_eq_some hfound
  exact ⟨v, hfound, hmem, hv, fun w hw hkey' => h.eq_of_key_eq hw hmem (hkey'.trans hv.symm)⟩

/-- Whether an evaluation serves the value and the key of a variant. -/
def Evaluation.IsOf (result : Evaluation) (v : Variant) : Prop :=
  result.value = v.value ∧ result.variant = v.key

/-- What a flag has to serve to a context. -/
structure Entry.Serves (e : Entry) (context : Context) (result : Evaluation) : Prop where
  typed : result.value.hasType e.flag.valueType = true
  default : e.flag.ServesDefault e.config context →
    result.value = e.flag.defaultValue ∧ result.variant = ""
  rule : e.flag.status ≠ .archived → e.config.enabled = true →
    ∀ r, e.config.IsFirst e.flag.key context r →
      ∃ v, e.config.IsVariant r.variant v ∧ result.IsOf v
  defaultVariant : e.flag.status ≠ .archived → e.config.enabled = true →
    e.config.NoneAdmits e.flag.key context → ∀ key, e.config.defaultVariant = some key →
      ∃ v, e.config.IsVariant key v ∧ result.IsOf v

theorem isOf_serveVariant {v : Variant} {reason : Reason} (hv : c.IsVariant key v) :
    (f.serveVariant c key reason).IsOf v := by
  rw [Flag.serveVariant, hv.found]
  exact ⟨rfl, rfl⟩

/-- The key of the first rule that admits a context stands for a variant, which is served. -/
theorem Configuration.Fits.isOf_of_isFirst (h : c.Fits f) (hactive : f.status ≠ .archived)
    (henabled : c.enabled = true) {r : TargetingRule} (hr : c.IsFirst f.key context r) :
    ∃ v, c.IsVariant r.variant v ∧ (f.evaluate c context).IsOf v := by
  have hmem : r ∈ c.rules := by
    obtain ⟨_, before, after, hrules, _⟩ := hr
    rw [hrules]
    exact List.mem_append_right before List.mem_cons_self
  obtain ⟨v, hv⟩ := h.exists_isVariant (.inr ⟨r, hmem, rfl⟩)
  refine ⟨v, hv, ?_⟩
  rw [evaluate_of_isFirst hactive henabled hr]
  exact isOf_serveVariant hv

/-- So does the default variant, if no rule admits the context. -/
theorem Configuration.Fits.isOf_of_default (h : c.Fits f) (hactive : f.status ≠ .archived)
    (henabled : c.enabled = true) (hnone : c.NoneAdmits f.key context)
    (hdefault : c.defaultVariant = some key) :
    ∃ v, c.IsVariant key v ∧ (f.evaluate c context).IsOf v := by
  obtain ⟨v, hv⟩ := h.exists_isVariant (.inl hdefault)
  refine ⟨v, hv, ?_⟩
  rw [evaluate_of_default hactive henabled hnone hdefault]
  exact isOf_serveVariant hv

/-- Whatever is served has the type of the flag. -/
theorem Configuration.Fits.hasType_evaluate (h : c.Fits f) (context : Context) :
    (f.evaluate c context).value.hasType f.valueType = true := by
  have hvariant : (∃ key v, c.IsVariant key v ∧ (f.evaluate c context).IsOf v) →
      (f.evaluate c context).value.hasType f.valueType = true := by
    rintro ⟨_, v, hv, hvalue, _⟩
    rw [hvalue]
    exact h.values v hv.mem
  rcases servesDefault_or_decides f c context with hserves | ⟨hactive, henabled, hdecides⟩
  · rw [(value_of_servesDefault hserves).1]
    exact h.defaultValue
  · rcases hdecides with ⟨r, hr⟩ | ⟨hnone, key, hdefault⟩
    · exact hvariant ⟨r.variant, h.isOf_of_isFirst hactive henabled hr⟩
    · exact hvariant ⟨key, h.isOf_of_default hactive henabled hnone hdefault⟩

/-- A flag with a configuration that fits serves what it has to. -/
theorem Entry.serves {e : Entry} (h : e.config.Fits e.flag) (context : Context) :
    e.Serves context (e.evaluate context) where
  typed := h.hasType_evaluate context
  default := value_of_servesDefault
  rule hactive henabled _ hr := h.isOf_of_isFirst hactive henabled hr
  defaultVariant hactive henabled hnone _ hdefault :=
    h.isOf_of_default hactive henabled hnone hdefault

end FeatureFlags
