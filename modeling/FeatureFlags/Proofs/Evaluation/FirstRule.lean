import FeatureFlags.Proofs.Evaluation.Serving
import Mathlib.Logic.Relation

/-!
# The first rule that admits

What a flag serves is said here without following the evaluation: in terms of the place of the
first rule that admits the context (`Configuration.IsFirstAt`) and of the first variant with a key
(`Flag.Resolves`).

* `exists_isFirstAt_iff`: the walk over the rules finds the one with the least place.
* `resolves_serveVariant`: what is served for a key is what the key resolves to.
* `evaluate_congr`: of the rules and the default variant, an evaluation depends only on what is
  chosen by them (`Configuration.choice?`).
* `RuleEdit.find?_eq`: a change of the rules that leaves alone what comes up to the first admitting
  rule, but for rules that do not admit, leaves the rule that decides.  `find?_of_edits` follows any
  number of such changes.

`first_admitting_rule_decides` is the main result.
-/

namespace FeatureFlags

variable {f g : Flag} {c d : Configuration} {context x y : Context} {key : String}

/-! ## Places of rules -/

/-- Whether the rule at a place admits a context, and no rule before it does. -/
structure Configuration.IsFirstAt (c : Configuration) (flagKey : String) (context : Context)
    (i : Nat) (r : TargetingRule) : Prop where
  rule : c.rules[i]? = some r
  admits : r.Admits flagKey context
  least : ∀ j earlier, j < i → c.rules[j]? = some earlier → ¬earlier.Admits flagKey context

theorem TargetingRule.admits_eq_false_iff {r : TargetingRule} :
    r.admits key context = false ↔ ¬r.Admits key context := by
  rw [← Bool.not_eq_true, admits_iff]

/-- The walk over the rules finds the one with the least place. -/
theorem exists_isFirstAt_iff {r : TargetingRule} :
    (∃ i, c.IsFirstAt key context i r) ↔ c.rules.find? (·.admits key context) = some r := by
  rw [List.find?_eq_some_iff_getElem]
  constructor
  · rintro ⟨i, hrule, hadmits, hleast⟩
    obtain ⟨hi, hr⟩ := List.getElem?_eq_some_iff.1 hrule
    refine ⟨TargetingRule.admits_iff.2 hadmits, i, hi, hr, ?_⟩
    intro j hj
    rw [Bool.not_eq_true', TargetingRule.admits_eq_false_iff]
    exact hleast j _ hj (List.getElem?_eq_getElem (by omega))
  · rintro ⟨hadmits, i, hi, hr, hleast⟩
    refine ⟨i, List.getElem?_eq_some_iff.2 ⟨hi, hr⟩, TargetingRule.admits_iff.1 hadmits, ?_⟩
    intro j earlier hj hearlier
    obtain ⟨_, rfl⟩ := List.getElem?_eq_some_iff.1 hearlier
    rw [← TargetingRule.admits_eq_false_iff, ← Bool.not_eq_true']
    exact hleast j hj

/-- If some rule admits the context, there is a first one. -/
theorem exists_isFirstAt (h : ∃ r ∈ c.rules, r.Admits key context) :
    ∃ i r, c.IsFirstAt key context i r := by
  cases hfind : c.rules.find? (·.admits key context) with
  | some r =>
    obtain ⟨i, hi⟩ := exists_isFirstAt_iff.2 hfind
    exact ⟨i, r, hi⟩
  | none =>
    obtain ⟨r, hr, hadmits⟩ := h
    exact absurd hadmits (find?_admits_eq_none_iff.1 hfind r hr)

/-! ## Variants of keys -/

/-- What a key resolves to: the first variant with the key, or else the default value. -/
inductive Flag.Resolves (f : Flag) (c : Configuration) (key : String) (reason : Reason) :
    Evaluation → Prop where
  | variant (before after : List Variant) (v : Variant)
      (hvariants : c.variants = before ++ v :: after) (hkey : v.key = key)
      (hfirst : ∀ w ∈ before, w.key ≠ key) : f.Resolves c key reason ⟨v.value, key, reason⟩
  | missing (hnone : ∀ v ∈ c.variants, v.key ≠ key) :
      f.Resolves c key reason ⟨f.defaultValue, "", reason⟩

theorem resolves_serveVariant (f : Flag) (c : Configuration) (key : String) (reason : Reason) :
    f.Resolves c key reason (f.serveVariant c key reason) := by
  unfold Flag.serveVariant Configuration.variant?
  cases hfind : c.variants.find? (·.key == key) with
  | some v =>
    obtain ⟨hkey, before, after, hvariants, hfirst⟩ := List.find?_eq_some_iff_append.1 hfind
    have hv : v.key = key := by simpa using hkey
    have hresolves : f.Resolves c key reason ⟨v.value, key, reason⟩ :=
      .variant before after v hvariants hv (by simpa using hfirst)
    rw [← hv] at hresolves ⊢
    exact hresolves
  | none =>
    rw [List.find?_eq_none] at hfind
    exact .missing (by simpa using hfind)

/-! ## What an evaluation depends on -/

theorem Flag.isArchived_eq_false (h : f.status ≠ .archived) : f.isArchived = false :=
  beq_eq_false_iff_ne.2 h

/-- The default value is served if neither a rule nor the default variant decides. -/
theorem evaluate_of_none (hactive : f.status ≠ .archived) (henabled : c.enabled = true)
    (hnone : c.NoneAdmits f.key context) (hdefault : c.defaultVariant = none) :
    f.evaluate c context = f.serveDefault .default := by
  unfold Flag.evaluate
  rw [Flag.isArchived_eq_false hactive, henabled, find?_admits_eq_none_iff.2 hnone, hdefault]
  rfl

/-- The variant that a rule or else the configuration names for a context, and why. -/
def Configuration.choice? (c : Configuration) (flagKey : String) (context : Context) :
    Option (String × Reason) :=
  ((c.rules.find? (·.admits flagKey context)).map fun r => (r.variant, r.reason)).or
    (c.defaultVariant.map fun key => (key, .default))

/-- An evaluation goes by what is chosen, unless the flag is archived or disabled. -/
theorem evaluate_eq (f : Flag) (c : Configuration) (context : Context) :
    f.evaluate c context =
      if f.isArchived then f.serveDefault .archived
      else if !c.enabled then f.serveDefault .disabled
      else
        match c.choice? f.key context with
        | some (key, reason) => f.serveVariant c key reason
        | none => f.serveDefault .default := by
  unfold Flag.evaluate Configuration.choice?
  cases c.rules.find? (·.admits f.key context) with
  | some r => rfl
  | none => cases c.defaultVariant <;> rfl

/-- An evaluation depends on whether the flag is archived, on its default value, on whether it is
enabled, on the variants and on what is chosen of them. -/
theorem evaluate_congr (harchived : f.isArchived = g.isArchived)
    (hvalue : f.defaultValue = g.defaultValue) (henabled : c.enabled = d.enabled)
    (hvariants : c.variants = d.variants) (hchoice : c.choice? f.key x = d.choice? g.key y) :
    f.evaluate c x = g.evaluate d y := by
  have hserved : f.serveDefault = g.serveDefault := by
    funext reason
    rw [Flag.serveDefault, Flag.serveDefault, hvalue]
  have hvariant : f.serveVariant c = g.serveVariant d := by
    funext key reason
    rw [Flag.serveVariant, Flag.serveVariant, Configuration.variant?, Configuration.variant?,
      hvariants, hserved]
  rw [evaluate_eq, evaluate_eq, harchived, henabled, hchoice, hserved, hvariant]

/-! ## Changes of the rules -/

/-- A change of a list of rules that a context does not notice: a rule that does not admit it is put
in or taken out anywhere, or what comes after a rule that admits it is replaced.  Rules that do not
admit it are brought into another order by taking them out and putting them in again. -/
inductive RuleEdit (admits : TargetingRule → Prop) :
    List TargetingRule → List TargetingRule → Prop where
  | insert (before after : List TargetingRule) (r : TargetingRule) (hr : ¬admits r) :
      RuleEdit admits (before ++ after) (before ++ r :: after)
  | delete (before after : List TargetingRule) (r : TargetingRule) (hr : ¬admits r) :
      RuleEdit admits (before ++ r :: after) (before ++ after)
  | replace (before after after' : List TargetingRule) (r : TargetingRule) (hr : admits r) :
      RuleEdit admits (before ++ r :: after) (before ++ r :: after')

variable {rules rules' : List TargetingRule}

/-- A search through a list that is split at a member. -/
theorem find?_append_cons {α : Type} (p : α → Bool) (before after : List α) (a : α) :
    (before ++ a :: after).find? p =
      (before.find? p).or (if p a then some a else after.find? p) := by
  rw [List.find?_append, List.find?_cons]
  cases p a <;> rfl

/-- A rule that does not admit a context is passed over wherever it stands. -/
theorem find?_admits_insert (before after : List TargetingRule) {r : TargetingRule}
    (hr : ¬r.Admits key context) :
    (before ++ r :: after).find? (·.admits key context) =
      (before ++ after).find? (·.admits key context) := by
  have hskip : ¬r.admits key context = true := fun h => hr (TargetingRule.admits_iff.1 h)
  rw [find?_append_cons, if_neg hskip, List.find?_append]

/-- Such a change leaves the rule that decides. -/
theorem RuleEdit.find?_eq (h : RuleEdit (·.Admits key context) rules rules') :
    rules'.find? (·.admits key context) = rules.find? (·.admits key context) := by
  cases h with
  | insert before after r hr => exact find?_admits_insert before after hr
  | delete before after r hr => exact (find?_admits_insert before after hr).symm
  | replace before after after' r hr =>
    have hhit : r.admits key context = true := TargetingRule.admits_iff.2 hr
    rw [find?_append_cons, find?_append_cons, if_pos hhit, if_pos hhit]

/-- So do any number of them. -/
theorem find?_of_edits
    (h : Relation.ReflTransGen (RuleEdit (·.Admits key context)) rules rules') :
    rules'.find? (·.admits key context) = rules.find? (·.admits key context) := by
  induction h with
  | refl => rfl
  | tail _ hedit ih => rw [hedit.find?_eq, ih]

/-! ## Main result -/

/-- The first rule that admits the context decides what a flag serves that is neither archived nor
disabled, and the default variant or else the default value does if no rule admits it.  Rules that
do not admit the context make no difference, nor do rules after the first that does, nor does the
status of the flag. -/
theorem first_admitting_rule_decides (f : Flag) (c : Configuration) (context : Context)
    (hactive : f.status ≠ .archived) (henabled : c.enabled = true) :
    (∀ i r, c.IsFirstAt f.key context i r →
      f.Resolves c r.variant (if r.rollout = none then .ruleMatch else .rolloutMatch)
        (f.evaluate c context)) ∧
    ((∃ r ∈ c.rules, r.Admits f.key context) → ∃ i r, c.IsFirstAt f.key context i r) ∧
    ((¬∃ r ∈ c.rules, r.Admits f.key context) →
      (∀ key, c.defaultVariant = some key → f.Resolves c key .default (f.evaluate c context)) ∧
      (c.defaultVariant = none → f.evaluate c context = ⟨f.defaultValue, "", .default⟩)) ∧
    (∀ rules, Relation.ReflTransGen (RuleEdit (·.Admits f.key context)) c.rules rules →
      f.evaluate { c with rules } context = f.evaluate c context) ∧
    ∀ status, status ≠ .archived →
      Flag.evaluate { f with status } c context = f.evaluate c context := by
  refine ⟨?first, exists_isFirstAt, ?none, ?edits, ?status⟩
  case first =>
    intro i r hr
    have hreason : r.reason = if r.rollout = none then .ruleMatch else .rolloutMatch := by
      cases hrollout : r.rollout <;> simp [TargetingRule.reason, hrollout]
    have hfirst := find?_admits_eq_some_iff.1 (exists_isFirstAt_iff.1 ⟨i, hr⟩)
    rw [evaluate_of_isFirst hactive henabled hfirst, ← hreason]
    exact resolves_serveVariant f c r.variant r.reason
  case none =>
    intro hnone
    have hnone' : c.NoneAdmits f.key context := fun r hr hadmits => hnone ⟨r, hr, hadmits⟩
    constructor
    · intro key hkey
      rw [evaluate_of_default hactive henabled hnone' hkey]
      exact resolves_serveVariant f c key .default
    · intro hdefault
      exact evaluate_of_none hactive henabled hnone' hdefault
  case edits =>
    intro rules hedits
    have hchoice : { c with rules }.choice? f.key context = c.choice? f.key context := by
      rw [Configuration.choice?, Configuration.choice?, find?_of_edits hedits]
    exact evaluate_congr rfl rfl rfl rfl hchoice
  case status =>
    intro status hstatus
    have harchived : Flag.isArchived { f with status } = f.isArchived := by
      rw [Flag.isArchived_eq_false hactive]
      exact Flag.isArchived_eq_false hstatus
    exact evaluate_congr harchived rfl rfl rfl rfl

/-- A flag that is on for enterprises and a tenth of all others, and half on for most of the
rest. -/
def staged : Entry where
  flag := { (default : Flag) with
    key := "dark-mode", valueType := .string, defaultValue := .string "off", status := .stale }
  config := { (default : Configuration) with
    enabled := true
    variants := [⟨"on", .string "on"⟩, ⟨"half", .string "half"⟩]
    rules := [⟨[⟨"plan", .equals, .string "enterprise"⟩], "on", none⟩, ⟨[], "on", some 10⟩,
      ⟨[], "half", some 60⟩, ⟨[], "on", some 100⟩] }

/-- Someone in bucket 59. -/
def someone : Context where
  userId := some "u1"
  attributes := .ofList [("plan", .string "free")]

/-- Neither the first rule admits them, whose condition is not met, nor the second, whose rollout
they miss. -/
theorem staged_isFirstAt :
    staged.config.IsFirstAt staged.flag.key someone 2 ⟨[], "half", some 60⟩ where
  rule := rfl
  admits := TargetingRule.admits_iff.1 (by decide +kernel)
  least j earlier hj hearlier := by
    rw [← TargetingRule.admits_eq_false_iff]
    match j, hj with
    | 0, _ =>
      obtain rfl := Option.some.inj hearlier
      decide +kernel
    | 1, _ =>
      obtain rfl := Option.some.inj hearlier
      decide +kernel

theorem first_admitting_rule_decides_thirdRule :
    staged.flag.status ≠ .archived ∧ staged.config.enabled = true ∧
    staged.flag.Resolves staged.config "half" .rolloutMatch (staged.evaluate someone) ∧
    staged.flag.evaluate { staged.config with rules := staged.config.rules.eraseIdx 1 } someone =
      staged.evaluate someone := by
  have hactive : staged.flag.status ≠ .archived := by decide
  have henabled : staged.config.enabled = true := rfl
  have hmissed : ¬TargetingRule.Admits ⟨[], "on", some 10⟩ staged.flag.key someone :=
    staged_isFirstAt.least 1 _ (by decide) rfl
  obtain ⟨hfirst, _, _, hedits, _⟩ :=
    first_admitting_rule_decides staged.flag staged.config someone hactive henabled
  refine ⟨hactive, henabled, hfirst 2 _ staged_isFirstAt, hedits _ (.single ?_)⟩
  exact .delete (staged.config.rules.take 1) (staged.config.rules.drop 2) _ hmissed

end FeatureFlags
