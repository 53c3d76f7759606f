import FeatureFlags.Proofs.Evaluation.FirstRule

/-!
# Another rollout for one rule

What becomes of an evaluation when a rule in the middle of a configuration is given another rollout.
The rules before it may decide without it, and whoever misses it goes on to the rules after it, so
that the threshold of the rollout alone does not say what is served.

* `inRollout_mono`, `inRollout_zero` and `inRollout_of_hundred_le`: whom a rollout includes.
* `choice?_withRollout` and `choice?_withoutRule`: what is chosen comes from the rules before a
  place, or else from the rule at the place, or else from what comes after it.
* `choice?_raise`, `choice?_raise_of_served`, `choice?_zero` and `choice?_hundred`: what a larger
  percentage, a percentage of zero and one of a hundred or more do to the choice.

`rollout_raised` says the same of whole evaluations.
-/

namespace FeatureFlags

variable {f : Flag} {c d : Configuration} {context : Context} {key subject : String} {i : Nat}
  {r : TargetingRule} {p q : UInt8}

/-! ## Whom a rollout includes -/

/-- Buckets are below a hundred. -/
theorem bucket_lt (flagKey subject : String) : bucket flagKey subject < 100 :=
  UInt32.mod_lt _ (by decide)

/-- A larger percentage includes everyone that a smaller one does. -/
theorem inRollout_mono (hpq : p ≤ q) (hp : inRollout key subject p = true) :
    inRollout key subject q = true := by
  unfold inRollout at hp ⊢
  rw [decide_eq_true_iff] at hp ⊢
  have hle : p.toUInt32 ≤ q.toUInt32 := UInt8.toUInt32_le.2 hpq
  rw [UInt32.lt_iff_toNat_lt] at hp ⊢
  rw [UInt32.le_iff_toNat_le] at hle
  omega

/-- A percentage of zero includes no one. -/
theorem inRollout_zero (key subject : String) : inRollout key subject 0 = false := by
  unfold inRollout
  rw [decide_eq_false_iff_not, UInt32.lt_iff_toNat_lt]
  exact Nat.not_lt_zero _

/-- A percentage of a hundred or more includes everyone. -/
theorem inRollout_of_hundred_le (hq : 100 ≤ q) (key subject : String) :
    inRollout key subject q = true := by
  unfold inRollout
  rw [decide_eq_true_iff, UInt32.lt_iff_toNat_lt]
  have hbucket : (bucket key subject).toNat < 100 :=
    UInt32.lt_iff_toNat_lt.1 (bucket_lt key subject)
  have hle : 100 ≤ q.toNat := UInt8.le_iff_toNat_le.1 hq
  rw [UInt8.toNat_toUInt32]
  omega

namespace TargetingRule

theorem includes_some (r : TargetingRule) (p : UInt8) (key : String) (context : Context) :
    includes { r with rollout := some p } key context = inRollout key context.subject p :=
  Option.all_some

theorem admits_some (r : TargetingRule) (p : UInt8) (key : String) (context : Context) :
    admits { r with rollout := some p } key context =
      (r.isMet context && inRollout key context.subject p) := by
  rw [← includes_some]
  rfl

theorem admits_none (r : TargetingRule) (key : String) (context : Context) :
    admits { r with rollout := none } key context = r.isMet context := by
  simp only [admits, isMet, includes, Option.all_none, Bool.and_true]

/-- Whoever a rule admits it also admits with a larger percentage. -/
theorem admits_raise (hpq : p ≤ q) (h : admits { r with rollout := some p } key context = true) :
    admits { r with rollout := some q } key context = true := by
  rw [admits_some, Bool.and_eq_true] at h ⊢
  exact ⟨h.1, inRollout_mono hpq h.2⟩

end TargetingRule

/-! ## The rules around a place -/

namespace Configuration

/-- The configuration with another rollout for the rule at a place. -/
def withRollout (c : Configuration) (i : Nat) (rollout : Option UInt8) : Configuration :=
  { c with rules := c.rules.modify i fun r => { r with rollout } }

/-- The configuration without the rule at a place. -/
def withoutRule (c : Configuration) (i : Nat) : Configuration :=
  { c with rules := c.rules.eraseIdx i }

/-- What the rules before a place choose. -/
def earlier? (c : Configuration) (i : Nat) (flagKey : String) (context : Context) :
    Option (String × Reason) :=
  ((c.rules.take i).find? (·.admits flagKey context)).map fun r => (r.variant, r.reason)

/-- What the rules after a place choose, or else the default variant. -/
def later? (c : Configuration) (i : Nat) (flagKey : String) (context : Context) :
    Option (String × Reason) :=
  { c with rules := c.rules.drop (i + 1) }.choice? flagKey context

/-- The rule at a place is asked after those before it and before those after it. -/
theorem choice?_withRollout (hr : c.rules[i]? = some r) (rollout : Option UInt8) (key : String)
    (context : Context) :
    (c.withRollout i rollout).choice? key context =
      (c.earlier? i key context).or
        (if TargetingRule.admits { r with rollout } key context then
          some (r.variant, TargetingRule.reason { r with rollout })
        else c.later? i key context) := by
  obtain ⟨hi, rfl⟩ := List.getElem?_eq_some_iff.1 hr
  unfold choice? withRollout earlier? later?
  simp only [List.modify_eq_take_cons_drop hi, find?_append_cons]
  cases (c.rules.take i).find? (·.admits key context) with
  | some s => rfl
  | none =>
    simp only [Option.none_or, Option.map_none]
    split
    · rfl
    · rfl

theorem choice?_withoutRule (c : Configuration) (i : Nat) (key : String) (context : Context) :
    (c.withoutRule i).choice? key context =
      (c.earlier? i key context).or (c.later? i key context) := by
  unfold choice? withoutRule earlier? later?
  simp only [List.eraseIdx_eq_take_drop_succ, List.find?_append]
  cases (c.rules.take i).find? (·.admits key context) with
  | some s => rfl
  | none => rfl

/-- A rule that is given the rollout that it has stays as it is. -/
theorem withRollout_self (hr : c.rules[i]? = some r) : c.withRollout i r.rollout = c := by
  obtain ⟨hi, rfl⟩ := List.getElem?_eq_some_iff.1 hr
  have hrules : (c.rules.modify i fun s => { s with rollout := c.rules[i].rollout }) = c.rules := by
    rw [List.modify_eq_take_cons_drop hi]
    show c.rules.take i ++ c.rules[i] :: c.rules.drop (i + 1) = c.rules
    rw [List.getElem_cons_drop, List.take_append_drop]
  unfold withRollout
  rw [hrules]

/-! ## What another rollout does to the choice -/

/-- With a larger percentage the choice stays, or falls on the rule. -/
theorem choice?_raise (hr : c.rules[i]? = some r) (hpq : p ≤ q) (key : String)
    (context : Context) :
    (c.withRollout i (some q)).choice? key context =
        (c.withRollout i (some p)).choice? key context ∨
      (c.withRollout i (some q)).choice? key context = some (r.variant, .rolloutMatch) := by
  rw [choice?_withRollout hr, choice?_withRollout hr]
  cases c.earlier? i key context with
  | some choice =>
    left
    rw [Option.some_or, Option.some_or]
  | none =>
    by_cases hq : TargetingRule.admits { r with rollout := some q } key context = true
    · right
      rw [if_pos hq]
      rfl
    · have hp : ¬TargetingRule.admits { r with rollout := some p } key context = true :=
        fun h => hq (TargetingRule.admits_raise hpq h)
      left
      rw [if_neg hp, if_neg hq]

/-- A rule up to a place that decides is found before the place, or is the rule at the place. -/
theorem IsFirstAt.earlier_or_admits {j : Nat} {s : TargetingRule}
    (h : c.IsFirstAt key context j s) (hj : j ≤ i) (hr : c.rules[i]? = some r) :
    (∃ choice, c.earlier? i key context = some choice) ∨ r.admits key context = true := by
  rcases Nat.lt_or_eq_of_le hj with hlt | rfl
  · left
    have hs : s ∈ c.rules.take i := by
      apply List.mem_of_getElem?
      rw [List.getElem?_take, if_pos hlt]
      exact h.rule
    have hfound : ((c.rules.take i).find? (·.admits key context)).isSome = true :=
      List.find?_isSome.2 ⟨s, hs, TargetingRule.admits_iff.2 h.admits⟩
    obtain ⟨found, hfound⟩ := Option.isSome_iff_exists.1 hfound
    exact ⟨_, congrArg _ hfound⟩
  · right
    obtain rfl := Option.some.inj (h.rule.symm.trans hr)
    exact TargetingRule.admits_iff.2 h.admits

/-- If the rule or one before it decides, the choice stays. -/
theorem choice?_raise_of_served (hr : c.rules[i]? = some r) (hp : r.rollout = some p)
    (hpq : p ≤ q) {j : Nat} {s : TargetingRule} (hj : j ≤ i) (hs : c.IsFirstAt key context j s) :
    (c.withRollout i (some q)).choice? key context =
      (c.withRollout i (some p)).choice? key context := by
  rw [choice?_withRollout hr, choice?_withRollout hr]
  rcases hs.earlier_or_admits hj hr with ⟨choice, hchoice⟩ | hadmits
  · rw [hchoice, Option.some_or, Option.some_or]
  · have hold : TargetingRule.admits { r with rollout := some p } key context = true := by
      rw [← hp]
      exact hadmits
    rw [if_pos hold, if_pos (TargetingRule.admits_raise hpq hold)]
    rfl

/-- With a percentage of zero the choice is that without the rule. -/
theorem choice?_zero (hr : c.rules[i]? = some r) (key : String) (context : Context) :
    (c.withRollout i (some 0)).choice? key context = (c.withoutRule i).choice? key context := by
  rw [choice?_withRollout hr, choice?_withoutRule, TargetingRule.admits_some, inRollout_zero,
    Bool.and_false, if_neg Bool.false_ne_true]

/-- With a percentage of a hundred or more the same variant is chosen as without a rollout. -/
theorem choice?_hundred (hr : c.rules[i]? = some r) (hq : 100 ≤ q) (key : String)
    (context : Context) :
    ((c.withRollout i (some q)).choice? key context).map (·.1) =
      ((c.withRollout i none).choice? key context).map (·.1) := by
  rw [choice?_withRollout hr, choice?_withRollout hr, TargetingRule.admits_some,
    inRollout_of_hundred_le hq, Bool.and_true, TargetingRule.admits_none]
  cases c.earlier? i key context with
  | some choice => rfl
  | none =>
    simp only [Option.none_or]
    split
    · rfl
    · rfl

end Configuration

/-! ## What is served for a choice -/

/-- If neither the flag is archived nor the configuration disabled, the variant that is chosen is
served. -/
theorem evaluate_of_choice? {reason : Reason} (hactive : f.isArchived = false)
    (henabled : c.enabled = true) (hchoice : c.choice? f.key context = some (key, reason)) :
    f.evaluate c context = f.serveVariant c key reason := by
  rw [evaluate_eq, hactive, henabled, hchoice]
  rfl

/-- Otherwise it does not matter what is chosen. -/
theorem evaluate_of_inactive (henabled : c.enabled = d.enabled)
    (hinactive : ¬(f.isArchived = false ∧ d.enabled = true)) :
    f.evaluate c context = f.evaluate d context := by
  rw [evaluate_eq, evaluate_eq, henabled]
  cases harchived : f.isArchived with
  | true => rfl
  | false =>
    cases hdisabled : d.enabled with
    | false => rfl
    | true => exact absurd ⟨harchived, hdisabled⟩ hinactive

/-- What is served does not depend on the reason for which a variant is chosen. -/
theorem value_congr (henabled : c.enabled = d.enabled) (hvariants : c.variants = d.variants)
    (hchoice : (c.choice? f.key context).map (·.1) = (d.choice? f.key context).map (·.1)) :
    (f.evaluate c context).value = (f.evaluate d context).value ∧
      (f.evaluate c context).variant = (f.evaluate d context).variant := by
  have hvariant : ∀ key reason reason', (f.serveVariant c key reason).value =
      (f.serveVariant d key reason').value ∧
        (f.serveVariant c key reason).variant = (f.serveVariant d key reason').variant := by
    intro key reason reason'
    unfold Flag.serveVariant Configuration.variant?
    rw [hvariants]
    cases d.variants.find? (·.key == key) with
    | some v => exact ⟨rfl, rfl⟩
    | none => exact ⟨rfl, rfl⟩
  rw [evaluate_eq, evaluate_eq, henabled]
  split
  · exact ⟨rfl, rfl⟩
  · split
    · exact ⟨rfl, rfl⟩
    · cases hc : c.choice? f.key context with
      | none =>
        rw [hc, Option.map_none, eq_comm, Option.map_eq_none_iff] at hchoice
        rw [hchoice]
        exact ⟨rfl, rfl⟩
      | some choice =>
        rw [hc, Option.map_some, eq_comm, Option.map_eq_some_iff] at hchoice
        obtain ⟨choice', hd, hkey⟩ := hchoice
        rw [hd]
        obtain ⟨key, reason⟩ := choice
        obtain ⟨key', reason'⟩ := choice'
        obtain rfl : key' = key := hkey
        exact hvariant key' reason reason'

/-! ## Main result -/

/-- A larger percentage for the rollout of one rule leaves what is served to a context as it is, or
the variant of the rule is served for its rollout.  Whoever was served by the rule or by one before
it is served as before.  A percentage of zero serves what is served without the rule, and one of a
hundred or more serves the value and the variant that are served without a rollout. -/
theorem rollout_raised (f : Flag) (c : Configuration) (context : Context) (i : Nat)
    (r : TargetingRule) (p q : UInt8) (hr : c.rules[i]? = some r) (hp : r.rollout = some p)
    (hpq : p ≤ q) :
    (f.evaluate (c.withRollout i (some q)) context = f.evaluate c context ∨
      f.Resolves c r.variant .rolloutMatch (f.evaluate (c.withRollout i (some q)) context)) ∧
    (∀ j s, j ≤ i → c.IsFirstAt f.key context j s →
      f.evaluate (c.withRollout i (some q)) context = f.evaluate c context) ∧
    f.evaluate (c.withRollout i (some 0)) context = f.evaluate (c.withoutRule i) context ∧
    ∀ full : UInt8, 100 ≤ full →
      (f.evaluate (c.withRollout i (some full)) context).value =
          (f.evaluate (c.withRollout i none) context).value ∧
        (f.evaluate (c.withRollout i (some full)) context).variant =
          (f.evaluate (c.withRollout i none) context).variant := by
  have hself : c.withRollout i (some p) = c := by
    rw [← hp]
    exact Configuration.withRollout_self hr
  refine ⟨?raised, ?served, ?zero, ?full⟩
  case raised =>
    rcases Configuration.choice?_raise hr hpq f.key context with hsame | hrule
    · left
      rw [hself] at hsame
      exact evaluate_congr rfl rfl rfl rfl hsame
    · by_cases hactive : f.isArchived = false ∧ c.enabled = true
      · right
        have henabled : (c.withRollout i (some q)).enabled = true := hactive.2
        rw [evaluate_of_choice? hactive.1 henabled hrule]
        exact resolves_serveVariant f c r.variant .rolloutMatch
      · left
        exact evaluate_of_inactive rfl hactive
  case served =>
    intro j s hj hs
    have hsame := Configuration.choice?_raise_of_served hr hp hpq hj hs
    rw [hself] at hsame
    exact evaluate_congr rfl rfl rfl rfl hsame
  case zero => exact evaluate_congr rfl rfl rfl rfl (Configuration.choice?_zero hr f.key context)
  case full =>
    intro full hfull
    exact value_congr rfl rfl (Configuration.choice?_hundred hr hfull f.key context)

/-- With the second rollout raised to 60 percent, someone in bucket 59 no longer gets the third
rule. -/
theorem rollout_raised_reached :
    staged.config.rules[1]? = some ⟨[], "on", some 10⟩ ∧ (10 : UInt8) ≤ 60 ∧
    (staged.evaluate someone).variant = "half" ∧
    staged.flag.Resolves staged.config "on" .rolloutMatch
      (staged.flag.evaluate (staged.config.withRollout 1 (some 60)) someone) ∧
    staged.flag.evaluate (staged.config.withRollout 3 (some 200)) someone =
      staged.evaluate someone := by
  have hsecond : staged.config.rules[1]? = some ⟨[], "on", some 10⟩ := rfl
  have hlast : staged.config.rules[3]? = some ⟨[], "on", some 100⟩ := rfl
  have hbefore : (staged.evaluate someone).variant = "half" := by decide +kernel
  have hafter : (staged.flag.evaluate (staged.config.withRollout 1 (some 60)) someone).variant =
      "on" := by decide +kernel
  obtain ⟨hraised, _⟩ :=
    rollout_raised staged.flag staged.config someone 1 _ 10 60 hsecond rfl (by decide)
  obtain ⟨_, hserved, _⟩ :=
    rollout_raised staged.flag staged.config someone 3 _ 100 200 hlast rfl (by decide)
  refine ⟨hsecond, by decide, hbefore, hraised.resolve_left ?_,
    hserved 2 _ (by decide) staged_isFirstAt⟩
  intro hsame
  rw [hsame] at hafter
  exact absurd (hbefore.symm.trans hafter) (by decide)

end FeatureFlags
