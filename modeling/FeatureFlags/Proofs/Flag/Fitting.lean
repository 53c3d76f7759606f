import FeatureFlags.Flag.Validation
import Mathlib.Data.List.Nodup

/-!
# Configurations that fit their flags

`Configuration.Fits` says what a configuration has to be like for its flag, and
`validate_eq_ok_iff` that the checks accept exactly the configurations that fit.

In a configuration that fits, a rule and the default variant name a variant that is there
(`Fits.exists_variant`), and no two variants have one key (`Fits.eq_of_key_eq`).
-/

namespace FeatureFlags.Configuration

variable {c : Configuration} {f : Flag} {type : ValueType}

/-- The keys of the variants. -/
def variantKeys (c : Configuration) : List String := c.variants.map Variant.key

/-- The keys by which a configuration names variants. -/
def Names (c : Configuration) (key : String) : Prop :=
  c.defaultVariant = some key ∨ ∃ r ∈ c.rules, r.variant = key

/-- What a configuration has to be like for its flag. -/
structure Fits (c : Configuration) (f : Flag) : Prop where
  flagId : c.flagId = f.id
  defaultValue : f.defaultValue.hasType f.valueType = true
  distinct : c.variantKeys.Nodup
  values : ∀ v ∈ c.variants, v.value.hasType f.valueType = true
  named : ∀ key, c.Names key → key ∈ c.variantKeys
  rollouts : ∀ r ∈ c.rules, ∀ percentage, r.rollout = some percentage → percentage ≤ maxRollout

/-! ## What the checks accept -/

/-- Of two checks both have to pass. -/
theorem bind_eq_ok_iff {x y : Except FlagError Unit} :
    (x >>= fun _ => y) = .ok () ↔ x = .ok () ∧ y = .ok () := by
  cases x with
  | error e => simp [bind, Except.bind]
  | ok u => simp [bind, Except.bind]

theorem checkVariants_eq_ok_iff {seen : List String} {variants : List Variant} :
    checkVariants type seen variants = .ok () ↔
      (variants.map Variant.key).Nodup ∧ (∀ v ∈ variants, v.key ∉ seen) ∧
        ∀ v ∈ variants, v.value.hasType type = true := by
  induction variants generalizing seen with
  | nil => simp [checkVariants]
  | cons v rest ih =>
    rw [checkVariants]
    by_cases hseen : v.key ∈ seen
    · simp [hseen]
    · by_cases htype : v.value.hasType type = true
      · rw [if_neg hseen, htype, if_neg (by decide), ih]
        rw [List.forall_mem_cons, List.forall_mem_cons]
        simp only [List.map_cons, List.nodup_cons, List.mem_cons, not_or, List.mem_map, not_exists,
          not_and]
        constructor
        · rintro ⟨hnodup, hfresh, hvalues⟩
          exact ⟨⟨fun x hx => (hfresh x hx).1, hnodup⟩, ⟨hseen, fun x hx => (hfresh x hx).2⟩,
            htype, hvalues⟩
        · rintro ⟨⟨hfirst, hnodup⟩, ⟨_, hfresh⟩, _, hvalues⟩
          exact ⟨hnodup, fun x hx => ⟨hfirst x hx, hfresh x hx⟩, hvalues⟩
      · simp [hseen, htype]

theorem checkReference_eq_ok_iff {variants : List Variant} {key : String} :
    checkReference variants key = .ok () ↔ key ∈ variants.map Variant.key := by
  rw [checkReference, List.mem_map]
  split
  · next h => simpa using h
  · next h => simpa using h

theorem checkDefault_eq_ok_iff {variants : List Variant} {key? : Option String} :
    checkDefault variants key? = .ok () ↔
      ∀ key, key? = some key → key ∈ variants.map Variant.key := by
  cases key? with
  | none => simp [checkDefault]
  | some key => simp only [checkDefault, checkReference_eq_ok_iff, Option.some.injEq, forall_eq']

theorem checkRollout_eq_ok_iff {rollout : Option UInt8} :
    checkRollout rollout = .ok () ↔
      ∀ percentage, rollout = some percentage → percentage ≤ maxRollout := by
  cases rollout with
  | none => simp [checkRollout]
  | some percentage =>
    simp only [checkRollout, Option.some.injEq, forall_eq']
    split
    · next h => simpa using h
    · next h => simpa using h

theorem checkRules_eq_ok_iff {variants : List Variant} {rules : List TargetingRule} :
    checkRules variants rules = .ok () ↔ ∀ r ∈ rules, r.variant ∈ variants.map Variant.key ∧
      ∀ percentage, r.rollout = some percentage → percentage ≤ maxRollout := by
  induction rules with
  | nil => simp [checkRules]
  | cons r rest ih =>
    rw [checkRules, bind_eq_ok_iff, bind_eq_ok_iff, checkReference_eq_ok_iff,
      checkRollout_eq_ok_iff, ih, List.forall_mem_cons, and_assoc]

/-- The checks accept exactly the configurations that fit. -/
theorem validate_eq_ok_iff : c.validate f = .ok () ↔ c.Fits f := by
  rw [validate]
  by_cases hid : c.flagId = f.id
  · by_cases hdefault : f.defaultValue.hasType f.valueType = true
    · rw [if_neg (not_not_intro hid), hdefault, if_neg (by decide), bind_eq_ok_iff, bind_eq_ok_iff,
        checkVariants_eq_ok_iff, checkDefault_eq_ok_iff, checkRules_eq_ok_iff]
      constructor
      · rintro ⟨⟨hnodup, _, hvalues⟩, hnamed, hrules⟩
        refine ⟨hid, hdefault, hnodup, hvalues, ?_, fun r hr => (hrules r hr).2⟩
        rintro key (hkey | ⟨r, hr, rfl⟩)
        · exact hnamed key hkey
        · exact (hrules r hr).1
      · intro h
        refine ⟨⟨h.distinct, fun _ _ => List.not_mem_nil, h.values⟩,
          fun key hkey => h.named key (.inl hkey), fun r hr => ⟨?_, h.rollouts r hr⟩⟩
        exact h.named r.variant (.inr ⟨r, hr, rfl⟩)
    · rw [if_neg (not_not_intro hid), if_pos (by simpa using hdefault)]
      exact iff_of_false (fun h => nomatch h) fun h => hdefault h.defaultValue
  · rw [if_pos hid]
    exact iff_of_false (fun h => nomatch h) fun h => hid h.flagId

/-! ## Variants -/

theorem mem_of_variant?_eq_some {key : String} {v : Variant} (hv : c.variant? key = some v) :
    v ∈ c.variants ∧ v.key = key :=
  ⟨List.mem_of_find?_eq_some hv, by simpa using List.find?_some hv⟩

/-- No two variants of a configuration that fits have one key. -/
theorem Fits.eq_of_key_eq (h : c.Fits f) {v w : Variant} (hv : v ∈ c.variants)
    (hw : w ∈ c.variants) (hkey : v.key = w.key) : v = w :=
  List.inj_on_of_nodup_map h.distinct hv hw hkey

/-- A key that a configuration names is the key of a variant. -/
theorem Fits.exists_variant (h : c.Fits f) {key : String} (hkey : c.Names key) :
    ∃ v, c.variant? key = some v := by
  obtain ⟨v, hv, rfl⟩ := List.mem_map.1 (h.named key hkey)
  rw [← Option.isSome_iff_exists, variant?, List.find?_isSome]
  exact ⟨v, hv, beq_self_eq_true v.key⟩

end FeatureFlags.Configuration
