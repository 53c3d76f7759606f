import FeatureFlags.Proofs.Flag.Fitting

/-!
# Why a configuration is refused

A configuration is checked against its flag in a fixed order, and the first violation is reported.

* `checks` lists all checks of a configuration in their order.
* `Violates` says what it is to violate a check, whatever the others come to, and which error tells
  of it.
* `Reports` says that a result is that of a row of checks: the error of the first one that is
  violated, if there is any.  `Reports.bind` puts rows together.

The parts of the validation report on their parts of the row (`reports_checkVariants`,
`reports_checkDefault`, `reports_checkRules`), and `validate_reports_first_violation` puts them
together.
-/

namespace FeatureFlags.Configuration

/-- What is checked of a configuration.  Variants and rules are told by their places. -/
inductive Check where
  | flagId
  | defaultValue
  /-- No variant before the one at a place has its key. -/
  | variantKey (place : Nat)
  | variantValue (place : Nat)
  | defaultVariant
  | ruleVariant (place : Nat)
  | ruleRollout (place : Nat)

/-- The checks of a variant. -/
def variantChecks (place : Nat) : List Check := [.variantKey place, .variantValue place]

/-- The checks of a rule. -/
def ruleChecks (place : Nat) : List Check := [.ruleVariant place, .ruleRollout place]

/-- All checks of a configuration in their order. -/
def checks (c : Configuration) : List Check :=
  .flagId :: .defaultValue :: ((List.range c.variants.length).flatMap variantChecks ++
    .defaultVariant :: (List.range c.rules.length).flatMap ruleChecks)

/-- The configuration violates a check, and the error tells of it. -/
inductive Violates (c : Configuration) (f : Flag) : Check → FlagError → Prop where
  | flagId (h : c.flagId ≠ f.id) :
    c.Violates f .flagId (.configFlagMismatch f.id.text c.flagId.text)
  | defaultValue (h : f.defaultValue.hasType f.valueType = false) :
    c.Violates f .defaultValue (.defaultValueTypeMismatch f.valueType.name)
  | variantKey {place : Nat} {v w : Variant} (hv : c.variants[place]? = some v)
    (hw : w ∈ c.variants.take place) (h : w.key = v.key) :
    c.Violates f (.variantKey place) (.duplicateVariantKey v.key)
  | variantValue {place : Nat} {v : Variant} (hv : c.variants[place]? = some v)
    (h : v.value.hasType f.valueType = false) :
    c.Violates f (.variantValue place) (.valueTypeMismatch v.key f.valueType.name)
  | defaultVariant {key : String} (hkey : c.defaultVariant = some key)
    (h : key ∉ c.variantKeys) :
    c.Violates f .defaultVariant (.variantNotFound key)
  | ruleVariant {place : Nat} {r : TargetingRule} (hr : c.rules[place]? = some r)
    (h : r.variant ∉ c.variantKeys) :
    c.Violates f (.ruleVariant place) (.variantNotFound r.variant)
  | ruleRollout {place : Nat} {r : TargetingRule} {percentage : UInt8}
    (hr : c.rules[place]? = some r) (hpercentage : r.rollout = some percentage)
    (h : 100 < percentage.toNat) :
    c.Violates f (.ruleRollout place) (.invalidRollout percentage)

/-- The configuration does not violate a check. -/
def Passes (c : Configuration) (f : Flag) (check : Check) : Prop := ∀ e, ¬c.Violates f check e

/-- What a row of checks comes to: the error of the first one that is violated. -/
inductive Reports (c : Configuration) (f : Flag) :
    List Check → Except FlagError Unit → Prop where
  | nil : c.Reports f [] (.ok ())
  | violated {check : Check} {later : List Check} {e : FlagError} (h : c.Violates f check e) :
    c.Reports f (check :: later) (.error e)
  | passed {check : Check} {later : List Check} {result : Except FlagError Unit}
    (h : c.Passes f check) (hlater : c.Reports f later result) :
    c.Reports f (check :: later) result

variable {c : Configuration} {f : Flag} {check : Check} {row row' : List Check}
  {result result' : Except FlagError Unit} {e e' : FlagError} {place : Nat}

/-! ## Rows of checks -/

/-- A check is violated in one way. -/
theorem Violates.eq (h : c.Violates f check e) (h' : c.Violates f check e') : e = e' := by
  cases h with
  | flagId => cases h'; rfl
  | defaultValue => cases h'; rfl
  | variantKey hv => cases h' with | variantKey hv' => rw [Option.some.inj (hv.symm.trans hv')]
  | variantValue hv => cases h' with | variantValue hv' => rw [Option.some.inj (hv.symm.trans hv')]
  | defaultVariant hkey =>
    cases h' with
    | defaultVariant hkey' => rw [Option.some.inj (hkey.symm.trans hkey')]
  | ruleVariant hr => cases h' with | ruleVariant hr' => rw [Option.some.inj (hr.symm.trans hr')]
  | ruleRollout hr hpercentage =>
    cases h' with
    | ruleRollout hr' hpercentage' =>
      obtain rfl := Option.some.inj (hr.symm.trans hr')
      rw [Option.some.inj (hpercentage.symm.trans hpercentage')]

/-- A row of one check. -/
theorem Reports.singleton (h : c.Passes f check) : c.Reports f [check] (.ok ()) := .passed h .nil

/-- A row that goes on with another one. -/
theorem Reports.bind (h : c.Reports f row result) (h' : c.Reports f row' result') :
    c.Reports f (row ++ row') (result >>= fun _ => result') := by
  induction h with
  | nil => exact h'
  | violated hviolated => exact .violated hviolated
  | passed hpassed _ ih => exact .passed hpassed ih

/-- The error of a row tells of a violation, and there is none before it. -/
theorem Reports.eq_error_iff (h : c.Reports f row result) :
    result = .error e ↔ ∃ before check later, row = before ++ check :: later ∧
      (∀ k ∈ before, c.Passes f k) ∧ c.Violates f check e := by
  induction h with
  | nil => simp
  | @violated check later e' hviolated =>
    constructor
    · intro he
      obtain rfl := Except.error.inj he
      exact ⟨[], check, later, rfl, nofun, hviolated⟩
    · rintro ⟨before, k, rest, hrow, hbefore, hk⟩
      cases before with
      | nil =>
        obtain ⟨rfl, rfl⟩ := List.cons.inj hrow
        rw [hviolated.eq hk]
      | cons first before =>
        obtain ⟨rfl, -⟩ := List.cons.inj hrow
        exact absurd hviolated (hbefore _ List.mem_cons_self e')
  | @passed check later result hpassed _ ih =>
    rw [ih]
    constructor
    · rintro ⟨before, k, rest, rfl, hbefore, hk⟩
      exact ⟨check :: before, k, rest, rfl, List.forall_mem_cons.2 ⟨hpassed, hbefore⟩, hk⟩
    · rintro ⟨before, k, rest, hrow, hbefore, hk⟩
      cases before with
      | nil =>
        obtain ⟨rfl, -⟩ := List.cons.inj hrow
        exact absurd hk (hpassed e)
      | cons first before =>
        obtain ⟨rfl, hrest⟩ := List.cons.inj hrow
        exact ⟨before, k, rest, hrest, (List.forall_mem_cons.1 hbefore).2, hk⟩

/-! ## Variants -/

/-- The variants are checked one after the other, each against the keys of those before it. -/
theorem reports_checkVariants (before : List Variant) {rest : List Variant} {seen : List String}
    (hsplit : c.variants = before ++ rest)
    (hseen : ∀ key, key ∈ seen ↔ ∃ w ∈ before, w.key = key) :
    c.Reports f ((List.range' before.length rest.length).flatMap variantChecks)
      (checkVariants f.valueType seen rest) := by
  induction rest generalizing before seen with
  | nil => exact .nil
  | cons v rest ih =>
    have hv : c.variants[before.length]? = some v := by simp [hsplit]
    have htake : c.variants.take before.length = before := by simp [hsplit]
    have hlater : c.Reports f ((List.range' (before.length + 1) rest.length).flatMap variantChecks)
        (checkVariants f.valueType (v.key :: seen) rest) := by
      have hsplit' : c.variants = (before ++ [v]) ++ rest := by simp [hsplit]
      have hseen' : ∀ key, key ∈ v.key :: seen ↔ ∃ w ∈ before ++ [v], w.key = key := by
        intro key
        simp [hseen, or_comm, eq_comm]
      simpa using ih (before ++ [v]) hsplit' hseen'
    rw [List.length_cons, List.range'_succ, List.flatMap_cons, checkVariants]
    show c.Reports f (.variantKey before.length :: .variantValue before.length :: _) _
    by_cases hkey : v.key ∈ seen
    · rw [if_pos hkey]
      obtain ⟨w, hw, heq⟩ := (hseen v.key).1 hkey
      exact .violated (.variantKey hv (htake.symm ▸ hw) heq)
    · rw [if_neg hkey]
      refine .passed ?fresh ?_
      case fresh =>
        intro e h
        cases h with
        | variantKey hv' hw heq =>
          obtain rfl := Option.some.inj (hv.symm.trans hv')
          exact hkey ((hseen v.key).2 ⟨_, htake ▸ hw, heq⟩)
      cases htype : v.value.hasType f.valueType with
      | false => exact .violated (.variantValue hv htype)
      | true =>
        refine .passed (fun e h => ?_) hlater
        cases h with
        | variantValue hv' htype' =>
          obtain rfl := Option.some.inj (hv.symm.trans hv')
          exact Bool.false_ne_true (htype'.symm.trans htype)

/-! ## References and rollouts -/

/-- A reference is missing if no variant has its key. -/
theorem reports_checkReference {key : String} (hthere : key ∈ c.variantKeys → c.Passes f check)
    (hmissing : key ∉ c.variantKeys → c.Violates f check (.variantNotFound key)) :
    c.Reports f [check] (checkReference c.variants key) := by
  by_cases hmem : key ∈ c.variantKeys
  · rw [checkReference_eq_ok_iff.2 hmem]
    exact .singleton (hthere hmem)
  · have hrefused : checkReference c.variants key = .error (.variantNotFound key) := by
      rw [checkReference, if_neg]
      simpa [variantKeys] using hmem
    rw [hrefused]
    exact .violated (hmissing hmem)

theorem reports_checkDefault :
    c.Reports f [.defaultVariant] (checkDefault c.variants c.defaultVariant) := by
  cases hkey : c.defaultVariant with
  | none =>
    refine .singleton fun e h => ?_
    cases h with
    | defaultVariant hkey' => cases hkey.symm.trans hkey'
  | some key =>
    refine reports_checkReference (fun hmem e h => ?_) (.defaultVariant hkey)
    cases h with
    | defaultVariant hkey' hmem' =>
      obtain rfl := Option.some.inj (hkey.symm.trans hkey')
      exact hmem' hmem

theorem reports_ruleVariant {r : TargetingRule} (hr : c.rules[place]? = some r) :
    c.Reports f [.ruleVariant place] (checkReference c.variants r.variant) := by
  refine reports_checkReference (fun hmem e h => ?_) (.ruleVariant hr)
  cases h with
  | ruleVariant hr' hmem' =>
    obtain rfl := Option.some.inj (hr.symm.trans hr')
    exact hmem' hmem

theorem reports_ruleRollout {r : TargetingRule} (hr : c.rules[place]? = some r) :
    c.Reports f [.ruleRollout place] (checkRollout r.rollout) := by
  cases hrollout : r.rollout with
  | none =>
    refine .singleton fun e h => ?_
    cases h with
    | ruleRollout hr' hrollout' =>
      obtain rfl := Option.some.inj (hr.symm.trans hr')
      cases hrollout.symm.trans hrollout'
  | some percentage =>
    rw [checkRollout]
    by_cases hmax : maxRollout < percentage
    · rw [if_pos hmax]
      exact .violated (.ruleRollout hr hrollout (UInt8.lt_iff_toNat_lt.1 hmax))
    · rw [if_neg hmax]
      refine .singleton fun e h => ?_
      cases h with
      | ruleRollout hr' hrollout' hmax' =>
        obtain rfl := Option.some.inj (hr.symm.trans hr')
        obtain rfl := Option.some.inj (hrollout.symm.trans hrollout')
        exact hmax (UInt8.lt_iff_toNat_lt.2 hmax')

/-- The rules are checked one after the other. -/
theorem reports_checkRules (before : List TargetingRule) {rest : List TargetingRule}
    (hsplit : c.rules = before ++ rest) :
    c.Reports f ((List.range' before.length rest.length).flatMap ruleChecks)
      (checkRules c.variants rest) := by
  induction rest generalizing before with
  | nil => exact .nil
  | cons r rest ih =>
    have hr : c.rules[before.length]? = some r := by simp [hsplit]
    have hlater : c.Reports f ((List.range' (before.length + 1) rest.length).flatMap ruleChecks)
        (checkRules c.variants rest) := by
      have hsplit' : c.rules = (before ++ [r]) ++ rest := by simp [hsplit]
      simpa using ih (before ++ [r]) hsplit'
    rw [List.length_cons, List.range'_succ, List.flatMap_cons, checkRules]
    exact (reports_ruleVariant hr).bind ((reports_ruleRollout hr).bind hlater)

/-! ## Main result -/

/-- The validation is the row of all checks. -/
theorem reports_validate (c : Configuration) (f : Flag) :
    c.Reports f c.checks (c.validate f) := by
  have hvariants : c.Reports f ((List.range c.variants.length).flatMap variantChecks)
      (checkVariants f.valueType [] c.variants) := by
    rw [List.range_eq_range']
    exact reports_checkVariants [] rfl (by simp)
  have hrules : c.Reports f ((List.range c.rules.length).flatMap ruleChecks)
      (checkRules c.variants c.rules) := by
    rw [List.range_eq_range']
    exact reports_checkRules [] rfl
  rw [checks, validate]
  by_cases hid : c.flagId = f.id
  · rw [if_neg (not_not_intro hid)]
    refine .passed ?_ ?_
    · intro e h
      cases h with
      | flagId hid' => exact hid' hid
    cases hdefault : f.defaultValue.hasType f.valueType with
    | false => exact .violated (.defaultValue hdefault)
    | true =>
      refine .passed ?_ (hvariants.bind (reports_checkDefault.bind hrules))
      intro e h
      cases h with
      | defaultValue hdefault' => exact Bool.false_ne_true (hdefault'.symm.trans hdefault)
  · rw [if_pos hid]
    exact .violated (.flagId hid)

/-- A configuration is accepted exactly if it fits its flag.  Otherwise it is refused with the error
that tells of the first violation: that of the flag, of the default value, of the variants in their
order (each for its key before its value), of the default variant, and of the rules in their order
(each for its variant before its rollout). -/
theorem validate_reports_first_violation (c : Configuration) (f : Flag) :
    (c.validate f = .ok () ↔ c.Fits f) ∧
    ∀ e, c.validate f = .error e ↔ ∃ before check later, c.checks = before ++ check :: later ∧
      (∀ k ∈ before, c.Passes f k) ∧ c.Violates f check e := by
  constructor
  · exact validate_eq_ok_iff
  · intro e
    exact (reports_validate c f).eq_error_iff

/-- A key that is repeated counts before a value of another type and before a default variant that
is not there. -/
example : validate
    { (default : Configuration) with
      variants := [⟨"on", .boolean true⟩, ⟨"on", .string "yes"⟩]
      defaultVariant := some "off" } default = .error (.duplicateVariantKey "on") := rfl

end FeatureFlags.Configuration
