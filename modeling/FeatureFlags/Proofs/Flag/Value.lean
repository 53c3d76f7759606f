import FeatureFlags.Proofs.Flag.Fitting
import FeatureFlags.Proofs.Json.Number
import FeatureFlags.Proofs.WireFormats

/-!
# Flag values that are read back

A value is written as its JSON value, and read as the first of a boolean, a number, a string and a
document that the JSON value can be read as (`FlagValue.readBack`).  So a scalar that was held as a
document comes back as what it is, a whole number as the nearest double, and infinities and
not-a-number as null.

* `Json.WellFormed`, `Flag.WellFormed` and `Configuration.WellFormed` are what the data of a running
  system is like: objects are tables, whole numbers have 64 bits, and timestamps are instants.
* `Wire.ReadsAs`: what something is read back as, from its document and from its text.
* `FlagValue.ViewsAgree`: how a value, its JSON value and what it is read back as are related.
* `FlagValue.views_agree`: the views of every value agree, and a flag and a configuration that fit
  each other still do when they have been read back, unless a number in them is not finite.
-/

namespace FeatureFlags

/-! ## What always reads back -/

namespace Wire

variable {α : Type} [Wire α] {a b : α}

/-- What is written of the one is read as the other, and as a text if the reader has room for it and
the doubles in it read back. -/
structure ReadsAs (a b : α) : Prop where
  document : decode? (encode a) = some b
  text : (encode a).Within false 127 → (encode a).DoublesReadBack → parse? (encode a).text = some b

theorem ReadsAs.of_document (h : decode? (encode a) = some b) : ReadsAs a b where
  document := h
  text hwithin hreads := by rw [parse?_text_of_doublesReadBack hwithin hreads, h]

/-- Every value of the type is read back as it was written. -/
def ReadsBack (α : Type) [Wire α] : Prop := ∀ a : α, decode? (encode a) = some a

theorem readsBack_bool : ReadsBack Bool := fun _ => rfl

theorem readsBack_string : ReadsBack String := fun _ => rfl

theorem readsBack_uint8 : ReadsBack UInt8 := decode?_encode_uint8

theorem readsBack_uuid : ReadsBack Uuid := Uuid.parse?_text

theorem readsBack_flagId : ReadsBack FlagId := fun i =>
  congrArg (Option.map FlagId.mk) (readsBack_uuid i.uuid)

theorem readsBack_projectId : ReadsBack ProjectId := fun i =>
  congrArg (Option.map ProjectId.mk) (readsBack_uuid i.uuid)

theorem readsBack_environmentId : ReadsBack EnvironmentId := fun i =>
  congrArg (Option.map EnvironmentId.mk) (readsBack_uuid i.uuid)

theorem readsBack_valueType : ReadsBack ValueType := fun t => by cases t <;> rfl

theorem readsBack_flagStatus : ReadsBack FlagStatus := fun s => by cases s <;> rfl

theorem readsBack_operator : ReadsBack Operator := fun op => by cases op <;> rfl

/-- Null stands for a value that is not there, so nothing else may be written as null. -/
theorem ReadsBack.option (h : ReadsBack α) (hnull : ∀ a : α, encode a ≠ .null) :
    ReadsBack (Option α)
  | none => rfl
  | some a => decode?_eq_some_some_iff.2 ⟨hnull a, h a⟩

theorem readsBack_optionString : ReadsBack (Option String) :=
  readsBack_string.option fun _ h => by cases h

theorem readsBack_optionUInt8 : ReadsBack (Option UInt8) :=
  readsBack_uint8.option fun _ h => by cases h

theorem decode?_encode_list {as : List α} {g : α → α}
    (h : ∀ a ∈ as, decode? (encode a) = some (g a)) : decode? (encode as) = some (as.map g) :=
  mapM_map_eq_map h

theorem ReadsBack.list (h : ReadsBack α) : ReadsBack (List α) := fun _ =>
  mapM_map_of_forall fun a _ => h a

theorem decode?_encode_timestamp {t : Timestamp} (h : t.IsInstant) :
    decode? (encode t) = some t.settled := Timestamp.parse?_text h

end Wire

open Wire

/-! ## JSON values -/

namespace Json

/-- Objects are tables, and whole numbers have 64 bits. -/
inductive WellFormed : Json → Prop
  | null : WellFormed .null
  | bool {b : Bool} : WellFormed (.bool b)
  | number {n : Number} (h : n.IsBounded) : WellFormed (.number n)
  | string {s : String} : WellFormed (.string s)
  | array {items : List Json} (h : ∀ v ∈ items, WellFormed v) : WellFormed (.array items)
  | object {t : Table String Json} (h : ∀ e ∈ t.entries, WellFormed e.2) :
      WellFormed (.object t.entries)

theorem WellFormed.toJson?_toDocument {v : Json} (h : v.WellFormed) :
    v.toDocument.toJson? = some v := by
  induction h with
  | null | bool | number | string => rfl
  | array _ ih => exact toJson?_toDocument_array ih
  | object _ ih => exact toJson?_toDocument_object ih

end Json

/-! ## Values -/

namespace FlagValue

variable {v : FlagValue} {type : ValueType}

/-- If the value is a document, that is well-formed. -/
def WellFormed (v : FlagValue) : Prop := ∀ j, v = .json j → j.WellFormed

/-- The value is neither an infinity nor not-a-number. -/
def IsFinite (v : FlagValue) : Prop := ∀ x, v = .number x → x.finite?.isSome = true

/-- The value as it is read back. -/
def readBack (v : FlagValue) : FlagValue := ofJson v.toJson

theorem WellFormed.toJson (h : v.WellFormed) : v.toJson.WellFormed := by
  cases v with
  | boolean b => exact .bool
  | number x =>
    cases x with
    | finite x => exact .number trivial
    | _ => exact .null
  | string s => exact .string
  | json j => exact h j rfl

theorem WellFormed.toJson?_encode (h : v.WellFormed) : (encode v).toJson? = some v.toJson := by
  rw [encode_flagValue, h.toJson.toJson?_toDocument]

theorem WellFormed.decode?_encode (h : v.WellFormed) : decode? (encode v) = some v.readBack := by
  rw [decode?_flagValue, h.toJson?_encode, Option.map_some, readBack]

theorem hasType_json (v : FlagValue) : v.hasType .json = true := by
  cases v <;> rfl

/-- Only a number that is not finite loses a type: it is read back as null. -/
theorem isFinite_iff : v.IsFinite ↔
    ∀ type, v.hasType type = true → v.readBack.hasType type = true := by
  constructor
  · intro hfinite type htype
    cases v with
    | boolean b => exact htype
    | number x =>
      cases x with
      | finite x => exact htype
      | _ => cases hfinite _ rfl
    | string s => exact htype
    | json j =>
      cases type with
      | json => exact hasType_json _
      | _ => cases htype
  · rintro htypes x rfl
    have hnumber := htypes .number rfl
    cases x with
    | finite x => rfl
    | _ => cases hnumber

example : (FlagValue.number .nan).readBack.hasType .number = false := rfl

/-- How a value, its JSON value and the value that it is read back as are related. -/
structure ViewsAgree (v w : FlagValue) : Prop where
  /-- The value is written as its JSON value. -/
  encode_eq : encode v = v.toJson.toDocument
  toJson?_encode : (encode v).toJson? = some v.toJson
  text_eq : Wire.text v = v.toJson.text
  readsAs : ReadsAs v w
  /-- The JSON value stays the same unless it is a whole number. -/
  toJson_eq : (∀ n, v.toJson ≠ .number (.integer n)) → w.toJson = v.toJson
  /-- A whole number becomes the nearest double. -/
  toJson_integer : ∀ n, v.toJson = .number (.integer n) →
    ∃ x, w.toJson = .number (.float x) ∧ x.IsRounded n
  bool?_iff : ∀ b, w.bool? = some b ↔ v.toJson = .bool b
  number?_iff : ∀ x, w.number? = some x ↔ ∃ n, v.toJson = .number n ∧ x = .finite n.toFinite
  string?_iff : ∀ s, w.string? = some s ↔ v.toJson = .string s
  /-- Every type of the value is one of what is read, unless it is a number that is not finite. -/
  hasType_iff : v.IsFinite ↔ ∀ type, v.hasType type = true → w.hasType type = true

theorem WellFormed.viewsAgree (h : v.WellFormed) : v.ViewsAgree v.readBack where
  encode_eq := encode_flagValue v
  toJson?_encode := h.toJson?_encode
  text_eq := congrArg Document.text (encode_flagValue v)
  readsAs := .of_document h.decode?_encode
  toJson_eq hinteger := by
    rw [readBack]
    cases hjson : v.toJson with
    | number n =>
      cases n with
      | integer n => exact absurd hjson (hinteger n)
      | float x => rfl
    | _ => rfl
  toJson_integer n hjson := by
    have hnumber : (Json.number (.integer n)).WellFormed := hjson ▸ h.toJson
    have hfits : Json.Number.fitsInteger n = true := by
      cases hnumber with
      | number hbounded => exact hbounded
    rw [readBack, hjson]
    exact ⟨_, rfl, Json.Number.isRounded_toFinite hfits⟩
  bool?_iff b := by
    rw [readBack]
    cases v.toJson <;> simp [ofJson, bool?]
  number?_iff x := by
    rw [readBack]
    cases v.toJson <;> simp [ofJson, number?, eq_comm]
  string?_iff s := by
    rw [readBack]
    cases v.toJson <;> simp [ofJson, string?]
  hasType_iff := isFinite_iff

end FlagValue

/-! ## Flags and configurations -/

theorem Condition.decode?_encode {c : Condition} (h : c.value.WellFormed) :
    decode? (encode c) = some c := by
  refine isRecord_condition.decode?_encode (by simp [conditionFields]) ?_
  simp only [conditionFields, List.forall_mem_cons]
  exact ⟨readsBack_string _, readsBack_operator _, h.toJson?_toDocument, List.forall_mem_nil _⟩

theorem TargetingRule.decode?_encode {r : TargetingRule}
    (h : ∀ c ∈ r.conditions, c.value.WellFormed) : decode? (encode r) = some r := by
  refine isRecord_targetingRule.decode?_encode (by simp [targetingRuleFields]) ?_
  simp only [targetingRuleFields, List.forall_mem_cons]
  have hconditions : decode? (encode r.conditions) = some r.conditions :=
    mapM_map_of_forall fun c hc => Condition.decode?_encode (h c hc)
  exact ⟨hconditions, readsBack_string _, readsBack_optionUInt8 _, List.forall_mem_nil _⟩

/-- The variant as it is read back. -/
def Variant.readBack (v : Variant) : Variant := { v with value := v.value.readBack }

theorem Variant.decode?_encode {v : Variant} (h : v.value.WellFormed) :
    decode? (encode v) = some v.readBack := by
  refine isRecord_variant.decode?_encode (by simp [variantFields]) ?_
  simp only [variantFields, List.forall_mem_cons]
  exact ⟨readsBack_string _, h.decode?_encode, List.forall_mem_nil _⟩

namespace Flag

variable {f : Flag}

/-- What the data of a flag is like. -/
structure WellFormed (f : Flag) : Prop where
  defaultValue : f.defaultValue.WellFormed
  createdAt : f.createdAt.IsInstant
  updatedAt : f.updatedAt.IsInstant

/-- The flag as it is read back. -/
def readBack (f : Flag) : Flag :=
  { f with
    defaultValue := f.defaultValue.readBack
    createdAt := f.createdAt.settled
    updatedAt := f.updatedAt.settled }

theorem WellFormed.decode?_encode (h : f.WellFormed) : decode? (encode f) = some f.readBack := by
  refine isRecord_flag.decode?_encode (by simp [flagFields]) ?_
  simp only [flagFields, List.forall_mem_cons]
  exact ⟨readsBack_flagId _, readsBack_projectId _, readsBack_string _, readsBack_string _,
    readsBack_optionString _, readsBack_valueType _, readsBack_optionString _,
    h.defaultValue.decode?_encode, readsBack_string.list _, readsBack_flagStatus _,
    decode?_encode_timestamp h.createdAt, decode?_encode_timestamp h.updatedAt,
    List.forall_mem_nil _⟩

end Flag

namespace Configuration

variable {c : Configuration} {f : Flag}

/-- What the data of a configuration is like. -/
structure WellFormed (c : Configuration) : Prop where
  variants : ∀ v ∈ c.variants, v.value.WellFormed
  operands : ∀ r ∈ c.rules, ∀ condition ∈ r.conditions, condition.value.WellFormed
  updatedAt : c.updatedAt.IsInstant

/-- The configuration as it is read back. -/
def readBack (c : Configuration) : Configuration :=
  { c with variants := c.variants.map Variant.readBack, updatedAt := c.updatedAt.settled }

theorem WellFormed.decode?_encode (h : c.WellFormed) : decode? (encode c) = some c.readBack := by
  refine isRecord_configuration.decode?_encode (by simp [configurationFields]) ?_
  simp only [configurationFields, List.forall_mem_cons]
  have hvariants : decode? (encode c.variants) = some (c.variants.map Variant.readBack) :=
    decode?_encode_list fun v hv => Variant.decode?_encode (h.variants v hv)
  have hrules : decode? (encode c.rules) = some c.rules :=
    mapM_map_of_forall fun r hr => TargetingRule.decode?_encode (h.operands r hr)
  exact ⟨readsBack_flagId _, readsBack_environmentId _, readsBack_bool _,
    readsBack_optionString _, hvariants, hrules, decode?_encode_timestamp h.updatedAt,
    List.forall_mem_nil _⟩

theorem variantKeys_readBack (c : Configuration) : c.readBack.variantKeys = c.variantKeys := by
  rw [variantKeys, readBack, List.map_map, variantKeys]
  rfl

/-- What is read back fits, since its values keep their types and the rest stays. -/
theorem Fits.readBack (h : c.Fits f) (hdefault : f.defaultValue.IsFinite)
    (hvariants : ∀ v ∈ c.variants, v.value.IsFinite) : c.readBack.Fits f.readBack where
  flagId := h.flagId
  defaultValue := FlagValue.isFinite_iff.1 hdefault _ h.defaultValue
  distinct := by
    rw [variantKeys_readBack]
    exact h.distinct
  values := by
    refine List.forall_mem_map.2 fun v hv => ?_
    exact FlagValue.isFinite_iff.1 (hvariants v hv) _ (h.values v hv)
  named key hkey := by
    rw [variantKeys_readBack]
    exact h.named key hkey
  rollouts := h.rollouts

end Configuration

/-! ## The views agree -/

namespace FlagValue

/-- The JSON value, the document and the value that it is read back as agree for every value.  A
flag and a configuration that is accepted for it are read back as such, unless a number in them is
not finite. -/
theorem views_agree :
    (∀ v : FlagValue, v.WellFormed → v.ViewsAgree v.readBack) ∧
    ∀ (f : Flag) (c : Configuration), f.WellFormed → c.WellFormed → f.defaultValue.IsFinite →
      (∀ v ∈ c.variants, v.value.IsFinite) → c.validate f = .ok () →
      ReadsAs f f.readBack ∧ ReadsAs c c.readBack ∧ c.readBack.validate f.readBack = .ok () := by
  refine ⟨fun v hv => hv.viewsAgree, fun f c hf hc hdefault hvariants hvalid => ?_⟩
  have hfits := (Configuration.validate_eq_ok_iff.1 hvalid).readBack hdefault hvariants
  exact ⟨.of_document hf.decode?_encode, .of_document hc.decode?_encode,
    Configuration.validate_eq_ok_iff.2 hfits⟩

/-- A whole number of 54 bits, held as a document. -/
def wide : FlagValue := .json (.number (.integer 9007199254740993))

/-- A flag that serves it. -/
def wideFlag : Flag :=
  { (default : Flag) with key := "limit", valueType := .json, defaultValue := wide }

/-- A configuration for it that was changed in a leap second. -/
def wideConfiguration : Configuration :=
  { (default : Configuration) with
    defaultVariant := some "none"
    variants := [⟨"none", .json (.string "none")⟩, ⟨"both", .json (.array [.null, .bool true])⟩]
    rules := [⟨[⟨"tier", .equals, .string "free"⟩], "both", some 50⟩]
    updatedAt := ⟨20412, 30, 1500000000⟩ }

/-- The number is read back as a double, the text as a string and the leap second as the second
after it, and the configuration is accepted still. -/
theorem views_agree_wide :
    (∃ x, wide.readBack.toJson = .number (.float x) ∧ x.IsRounded 9007199254740993) ∧
    wideConfiguration.validate wideFlag = .ok () ∧
    decode? (encode wideConfiguration) = some wideConfiguration.readBack ∧
    wideConfiguration.readBack.variants.map Variant.value =
      [.string "none", .json (.array [.null, .bool true])] ∧
    wideConfiguration.readBack.updatedAt = ⟨20412, 31, 500000000⟩ ∧
    wideConfiguration.readBack.validate wideFlag.readBack = .ok () := by
  have hwide : wide.WellFormed := by
    rintro _ ⟨⟩
    exact .number rfl
  have hepoch : (default : Timestamp).IsInstant := ⟨by decide, by decide, by decide⟩
  have hvariants : ∀ v ∈ wideConfiguration.variants, v.value.WellFormed := by
    refine List.forall_mem_cons.2 ⟨?_, List.forall_mem_singleton.2 ?_⟩
    · rintro _ ⟨⟩
      exact .string
    · rintro _ ⟨⟩
      exact .array (List.forall_mem_cons.2 ⟨.null, List.forall_mem_singleton.2 .bool⟩)
  have hoperands : ∀ r ∈ wideConfiguration.rules, ∀ condition ∈ r.conditions,
      condition.value.WellFormed :=
    List.forall_mem_singleton.2 (List.forall_mem_singleton.2 .string)
  have hfinite : ∀ v ∈ wideConfiguration.variants, v.value.IsFinite :=
    List.forall_mem_cons.2 ⟨nofun, List.forall_mem_singleton.2 nofun⟩
  have hvalid : wideConfiguration.validate wideFlag = .ok () := rfl
  obtain ⟨hvalues, hconfigurations⟩ := views_agree
  obtain ⟨-, hread, haccepted⟩ := hconfigurations wideFlag wideConfiguration
    ⟨hwide, hepoch, hepoch⟩ ⟨hvariants, hoperands, ⟨by decide, by decide, by decide⟩⟩ nofun hfinite
    hvalid
  exact ⟨(hvalues wide hwide).toJson_integer _ rfl, hvalid, hread.document, rfl, rfl, haccepted⟩

end FlagValue

end FeatureFlags
