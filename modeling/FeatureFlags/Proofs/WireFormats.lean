import FeatureFlags.Proofs.Calendar.Rfc3339
import FeatureFlags.Proofs.Json.Record
import FeatureFlags.Proofs.Uuid
import FeatureFlags.Store.Snapshot
import FeatureFlags.Stream.Message
import FeatureFlags.Usage

/-!
# The wire formats

Every wire format of the system obeys the law of wire formats (`Wire.Lawful`).  Each record is
described by its fields, in the order that they are declared in.
-/

namespace FeatureFlags.Wire

open Document (Within)
open RecordField

variable {room : Nat}

/-! ## Names, identifiers and timestamps -/

theorem lawful_uuid : Lawful Uuid room :=
  .ofString (fun u => ⟨u.text, rfl⟩) fun {_ u} _ => Uuid.parse?_text u

theorem lawful_flagId : Lawful FlagId room :=
  lawful_uuid.wrap (fun _ => rfl) (fun i => (rfl : encode i = encode i.uuid)) fun _ => rfl

theorem lawful_projectId : Lawful ProjectId room :=
  lawful_uuid.wrap (fun _ => rfl) (fun i => (rfl : encode i = encode i.uuid)) fun _ => rfl

theorem lawful_environmentId : Lawful EnvironmentId room :=
  lawful_uuid.wrap (fun _ => rfl) (fun i => (rfl : encode i = encode i.uuid)) fun _ => rfl

theorem lawful_timestamp : Lawful Timestamp room := by
  refine .ofString (fun t => ⟨t.text, rfl⟩) fun {d t} ht => ?_
  cases d with
  | string s => exact Timestamp.parse?_text_of_parse? ht
  | _ => cases ht

theorem lawful_valueType : Lawful ValueType room :=
  .ofString (fun t => ⟨t.name, rfl⟩) fun {_ t} _ => by cases t <;> rfl

theorem lawful_flagStatus : Lawful FlagStatus room :=
  .ofString (fun s => ⟨s.name, rfl⟩) fun {_ s} _ => by cases s <;> rfl

theorem lawful_reason : Lawful Reason room :=
  .ofString (fun r => ⟨r.name, rfl⟩) fun {_ r} _ => by cases r <;> rfl

theorem lawful_changeKind : Lawful ChangeKind room :=
  .ofString (fun k => ⟨k.name, rfl⟩) fun {_ k} _ => by cases k <;> rfl

/-- Any other name is that of the unknown operator, which has a name of its own. -/
theorem lawful_operator : Lawful Operator room :=
  .ofString (fun op => ⟨op.name, rfl⟩) fun {_ op} _ => by cases op <;> rfl

/-! ## Flag values -/

/-- A value is written as the document of the JSON value that it is. -/
theorem encode_flagValue (v : FlagValue) : encode v = v.toJson.toDocument := by
  cases v with
  | number x => cases x <;> rfl
  | _ => rfl

/-- A value is read as what the JSON value of the document is read as. -/
theorem decode?_flagValue (d : Document) :
    (decode? d : Option FlagValue) = d.toJson?.map FlagValue.ofJson := by
  cases d with
  | array items =>
    show (Document.array items).toJson?.map FlagValue.json = _
    rw [Document.toJson?, Option.map_map, Option.map_map]
    rfl
  | object fields =>
    show (Document.object fields).toJson?.map FlagValue.json = _
    rw [Document.toJson?, Option.map_map, Option.map_map]
    rfl
  | _ => rfl

/-- A value is written as it was read, but for whole numbers, which become doubles. -/
theorem toJson_ofJson (v : Json) :
    (FlagValue.ofJson v).toJson = v ∨ ∃ x, (FlagValue.ofJson v).toJson = .number (.float x) := by
  cases v with
  | number n => exact .inr ⟨n.toFinite, rfl⟩
  | _ => exact .inl rfl

theorem ofJson_toJson_ofJson (v : Json) :
    FlagValue.ofJson (FlagValue.ofJson v).toJson = FlagValue.ofJson v := by
  cases v <;> rfl

theorem lawful_flagValue : Lawful FlagValue room where
  decode_encode {d a} ha := by
    rw [decode?_flagValue] at ha
    obtain ⟨v, hv, rfl⟩ := Option.map_eq_some_iff.1 ha
    have hread : (FlagValue.ofJson v).toJson.toDocument.toJson? =
        some (FlagValue.ofJson v).toJson := by
      rcases toJson_ofJson v with h | ⟨x, h⟩
      · rw [h, Json.toJson?_toDocument hv]
      · rw [h]
        rfl
    rw [encode_flagValue, decode?_flagValue, hread, Option.map_some, ofJson_toJson_ofJson]
  eq_null {d a} ha hnull := by
    rw [decode?_flagValue] at ha
    obtain ⟨v, hv, rfl⟩ := Option.map_eq_some_iff.1 ha
    rw [encode_flagValue] at hnull
    have hjson := Json.eq_null_of_toDocument hnull
    rcases toJson_ofJson v with h | ⟨x, h⟩
    · rw [h] at hjson
      exact Json.eq_null_of_toJson? (hjson ▸ hv)
    · rw [h] at hjson
      cases hjson
  within {n d a} _ hd ha := by
    rw [decode?_flagValue] at ha
    obtain ⟨v, hv, rfl⟩ := Option.map_eq_some_iff.1 ha
    rw [encode_flagValue]
    rcases toJson_ofJson v with h | ⟨x, h⟩
    · rw [h]
      exact Json.within_toDocument hd hv
    · rw [h]
      exact .float

/-! ## Rules and configurations -/

def conditionFields : List (RecordField Condition) :=
  [.required "attribute" Condition.attributeName, .required "operator" Condition.operator,
    .orElse "value" .defaulted .null Condition.value]

theorem isRecord_condition : IsRecord conditionFields := by
  refine ⟨fun _ => rfl, fun slots c h => ?_, fun c _ h => ?_, fun _ => ⟨_, rfl, .refl _⟩, by decide⟩
  -- A record is read from what stands at the places of its fields, if that is so many.
  · split at h
    · simp only [Option.bind_eq_bind, Option.bind_eq_some_iff, Option.pure_def,
        Option.some.injEq] at h
      obtain ⟨_, hname, _, hoperator, _, hvalue, rfl⟩ := h
      exact .cons hname (.cons hoperator (.cons hvalue .nil))
    · cases h
  -- It is read again if each field is.
  · simp_all [conditionFields]

theorem lawful_condition : Lawful Condition (room + 1) := by
  refine isRecord_condition.lawful ?_
  simp only [conditionFields, List.forall_mem_cons]
  exact ⟨lawful_required lawful_string, lawful_required lawful_operator,
    lawful_orElse lawful_json rfl .null, List.forall_mem_nil _⟩

def targetingRuleFields : List (RecordField TargetingRule) :=
  [.orElse "conditions" .defaulted [] TargetingRule.conditions,
    .required "variant" TargetingRule.variant,
    .orElse "percentage_rollout" .defaulted none TargetingRule.rollout]

theorem isRecord_targetingRule : IsRecord targetingRuleFields := by
  refine ⟨fun _ => rfl, fun slots r h => ?_, fun r _ h => ?_, fun _ => ⟨_, rfl, .refl _⟩, by decide⟩
  · split at h
    · simp only [Option.bind_eq_bind, Option.bind_eq_some_iff, Option.pure_def,
        Option.some.injEq] at h
      obtain ⟨_, hconditions, _, hvariant, _, hrollout, rfl⟩ := h
      exact .cons hconditions (.cons hvariant (.cons hrollout .nil))
    · cases h
  · simp_all [targetingRuleFields]

theorem lawful_targetingRule : Lawful TargetingRule (room + 3) := by
  refine isRecord_targetingRule.lawful ?_
  simp only [targetingRuleFields, List.forall_mem_cons]
  exact ⟨lawful_orElse lawful_condition.list rfl (.array (List.forall_mem_nil _)),
    lawful_required lawful_string,
    lawful_orElse lawful_uint8.option rfl .null, List.forall_mem_nil _⟩

def variantFields : List (RecordField Variant) :=
  [.required "key" Variant.key, .required "value" Variant.value]

theorem isRecord_variant : IsRecord variantFields := by
  refine ⟨fun _ => rfl, fun slots v h => ?_, fun v _ h => ?_, fun _ => ⟨_, rfl, .refl _⟩, by decide⟩
  · split at h
    · simp only [Option.bind_eq_bind, Option.bind_eq_some_iff, Option.pure_def,
        Option.some.injEq] at h
      obtain ⟨_, hkey, _, hvalue, rfl⟩ := h
      exact .cons hkey (.cons hvalue .nil)
    · cases h
  · simp_all [variantFields]

theorem lawful_variant : Lawful Variant (room + 1) := by
  refine isRecord_variant.lawful ?_
  simp only [variantFields, List.forall_mem_cons]
  exact ⟨lawful_required lawful_string, lawful_required lawful_flagValue, List.forall_mem_nil _⟩

def configurationFields : List (RecordField Configuration) :=
  [.required "flag_id" Configuration.flagId,
    .required "environment_id" Configuration.environmentId,
    .required "enabled" Configuration.enabled,
    .orElse "default_variant" .defaulted none Configuration.defaultVariant,
    .orElse "variants" .defaulted [] Configuration.variants,
    .orElse "targeting_rules" .defaulted [] Configuration.rules,
    .required "updated_at" Configuration.updatedAt]

theorem isRecord_configuration : IsRecord configurationFields := by
  refine ⟨fun _ => rfl, fun slots c h => ?_, fun c _ h => ?_, fun _ => ⟨_, rfl, .refl _⟩, by decide⟩
  · split at h
    · simp only [Option.bind_eq_bind, Option.bind_eq_some_iff, Option.pure_def,
        Option.some.injEq] at h
      obtain ⟨_, hflagId, _, henvironmentId, _, henabled, _, hvariant, _, hvariants, _, hrules,
        _, hupdatedAt, rfl⟩ := h
      exact .cons hflagId (.cons henvironmentId (.cons henabled (.cons hvariant (.cons hvariants
        (.cons hrules (.cons hupdatedAt .nil))))))
    · cases h
  · simp_all [configurationFields]

theorem lawful_configuration : Lawful Configuration (room + 5) := by
  refine isRecord_configuration.lawful ?_
  simp only [configurationFields, List.forall_mem_cons]
  exact ⟨lawful_required lawful_flagId,
    lawful_required lawful_environmentId,
    lawful_required lawful_bool,
    lawful_orElse lawful_string.option rfl .null,
    lawful_orElse lawful_variant.list rfl (.array (List.forall_mem_nil _)),
    lawful_orElse lawful_targetingRule.list rfl (.array (List.forall_mem_nil _)),
    lawful_required lawful_timestamp, List.forall_mem_nil _⟩

/-! ## Flags -/

def flagFields : List (RecordField Flag) :=
  [.required "id" Flag.id, .required "project_id" Flag.projectId, .required "key" Flag.key,
    .required "name" Flag.name, .orElse "description" .defaulted none Flag.description,
    .required "value_type" Flag.valueType, .orElse "category" .defaulted none Flag.category,
    .required "default_value" Flag.defaultValue, .orElse "tags" .defaulted [] Flag.tags,
    .orElse "status" .defaulted .active Flag.status, .required "created_at" Flag.createdAt,
    .required "updated_at" Flag.updatedAt]

theorem isRecord_flag : IsRecord flagFields := by
  refine ⟨fun _ => rfl, fun slots f h => ?_, fun f _ h => ?_, fun _ => ⟨_, rfl, .refl _⟩, by decide⟩
  · split at h
    · simp only [Option.bind_eq_bind, Option.bind_eq_some_iff, Option.pure_def,
        Option.some.injEq] at h
      obtain ⟨_, hid, _, hprojectId, _, hkey, _, hname, _, hdescription, _, hvalueType,
        _, hcategory, _, hdefaultValue, _, htags, _, hstatus, _, hcreatedAt, _, hupdatedAt,
        rfl⟩ := h
      exact .cons hid (.cons hprojectId (.cons hkey (.cons hname (.cons hdescription (.cons
        hvalueType (.cons hcategory (.cons hdefaultValue (.cons htags (.cons hstatus (.cons
        hcreatedAt (.cons hupdatedAt .nil)))))))))))
    · cases h
  · simp_all [flagFields]

theorem lawful_flag : Lawful Flag (room + 2) := by
  refine isRecord_flag.lawful ?_
  simp only [flagFields, List.forall_mem_cons]
  exact ⟨lawful_required lawful_flagId,
    lawful_required lawful_projectId,
    lawful_required lawful_string,
    lawful_required lawful_string,
    lawful_orElse lawful_string.option rfl .null,
    lawful_required lawful_valueType,
    lawful_orElse lawful_string.option rfl .null,
    lawful_required lawful_flagValue,
    lawful_orElse lawful_string.list rfl (.array (List.forall_mem_nil _)),
    lawful_orElse lawful_flagStatus rfl .string,
    lawful_required lawful_timestamp,
    lawful_required lawful_timestamp, List.forall_mem_nil _⟩

def entryFields : List (RecordField Entry) :=
  [.required "flag" Entry.flag, .required "config" Entry.config]

theorem isRecord_entry : IsRecord entryFields := by
  refine ⟨fun _ => rfl, fun slots e h => ?_, fun e _ h => ?_, fun _ => ⟨_, rfl, .refl _⟩, by decide⟩
  · split at h
    · simp only [Option.bind_eq_bind, Option.bind_eq_some_iff, Option.pure_def,
        Option.some.injEq] at h
      obtain ⟨_, hflag, _, hconfig, rfl⟩ := h
      exact .cons hflag (.cons hconfig .nil)
    · cases h
  · simp_all [entryFields]

theorem lawful_entry : Lawful Entry (room + 6) := by
  refine isRecord_entry.lawful ?_
  simp only [entryFields, List.forall_mem_cons]
  exact ⟨lawful_required lawful_flag, lawful_required lawful_configuration,
    List.forall_mem_nil _⟩

/-! ## Scopes and snapshots -/

def scopeFields : List (RecordField Scope) :=
  [.required "project" Scope.project, .required "environment" Scope.environment]

theorem isRecord_scope : IsRecord scopeFields := by
  refine ⟨fun _ => rfl, fun slots s h => ?_, fun s _ h => ?_, fun _ => ⟨_, rfl, .refl _⟩, by decide⟩
  · split at h
    · simp only [Option.bind_eq_bind, Option.bind_eq_some_iff, Option.pure_def,
        Option.some.injEq] at h
      obtain ⟨_, hproject, _, henvironment, rfl⟩ := h
      exact .cons hproject (.cons henvironment .nil)
    · cases h
  · simp_all [scopeFields]

theorem lawful_scope : Lawful Scope (room + 1) := by
  refine isRecord_scope.lawful ?_
  simp only [scopeFields, List.forall_mem_cons]
  exact ⟨lawful_required lawful_string, lawful_required lawful_string, List.forall_mem_nil _⟩

def snapshotScopeFields : List (RecordField SnapshotScope) :=
  [.required "project" SnapshotScope.project, .required "environment" SnapshotScope.environment,
    .orElse "flags" .defaulted [] SnapshotScope.flags]

theorem isRecord_snapshotScope : IsRecord snapshotScopeFields := by
  refine ⟨fun _ => rfl, fun slots s h => ?_, fun s _ h => ?_, fun _ => ⟨_, rfl, .refl _⟩, by decide⟩
  · split at h
    · simp only [Option.bind_eq_bind, Option.bind_eq_some_iff, Option.pure_def,
        Option.some.injEq] at h
      obtain ⟨_, hproject, _, henvironment, _, hflags, rfl⟩ := h
      exact .cons hproject (.cons henvironment (.cons hflags .nil))
    · cases h
  · simp_all [snapshotScopeFields]

theorem lawful_snapshotScope : Lawful SnapshotScope (room + 8) := by
  refine isRecord_snapshotScope.lawful ?_
  simp only [snapshotScopeFields, List.forall_mem_cons]
  exact ⟨lawful_required lawful_string, lawful_required lawful_string,
    lawful_orElse lawful_entry.list rfl (.array (List.forall_mem_nil _)), List.forall_mem_nil _⟩

def snapshotFields : List (RecordField Snapshot) :=
  [.orElse "scopes" .defaulted [] Snapshot.scopes]

theorem isRecord_snapshot : IsRecord snapshotFields := by
  refine ⟨fun _ => rfl, fun slots s h => ?_, fun s _ h => ?_, fun _ => ⟨_, rfl, .refl _⟩, by decide⟩
  · split at h
    · simp only [Option.bind_eq_bind, Option.bind_eq_some_iff, Option.pure_def,
        Option.some.injEq] at h
      obtain ⟨_, hscopes, rfl⟩ := h
      exact .cons hscopes .nil
    · cases h
  · simp_all [snapshotFields]

theorem lawful_snapshot : Lawful Snapshot (room + 10) := by
  refine isRecord_snapshot.lawful ?_
  simp only [snapshotFields, List.forall_mem_cons]
  exact ⟨lawful_orElse lawful_snapshotScope.list rfl (.array (List.forall_mem_nil _)),
    List.forall_mem_nil _⟩

/-! ## Evaluation -/

def contextFields : List (RecordField Context) :=
  [.orElse "user_id" .defaulted none Context.userId,
    .orElse "attributes" .defaulted .empty Context.attributes]

theorem isRecord_context : IsRecord contextFields := by
  refine ⟨fun _ => rfl, fun slots c h => ?_, fun c _ h => ?_, fun _ => ⟨_, rfl, .refl _⟩, by decide⟩
  · split at h
    · simp only [Option.bind_eq_bind, Option.bind_eq_some_iff, Option.pure_def,
        Option.some.injEq] at h
      obtain ⟨_, huserId, _, hattributes, rfl⟩ := h
      exact .cons huserId (.cons hattributes .nil)
    · cases h
  · simp_all [contextFields]

theorem lawful_context : Lawful Context (room + 2) := by
  refine isRecord_context.lawful ?_
  simp only [contextFields, List.forall_mem_cons]
  exact ⟨lawful_orElse lawful_string.option rfl .null,
    lawful_orElse lawful_json.table rfl (.object (List.forall_mem_nil _)), List.forall_mem_nil _⟩

def evaluationFields : List (RecordField Evaluation) :=
  [.required "value" Evaluation.value, .required "variant" Evaluation.variant,
    .required "reason" Evaluation.reason]

theorem isRecord_evaluation : IsRecord evaluationFields := by
  refine ⟨fun _ => rfl, fun slots e h => ?_, fun e _ h => ?_, fun _ => ⟨_, rfl, .refl _⟩, by decide⟩
  · split at h
    · simp only [Option.bind_eq_bind, Option.bind_eq_some_iff, Option.pure_def,
        Option.some.injEq] at h
      obtain ⟨_, hvalue, _, hvariant, _, hreason, rfl⟩ := h
      exact .cons hvalue (.cons hvariant (.cons hreason .nil))
    · cases h
  · simp_all [evaluationFields]

theorem lawful_evaluation : Lawful Evaluation (room + 1) := by
  refine isRecord_evaluation.lawful ?_
  simp only [evaluationFields, List.forall_mem_cons]
  exact ⟨lawful_required lawful_flagValue, lawful_required lawful_string,
    lawful_required lawful_reason, List.forall_mem_nil _⟩

/-! ## Usage -/

def usageEventFields : List (RecordField UsageEvent) :=
  [.required "scope" UsageEvent.scope, .required "flag_key" UsageEvent.flagKey,
    .required "evaluated_at" UsageEvent.evaluatedAt]

theorem isRecord_usageEvent : IsRecord usageEventFields := by
  refine ⟨fun _ => rfl, fun slots e h => ?_, fun e _ h => ?_, fun _ => ⟨_, rfl, .refl _⟩, by decide⟩
  · split at h
    · simp only [Option.bind_eq_bind, Option.bind_eq_some_iff, Option.pure_def,
        Option.some.injEq] at h
      obtain ⟨_, hscope, _, hflagKey, _, hevaluatedAt, rfl⟩ := h
      exact .cons hscope (.cons hflagKey (.cons hevaluatedAt .nil))
    · cases h
  · simp_all [usageEventFields]

theorem lawful_usageEvent : Lawful UsageEvent (room + 2) := by
  refine isRecord_usageEvent.lawful ?_
  simp only [usageEventFields, List.forall_mem_cons]
  exact ⟨lawful_required lawful_scope, lawful_required lawful_string,
    lawful_required lawful_timestamp, List.forall_mem_nil _⟩

def flagUsageFields : List (RecordField FlagUsage) :=
  [.required "evaluations" FlagUsage.evaluations,
    .required "last_evaluated_at" FlagUsage.lastEvaluatedAt]

theorem isRecord_flagUsage : IsRecord flagUsageFields := by
  refine ⟨fun _ => rfl, fun slots u h => ?_, fun u _ h => ?_, fun _ => ⟨_, rfl, .refl _⟩, by decide⟩
  · split at h
    · simp only [Option.bind_eq_bind, Option.bind_eq_some_iff, Option.pure_def,
        Option.some.injEq] at h
      obtain ⟨_, hevaluations, _, hlast, rfl⟩ := h
      exact .cons hevaluations (.cons hlast .nil)
    · cases h
  · simp_all [flagUsageFields]

theorem lawful_flagUsage : Lawful FlagUsage (room + 1) := by
  refine isRecord_flagUsage.lawful ?_
  simp only [flagUsageFields, List.forall_mem_cons]
  exact ⟨lawful_required lawful_nat, lawful_required lawful_timestamp, List.forall_mem_nil _⟩

def staleFlagFields : List (RecordField StaleFlag) :=
  [.required "flag_key" StaleFlag.flagKey,
    .orElse "last_evaluated_at" .nullable none StaleFlag.lastEvaluatedAt]

theorem isRecord_staleFlag : IsRecord staleFlagFields := by
  refine ⟨fun _ => rfl, fun slots s h => ?_, fun s _ h => ?_, fun _ => ⟨_, rfl, .refl _⟩, by decide⟩
  · split at h
    · simp only [Option.bind_eq_bind, Option.bind_eq_some_iff, Option.pure_def,
        Option.some.injEq] at h
      obtain ⟨_, hflagKey, _, hlast, rfl⟩ := h
      exact .cons hflagKey (.cons hlast .nil)
    · cases h
  · simp_all [staleFlagFields]

theorem lawful_staleFlag : Lawful StaleFlag (room + 1) := by
  refine isRecord_staleFlag.lawful ?_
  simp only [staleFlagFields, List.forall_mem_cons]
  exact ⟨lawful_required lawful_string, lawful_orElse lawful_timestamp.option rfl .null,
    List.forall_mem_nil _⟩

/-! ## Events and messages -/

def changeEventFields : List (RecordField ChangeEvent) :=
  [.required "type" ChangeEvent.kind, .required "flag_key" ChangeEvent.flagKey,
    .omitted "value" ChangeEvent.value, .omitted "variant" ChangeEvent.variant]

theorem perm_written_changeEvent (e : ChangeEvent) :
    ([("type", encode e.kind), ("flag_key", encode e.flagKey)] ++
      ChangeEvent.optionalField "value" e.value ++
      ChangeEvent.optionalField "variant" e.variant).Perm (written changeEventFields e) := by
  obtain ⟨kind, flagKey, value, variant⟩ := e
  cases value <;> cases variant <;> exact .refl _

theorem isRecord_changeEvent : IsRecord changeEventFields := by
  refine ⟨fun _ => rfl, fun slots e h => ?_, fun e _ h => ?_,
    fun e => ⟨_, rfl, perm_written_changeEvent e⟩, by decide⟩
  · split at h
    · simp only [Option.bind_eq_bind, Option.bind_eq_some_iff, Option.pure_def,
        Option.some.injEq] at h
      obtain ⟨_, hkind, _, hflagKey, _, hvalue, _, hvariant, rfl⟩ := h
      exact .cons hkind (.cons hflagKey (.cons hvalue (.cons hvariant .nil)))
    · cases h
  · simp_all [changeEventFields]

theorem lawful_changeEvent : Lawful ChangeEvent (room + 1) := by
  refine isRecord_changeEvent.lawful ?_
  simp only [changeEventFields, List.forall_mem_cons]
  exact ⟨lawful_required lawful_changeKind, lawful_required lawful_string,
    lawful_omitted lawful_flagValue, lawful_omitted lawful_string, List.forall_mem_nil _⟩

def heartbeatFields : List (RecordField Heartbeat) :=
  [.required "timestamp" Heartbeat.timestamp]

theorem isRecord_heartbeat : IsRecord heartbeatFields := by
  refine ⟨fun _ => rfl, fun slots b h => ?_, fun b _ h => ?_, fun _ => ⟨_, rfl, .refl _⟩, by decide⟩
  · split at h
    · simp only [Option.bind_eq_bind, Option.bind_eq_some_iff, Option.pure_def,
        Option.some.injEq] at h
      obtain ⟨_, htimestamp, rfl⟩ := h
      exact .cons htimestamp .nil
    · cases h
  · simp_all [heartbeatFields]

theorem lawful_heartbeat : Lawful Heartbeat (room + 1) := by
  refine isRecord_heartbeat.lawful ?_
  simp only [heartbeatFields, List.forall_mem_cons]
  exact ⟨lawful_required lawful_timestamp, List.forall_mem_nil _⟩

/-- The data of a message is read as what its kind says. -/
theorem exists_data {d : Document} {m : StreamMessage} (h : decode? d = some m) :
    ∃ kind data, StreamMessage.parts? d = some (kind, data) ∧
      ((∃ e, decode? data = some e ∧ m = .change e) ∨
        ∃ b, decode? data = some b ∧ m = .heartbeat b) := by
  obtain ⟨⟨kind, data⟩, hparts, h⟩ := Option.bind_eq_some_iff.1 h
  obtain ⟨choice, -, h⟩ := Option.bind_eq_some_iff.1 h
  refine ⟨kind, data, hparts, ?_⟩
  split at h
  · obtain ⟨e, he, rfl⟩ := Option.map_eq_some_iff.1 h
    exact .inl ⟨e, he, rfl⟩
  · obtain ⟨b, hb, rfl⟩ := Option.map_eq_some_iff.1 h
    exact .inr ⟨b, hb, rfl⟩
  · cases h

theorem within_of_parts? {n : Nat} {d kind data : Document} (hd : d.Within true n)
    (h : StreamMessage.parts? d = some (kind, data)) :
    ∃ m, n = m + 1 ∧ data.Within true m := by
  cases hd with
  | @array m items hitems =>
    unfold StreamMessage.parts? at h
    split at h
    · next hd =>
      cases hd
      cases h
      exact ⟨m, rfl, hitems data (List.mem_cons_of_mem _ List.mem_cons_self)⟩
    · next hd => cases hd
    · cases h
  | @object m fields hfields =>
    have hmem : ("data", data) ∈ fields.filter fun f => f.1 = "event" ∨ f.1 = "data" := by
      rw [StreamMessage.parts?] at h
      split at h
      · next hfilter =>
        cases h
        rw [hfilter]
        exact List.mem_cons_of_mem _ List.mem_cons_self
      · next hfilter =>
        split at h
        · cases h
          rw [hfilter]
          exact List.mem_cons_self
        · cases h
      · cases h
    exact ⟨m, rfl, hfields _ (List.mem_filter.1 hmem).1⟩
  | _ => cases h

/-- A message that is written with its kind first. -/
theorem decode?_message (kind : String) (data : Document) :
    (decode? (.object [("event", .string kind), ("data", data)]) : Option StreamMessage) =
      match kind with
      | "change" => (decode? data).map .change
      | "heartbeat" => (decode? data).map .heartbeat
      | _ => none := rfl

theorem lawful_streamMessage : Lawful StreamMessage (room + 2) where
  decode_encode {d m} hm := by
    obtain ⟨-, data, -, ⟨e, he, rfl⟩ | ⟨b, hb, rfl⟩⟩ := exists_data hm
    · refine (decode?_message "change" (encode e)).trans ?_
      have hevent : Lawful ChangeEvent (room + 1) := lawful_changeEvent
      rw [hevent.decode_encode he]
      rfl
    · refine (decode?_message "heartbeat" (encode b)).trans ?_
      have hheartbeat : Lawful Heartbeat (room + 1) := lawful_heartbeat
      rw [hheartbeat.decode_encode hb]
      rfl
  eq_null {d m} _ hnull := by
    cases m <;> cases hnull
  within {n d m} hn hd hm := by
    obtain ⟨kind, data, hparts, hdata⟩ := exists_data hm
    obtain ⟨k, rfl, hwithin⟩ := within_of_parts? hd hparts
    have hk : room + 1 ≤ k := Nat.le_of_succ_le_succ hn
    rcases hdata with ⟨e, he, rfl⟩ | ⟨b, hb, rfl⟩
    · refine .object (List.forall_mem_cons.2 ⟨.string, List.forall_mem_singleton.2 ?_⟩)
      exact lawful_changeEvent.within hk hwithin he
    · refine .object (List.forall_mem_cons.2 ⟨.string, List.forall_mem_singleton.2 ?_⟩)
      exact lawful_heartbeat.within hk hwithin hb

end FeatureFlags.Wire
