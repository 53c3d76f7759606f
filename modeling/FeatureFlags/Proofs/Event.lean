import FeatureFlags.Proofs.WireFormats

/-!
# Events that are read back

An event is read back as it was sent, unless the value that it carries is null: null is also how a
field without a value may be written, so the value is lost.

* `ChangeEvent.ReadsAs` and `ChangeEvent.ReadsAsText`: what an event is read as, alone and in a
  message.
* `ChangeEvent.readsAs_readBack`: what every event is read as.
* `ChangeEvent.updates_read_back`: which updates are read back, as documents and as texts, and
  that all deletions are.
-/

namespace FeatureFlags

open Wire

/-! ## Values -/

namespace FlagValue

variable {v : FlagValue} {d : Document}

/-- The value that is read where there may be none: null is read as none. -/
def unlessNull : FlagValue → Option FlagValue
  | .json .null => none
  | v => some v

theorem unlessNull_eq_some_iff : v.unlessNull = some v ↔ v ≠ .json .null := by
  unfold unlessNull
  split
  · simp
  · next hne => exact iff_of_true rfl hne

/-- Of the values that are read, only null is spelt as null. -/
theorem encode_eq_null_iff (hv : decode? d = some v) : encode v = .null ↔ v = .json .null := by
  refine ⟨fun hnull => ?_, fun h => h ▸ rfl⟩
  have hd : d = .null := (lawful_flagValue : Lawful FlagValue 0).eq_null hv hnull
  subst hd
  exact (Option.some.inj hv).symm

theorem decode?_encode_option (hv : decode? d = some v) :
    (decode? (encode v) : Option (Option FlagValue)) = some v.unlessNull := by
  by_cases hnull : v = .json .null
  · subst hnull
    rfl
  · rw [unlessNull_eq_some_iff.2 hnull, decode?_eq_some_some_iff]
    exact ⟨fun h => hnull ((encode_eq_null_iff hv).1 h),
      (lawful_flagValue : Lawful FlagValue 0).decode_encode hv⟩

/-- Numbers apart, different JSON values are read as different values. -/
theorem eq_of_ofJson_eq {j j' : Json} (hj : ∀ n, j ≠ .number n) (h : ofJson j' = ofJson j) :
    j' = j := by
  cases j with
  | number n => exact absurd rfl (hj n)
  | _ => cases j' <;> simp_all [ofJson]

/-- A value is read as the same after its numbers have been read again only if they stay as they
are. -/
theorem decode?_reread_iff (hv : decode? d = some v) :
    decode? (encode v).reread = some v ↔ (encode v).reread = encode v := by
  refine ⟨fun h => ?_, fun h => ?_⟩
  · rw [decode?_flagValue] at hv h
    obtain ⟨j, hj, rfl⟩ := Option.map_eq_some_iff.1 hv
    obtain ⟨j', hj', heq⟩ := Option.map_eq_some_iff.1 h
    cases j with
    | number n =>
      -- Every number is written as a double, and that is read again as a double or not at all.
      show Document.reread (.number (.float n.toFinite)) = .number (.float n.toFinite)
      obtain hread | ⟨y, hread⟩ := Document.reread_float n.toFinite
      · cases (congrArg Document.toJson? hread).symm.trans hj'
      · cases (congrArg Document.toJson? hread).symm.trans hj'
        cases heq
        exact hread
    | _ =>
      cases eq_of_ofJson_eq (by simp) heq
      exact Document.reread_toDocument_of_toJson? hj hj'
  · rw [h]
    exact (lawful_flagValue : Lawful FlagValue 0).decode_encode hv

end FlagValue

/-! ## Events -/

namespace ChangeEvent

variable {e e' : ChangeEvent} {n : Nat}

/-- An event is read as the given one, alone and in a message. -/
structure ReadsAs (e e' : ChangeEvent) : Prop where
  alone : decode? (encode e) = some e'
  inMessage : decode? (encode (StreamMessage.change e)) = some (StreamMessage.change e')

/-- The text of an event is read as the given one, alone and in a message. -/
structure ReadsAsText (e e' : ChangeEvent) : Prop where
  alone : parse? (text e) = some e'
  inMessage : parse? (text (StreamMessage.change e)) = some (StreamMessage.change e')

/-- The value of the event, if it has one, was read from a document. -/
def HasReadValue (e : ChangeEvent) : Prop := ∀ v ∈ e.value, ∃ d, decode? d = some v

/-- The event as it is read back: a value null is lost. -/
def readBack (e : ChangeEvent) : ChangeEvent :=
  { e with value := e.value.bind FlagValue.unlessNull }

/-- Only a value null is lost. -/
theorem readBack_eq_self_iff : e.readBack = e ↔ e.value ≠ some (.json .null) := by
  obtain ⟨kind, flagKey, value, variant⟩ := e
  cases value with
  | none => exact iff_of_true rfl nofun
  | some v => simp [readBack, FlagValue.unlessNull_eq_some_iff]

/-- The fields of an event with the given document for its value. -/
def fields (e : ChangeEvent) (value : Option Document) : List (String × Document) :=
  [("type", encode e.kind), ("flag_key", encode e.flagKey)]
    ++ (value.map fun d => ("value", d)).toList ++ optionalField "variant" e.variant

theorem encode_eq (e : ChangeEvent) : encode e = .object (e.fields (e.value.map encode)) := by
  obtain ⟨kind, flagKey, value, variant⟩ := e
  cases value <;> rfl

/-- Only the value has numbers that are read again. -/
theorem reread_encode (e : ChangeEvent) :
    (encode e).reread = .object (e.fields (e.value.map fun v => (encode v).reread)) := by
  obtain ⟨kind, flagKey, value, variant⟩ := e
  cases value <;> cases variant <;> rfl

/-- Whatever stands for the value, the rest of the event is read as it was written. -/
theorem decode?_fields (e : ChangeEvent) (value : Option Document) :
    decode? (.object (e.fields value)) =
      (Document.fieldOr? none value).map fun value => { e with value } := by
  obtain ⟨kind, flagKey, _, variant⟩ := e
  rw [Option.map_eq_bind]
  cases value with
  | none => cases kind <;> cases variant <;> rfl
  | some d => cases kind <;> cases variant <;> rfl

/-- What is written of an event besides its value is strings. -/
theorem forall_mem_fields_iff {P : Document → Prop} (hstring : ∀ s, P (.string s)) :
    (∀ f ∈ e.fields (e.value.map encode), P f.2) ↔ ∀ v ∈ e.value, P (encode v) := by
  obtain ⟨kind, flagKey, value, variant⟩ := e
  have hkind : P (encode kind) := hstring _
  have hflagKey : P (encode flagKey) := hstring _
  have hvariant : ∀ s : String, P (encode s) := fun s => hstring s
  cases value <;> cases variant <;> simp [fields, optionalField, hkind, hflagKey, hvariant]

/-! ### As documents -/

theorem decode?_encode_change (e : ChangeEvent) :
    decode? (encode (StreamMessage.change e)) = (decode? (encode e)).map StreamMessage.change :=
  decode?_message "change" (encode e)

theorem readsAs_readBack (h : e.HasReadValue) : e.ReadsAs e.readBack := by
  have halone : decode? (encode e) = some e.readBack := by
    rw [encode_eq, decode?_fields, readBack]
    cases hvalue : e.value with
    | none => rfl
    | some v =>
      obtain ⟨d, hv⟩ := h v hvalue
      show (decode? (encode v)).map _ = _
      rw [FlagValue.decode?_encode_option hv]
      rfl
  exact ⟨halone, by rw [decode?_encode_change, halone, Option.map_some]⟩

theorem readsAs_self_iff (h : e.HasReadValue) : e.ReadsAs e ↔ e.value ≠ some (.json .null) := by
  rw [← readBack_eq_self_iff]
  have hread := readsAs_readBack h
  refine ⟨fun hself => Option.some.inj (hread.alone.symm.trans hself.alone), fun hself => ?_⟩
  rwa [hself] at hread

/-! ### As texts -/

theorem within_encode_iff :
    (encode e).Within false (n + 1) ↔ ∀ v ∈ e.value, (encode v).Within false n := by
  rw [encode_eq, ← forall_mem_fields_iff fun _ => .string]
  exact ⟨fun h => by cases h; assumption, .object⟩

theorem within_encode_change_iff :
    (encode (StreamMessage.change e)).Within false (n + 1) ↔ (encode e).Within false n := by
  constructor
  · rintro (_ | _ | _ | _ | _ | _ | hfields)
    exact hfields ("data", encode e) (by simp)
  · intro h
    exact .object (by simpa using ⟨.string, h⟩)

theorem decode?_reread_change (e : ChangeEvent) :
    decode? (encode (StreamMessage.change e)).reread =
      (decode? (encode e).reread).map StreamMessage.change :=
  decode?_message "change" (encode e).reread

/-- The text of an event is read as the event only if the value stays as it is and is not null. -/
theorem decode?_reread_iff (h : e.HasReadValue) :
    decode? (encode e).reread = some e ↔
      ∀ v ∈ e.value, v ≠ .json .null ∧ (encode v).reread = encode v := by
  obtain ⟨kind, flagKey, value, variant⟩ := e
  rw [reread_encode, decode?_fields]
  cases value with
  | none => exact iff_of_true rfl nofun
  | some v =>
    obtain ⟨d, hv⟩ := h v rfl
    calc (decode? (encode v).reread).map (fun value => ChangeEvent.mk kind flagKey value variant) =
          some ⟨kind, flagKey, some v, variant⟩
        ↔ decode? (encode v).reread = some (some v) := by simp [Option.map_eq_some_iff]
      _ ↔ (encode v).reread ≠ .null ∧ (encode v).reread = encode v := by
        rw [decode?_eq_some_some_iff, FlagValue.decode?_reread_iff hv]
      _ ↔ encode v ≠ .null ∧ (encode v).reread = encode v := and_congr_left fun h => by rw [h]
      _ ↔ v ≠ .json .null ∧ (encode v).reread = encode v := by
        rw [Ne, FlagValue.encode_eq_null_iff hv]
      _ ↔ ∀ v' ∈ some v, v' ≠ .json .null ∧ (encode v').reread = encode v' := by simp

/-- What the value has to be like for the event to be read back from a text. -/
theorem within_and_decode?_reread_iff (h : e.HasReadValue) :
    (encode e).Within false (n + 1) ∧ decode? (encode e).reread = some e ↔ ∀ v ∈ e.value,
      v ≠ .json .null ∧ (encode v).Within false n ∧ (encode v).DoublesReadBack := by
  rw [within_encode_iff, decode?_reread_iff h, ← forall₂_and]
  refine forall₂_congr fun v _ => ?_
  rw [and_left_comm]
  exact and_congr_right fun _ => and_congr_right fun hwithin =>
    Document.reread_eq_self_iff hwithin

/-- Events have one spelling. -/
theorem text_eq (e : ChangeEvent) : text e = (encode e).text := rfl

theorem text_change_eq (e : ChangeEvent) :
    text (StreamMessage.change e) = (encode (StreamMessage.change e)).text := rfl

theorem parse?_text_iff (h : e.HasReadValue) :
    parse? (text e) = some e ↔ ∀ v ∈ e.value,
      v ≠ .json .null ∧ (encode v).Within false 126 ∧ (encode v).DoublesReadBack := by
  rw [text_eq, lawful_changeEvent.parse?_text_iff, within_and_decode?_reread_iff h]

theorem parse?_text_change_iff (h : e.HasReadValue) :
    parse? (text (StreamMessage.change e)) = some (StreamMessage.change e) ↔ ∀ v ∈ e.value,
      v ≠ .json .null ∧ (encode v).Within false 125 ∧ (encode v).DoublesReadBack := by
  have hdecode : decode? (encode (StreamMessage.change e)).reread = some (StreamMessage.change e) ↔
      decode? (encode e).reread = some e := by
    rw [decode?_reread_change, Option.map_eq_some_iff]
    simp
  rw [text_change_eq, lawful_streamMessage.parse?_text_iff, within_encode_change_iff, hdecode,
    within_and_decode?_reread_iff h]

/-- An event is read from its text as from its document, where there is room for the value. -/
theorem ReadsAs.asText (h : e.ReadsAs e')
    (hvalue : ∀ v ∈ e.value, (encode v).Within false 125 ∧ (encode v).DoublesReadBack) :
    e.ReadsAsText e' := by
  have hwithin : (encode e).Within false 126 := within_encode_iff.2 fun v hv => (hvalue v hv).1
  have hreads : (encode e).DoublesReadBack := by
    rw [encode_eq, Document.doublesReadBack_object_iff,
      forall_mem_fields_iff Document.doublesReadBack_string]
    exact fun v hv => (hvalue v hv).2
  have hmessage : (encode (StreamMessage.change e)).DoublesReadBack :=
    Document.doublesReadBack_object_iff.2 (List.forall_mem_cons.2
      ⟨Document.doublesReadBack_string _, List.forall_mem_singleton.2 hreads⟩)
  constructor
  · rw [text_eq, parse?_text_of_doublesReadBack (hwithin.mono (by decide)) hreads, h.alone]
  · rw [text_change_eq,
      parse?_text_of_doublesReadBack (within_encode_change_iff.2 hwithin) hmessage, h.inMessage]

/-! ### Updates and deletions -/

/-- An update is read back unless its value is null, and from a text where the reader has room for
the value and the doubles in it read back.  Of an update to null the value is lost, and a deletion
is always read back. -/
theorem updates_read_back {value : FlagValue} {d : Document} (hvalue : decode? d = some value)
    (flagKey : String) (variant : Option String) :
    ((updated flagKey value variant).ReadsAs (updated flagKey value variant) ↔
      value ≠ .json .null) ∧
    (parse? (text (updated flagKey value variant)) = some (updated flagKey value variant) ↔
      value ≠ .json .null ∧ (encode value).Within false 126 ∧ (encode value).DoublesReadBack) ∧
    (parse? (text (StreamMessage.change (updated flagKey value variant))) =
        some (StreamMessage.change (updated flagKey value variant)) ↔
      value ≠ .json .null ∧ (encode value).Within false 125 ∧ (encode value).DoublesReadBack) ∧
    (value = .json .null →
      (updated flagKey value variant).ReadsAs ⟨.update, flagKey, none, variant⟩ ∧
      (updated flagKey value variant).ReadsAsText ⟨.update, flagKey, none, variant⟩) ∧
    (deleted flagKey).ReadsAs (deleted flagKey) ∧
    (deleted flagKey).ReadsAsText (deleted flagKey) := by
  have hread : (updated flagKey value variant).HasReadValue := by
    rintro _ ⟨⟩
    exact ⟨d, hvalue⟩
  have hnone : (deleted flagKey).HasReadValue := nofun
  have hdeleted : (deleted flagKey).ReadsAs (deleted flagKey) := (readsAs_self_iff hnone).2 nofun
  refine ⟨?document, ?text, ?messageText, ?null, hdeleted, hdeleted.asText nofun⟩
  case document =>
    rw [readsAs_self_iff hread]
    simp [updated]
  case text =>
    rw [parse?_text_iff hread]
    simp [updated]
  case messageText =>
    rw [parse?_text_change_iff hread]
    simp [updated]
  case null =>
    rintro rfl
    have hlost := readsAs_readBack hread
    refine ⟨hlost, hlost.asText ?_⟩
    rintro _ ⟨⟩
    exact ⟨.null, nofun⟩

/-- Null is read back where it stands inside a value. -/
theorem updates_read_back_array :
    decode? (.array [.null]) = some (FlagValue.json (.array [.null])) ∧
    (updated "banner" (.json (.array [.null])) (some "on")).ReadsAs
      (updated "banner" (.json (.array [.null])) (some "on")) ∧
    parse? (text (StreamMessage.change (updated "banner" (.json (.array [.null])) (some "on")))) =
      some (StreamMessage.change (updated "banner" (.json (.array [.null])) (some "on"))) := by
  have hvalue : decode? (.array [.null]) = some (FlagValue.json (.array [.null])) := rfl
  have hwithin : (encode (FlagValue.json (.array [.null]))).Within false 125 :=
    .array (List.forall_mem_singleton.2 .null)
  have hreads : (encode (FlagValue.json (.array [.null]))).DoublesReadBack :=
    Document.doublesReadBack_array_iff.2 (List.forall_mem_singleton.2 nofun)
  obtain ⟨hdocument, -, hmessage, -⟩ := updates_read_back hvalue "banner" (some "on")
  exact ⟨hvalue, hdocument.2 nofun, hmessage.2 ⟨nofun, hwithin, hreads⟩⟩

/-- An update that carries null, as one of a flag of type `json` may, is read as an update without
a value. -/
theorem update_null_loses_value :
    decode? .null = some (FlagValue.json .null) ∧ (FlagValue.json .null).hasType .json = true ∧
    decode? (encode (updated "x" (.json .null) none)) =
      some (ChangeEvent.mk .update "x" none none) ∧
    ChangeEvent.mk .update "x" none none ≠ updated "x" (.json .null) none :=
  ⟨rfl, rfl, rfl, by simp [updated]⟩

end ChangeEvent

end FeatureFlags
