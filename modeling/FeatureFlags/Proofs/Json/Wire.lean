import FeatureFlags.Json.Wire
import FeatureFlags.Proofs.Json.Text
import FeatureFlags.Proofs.Json.Value
import Mathlib.Data.List.Forall2

/-!
# The law of wire formats

`Wire.Lawful` is what reading and writing have in common for every wire format: what has been
read is read again from the document that spells it, and that document is nested no deeper than
what it was read from.  From it `Lawful.parse?_text` concludes that the text of what has been
read reads as the same; `Lawful.parse?_text_iff` says of any value when its text does.

The law is proved for plain values, optional values, lists and maps, and it is passed on from the
fields of a record to the record (`IsRecord.lawful`).
-/

namespace FeatureFlags.Wire

open Document (Within Presence Layout)

variable {α β : Type} [Wire α] [Wire β] {room n : Nat} {d : Document} {a : α}

/-- What is read is read again from the document that spells it, that document is null only if
null was read, and it is nested no deeper than what was read or than the given room. -/
structure Lawful (α : Type) [Wire α] (room : Nat) : Prop where
  decode_encode : ∀ {d : Document} {a : α}, decode? d = some a → decode? (encode a) = some a
  eq_null : ∀ {d : Document} {a : α}, decode? d = some a → encode a = .null → d = .null
  within : ∀ {n : Nat} {d : Document} {a : α}, room ≤ n → d.Within true n → decode? d = some a →
    (encode a).Within false n

/-- What a text is read as that was written for a value. -/
theorem parse?_text_eq (h : (encode a).Within false 127) :
    (parse? (encode a).text : Option α) = decode? (encode a).reread := by
  rw [parse?, Json.Reader.parse?_text_eq_reread h]
  rfl

theorem parse?_text_of_doublesReadBack (h : (encode a).Within false 127)
    (hreads : (encode a).DoublesReadBack) :
    (parse? (encode a).text : Option α) = decode? (encode a) := by
  rw [parse?_text_eq h, (Document.reread_eq_self_iff h).2 hreads]

/-- The text of what has been read reads as the same, if its doubles read back. -/
theorem Lawful.parse?_text (h : Lawful α 127) {s : String} (ha : parse? s = some a)
    (hreads : (encode a).DoublesReadBack) : parse? (encode a).text = some a := by
  obtain ⟨d, hd, ha⟩ := Option.bind_eq_some_iff.1 ha
  have hwithin : (encode a).Within false 127 :=
    h.within (Nat.le_refl 127) (Json.Reader.within_of_parse? hd) ha
  rw [parse?_text_of_doublesReadBack hwithin hreads, h.decode_encode ha]

/-- The text of a value reads as the value where the reader has room for it and nothing is lost with
its numbers, and only there. -/
theorem Lawful.parse?_text_iff (h : Lawful α 127) :
    parse? (encode a).text = some a ↔
      (encode a).Within false 127 ∧ decode? (encode a).reread = some a := by
  constructor
  · intro hparse
    obtain ⟨d, hd, hda⟩ := Option.bind_eq_some_iff.1 hparse
    have hwithin : (encode a).Within false 127 :=
      h.within (Nat.le_refl 127) (Json.Reader.within_of_parse? hd) hda
    exact ⟨hwithin, parse?_text_eq hwithin ▸ hparse⟩
  · rintro ⟨hwithin, hread⟩
    rw [parse?_text_eq hwithin, hread]

/-! ## Plain values -/

/-- What is spelt as a string needs no depth. -/
theorem Lawful.ofString (hstring : ∀ a : α, ∃ s, encode a = .string s)
    (h : ∀ {d : Document} {a : α}, decode? d = some a → decode? (encode a) = some a) :
    Lawful α room where
  decode_encode := h
  eq_null {_ a} _ ha := by
    obtain ⟨s, hs⟩ := hstring a
    rw [hs] at ha
    cases ha
  within {_ _ a} _ _ _ := by
    obtain ⟨s, hs⟩ := hstring a
    rw [hs]
    exact .string

/-- A value in a wrapper that does not show on the wire. -/
theorem Lawful.wrap (h : Lawful α room) {wrap : α → β} {unwrap : β → α}
    (hdecode : ∀ d, decode? d = (decode? d).map wrap) (hencode : ∀ b, encode b = encode (unwrap b))
    (hunwrap : ∀ a, unwrap (wrap a) = a) : Lawful β room where
  decode_encode {d b} hb := by
    rw [hdecode] at hb
    obtain ⟨a, ha, rfl⟩ := Option.map_eq_some_iff.1 hb
    rw [hdecode, hencode, hunwrap, h.decode_encode ha, Option.map_some]
  eq_null {d b} hb hnull := by
    rw [hdecode] at hb
    obtain ⟨a, ha, rfl⟩ := Option.map_eq_some_iff.1 hb
    rw [hencode, hunwrap] at hnull
    exact h.eq_null ha hnull
  within {n d b} hn hd hb := by
    rw [hdecode] at hb
    obtain ⟨a, ha, rfl⟩ := Option.map_eq_some_iff.1 hb
    rw [hencode, hunwrap]
    exact h.within hn hd ha

theorem lawful_bool : Lawful Bool room where
  decode_encode _ := rfl
  eq_null _ h := nomatch h
  within _ _ _ := .bool

theorem lawful_string : Lawful String room := .ofString (fun s => ⟨s, rfl⟩) fun _ => rfl

theorem lawful_json : Lawful Json room where
  decode_encode := Json.toJson?_toDocument
  eq_null {d v} hv hnull := by
    cases Json.eq_null_of_toDocument hnull
    exact Json.eq_null_of_toJson? hv
  within _ := Json.within_toDocument

theorem natBelow?_eq_some {bound m : Nat} :
    d.natBelow? bound = some m ↔ d = .nat m ∧ m < bound := by
  constructor
  · intro h
    unfold Document.natBelow? at h
    split at h
    · split at h
      · next hlt =>
        cases h
        exact ⟨rfl, hlt⟩
      · cases h
    · cases h
  · rintro ⟨rfl, h⟩
    exact if_pos h

theorem within_nat {m : Nat} (h : m < UInt64.size) : (Document.nat m).Within false n := by
  have hfits : Json.Number.fitsInteger (m : Int) = true := by
    have h : m < 18446744073709551616 := h
    rw [Json.Number.fitsInteger, decide_eq_true_iff]
    omega
  exact .integer hfits

theorem lawful_nat : Lawful Nat room where
  decode_encode h := natBelow?_eq_some.2 ⟨rfl, (natBelow?_eq_some.1 h).2⟩
  eq_null _ h := nomatch h
  within _ _ h := within_nat (natBelow?_eq_some.1 h).2

theorem decode?_encode_uint8 (k : UInt8) : decode? (encode k) = some k := by
  show ((Document.nat k.toNat).natBelow? UInt8.size).map UInt8.ofNat = some k
  rw [natBelow?_eq_some.2 ⟨rfl, k.toNat_lt_size⟩, Option.map_some, UInt8.ofNat_toNat]

theorem lawful_uint8 : Lawful UInt8 room where
  decode_encode {d k} _ := decode?_encode_uint8 k
  eq_null _ h := nomatch h
  within {n d k} _ _ _ := within_nat (Nat.lt_trans k.toNat_lt_size (by decide))

/-! ## Optional values, lists and maps -/

/-- Whatever is not null is read as a value that is there. -/
theorem decode?_some_of_ne_null (hd : d ≠ .null) :
    (decode? d : Option (Option α)) = (decode? d).map some := by
  cases d with
  | null => exact absurd rfl hd
  | _ => rfl

/-- What is read as a value that is there is not null. -/
theorem decode?_eq_some_some_iff :
    (decode? d : Option (Option α)) = some (some a) ↔ d ≠ .null ∧ decode? d = some a := by
  by_cases hd : d = .null
  · subst hd
    exact iff_of_false nofun fun h => h.1 rfl
  · rw [decode?_some_of_ne_null hd, Option.map_eq_some_iff]
    simp [hd]

theorem Lawful.option (h : Lawful α room) : Lawful (Option α) room where
  decode_encode {d o} ho := by
    by_cases hd : d = .null
    · subst hd
      cases ho
      rfl
    · rw [decode?_some_of_ne_null hd] at ho
      obtain ⟨a, ha, rfl⟩ := Option.map_eq_some_iff.1 ho
      have hne : encode a ≠ .null := fun hnull => hd (h.eq_null ha hnull)
      show decode? (encode a) = some (some a)
      rw [decode?_some_of_ne_null hne, h.decode_encode ha, Option.map_some]
  eq_null {d o} ho hnull := by
    by_contra hd
    rw [decode?_some_of_ne_null hd] at ho
    obtain ⟨a, ha, rfl⟩ := Option.map_eq_some_iff.1 ho
    exact hd (h.eq_null ha hnull)
  within {n d o} hn hd ho := by
    by_cases hnull : d = .null
    · subst hnull
      cases ho
      exact .null
    · rw [decode?_some_of_ne_null hnull] at ho
      obtain ⟨a, ha, rfl⟩ := Option.map_eq_some_iff.1 ho
      exact h.within hn hd ha

/-- The items of a list that is read are read from the items of an array. -/
theorem exists_items {as : List α} (h : decode? d = some as) :
    ∃ ds, d = .array ds ∧ ∀ a ∈ as, ∃ e ∈ ds, decode? e = some a := by
  cases d with
  | array ds => exact ⟨ds, rfl, fun a ha => exists_mem_of_mapM h ha⟩
  | _ => cases h

theorem Lawful.list (h : Lawful α room) : Lawful (List α) (room + 1) where
  decode_encode {d as} has := by
    obtain ⟨ds, rfl, hitems⟩ := exists_items has
    refine mapM_map_of_forall fun a ha => ?_
    obtain ⟨e, -, he⟩ := hitems a ha
    exact h.decode_encode he
  eq_null _ hnull := nomatch hnull
  within {n d as} hn hd has := by
    obtain ⟨ds, rfl, hitems⟩ := exists_items has
    cases hd with
    | @array n _ hd =>
      refine .array fun e he => ?_
      obtain ⟨a, ha, rfl⟩ := List.mem_map.1 he
      obtain ⟨e, he, hea⟩ := hitems a ha
      exact h.within (Nat.le_of_add_le_add_right hn) (hd e he) hea

/-- The entries of a map that is read are read from the fields of an object. -/
theorem exists_fields {t : Table String α} (h : decode? d = some t) :
    ∃ fields, d = .object fields ∧ ∀ e ∈ t.entries, ∃ f ∈ fields, decode? f.2 = some e.2 := by
  cases d with
  | object fields =>
    obtain ⟨es, hes, rfl⟩ := Option.map_eq_some_iff.1 h
    refine ⟨fields, rfl, fun e he => ?_⟩
    obtain ⟨f, hf, hvalue⟩ := exists_mem_of_mapM hes (Table.mem_of_mem_ofList he)
    obtain ⟨a, ha, rfl⟩ := Option.map_eq_some_iff.1 hvalue
    exact ⟨f, hf, ha⟩
  | _ => cases h

theorem Lawful.table (h : Lawful α room) : Lawful (Table String α) (room + 1) where
  decode_encode {d t} ht := by
    obtain ⟨fields, rfl, hentries⟩ := exists_fields ht
    have hread : ∀ e ∈ t.entries, (decode? (encode e.2)).map (e.1, ·) = some e := by
      intro e he
      obtain ⟨f, -, hf⟩ := hentries e he
      rw [h.decode_encode hf, Option.map_some]
    refine Option.map_eq_some_iff.2 ⟨t.entries, ?_, Table.ofList_of_perm (.refl _)⟩
    exact mapM_map_of_forall hread
  eq_null _ hnull := nomatch hnull
  within {n d t} hn hd ht := by
    obtain ⟨fields, rfl, hentries⟩ := exists_fields ht
    cases hd with
    | @object n _ hd =>
      refine .object fun f hf => ?_
      obtain ⟨e, he, rfl⟩ := List.mem_map.1 hf
      obtain ⟨f, hf, hfe⟩ := hentries e he
      exact h.within (Nat.le_of_add_le_add_right hn) (hd f hf) hfe

end FeatureFlags.Wire
