import FeatureFlags.Proofs.Json.Document
import FeatureFlags.Proofs.Table

/-!
# Values and their documents

A value that a document has is the value of the document that spells it
(`toJson?_toDocument`), and that document is nested no deeper (`within_toDocument`).  Fields that
the document repeats are spelt once.
-/

namespace FeatureFlags

/-! ## Reading every item of a list -/

section Lists

variable {α β : Type} {f : α → Option β}

theorem exists_mem_of_mapM {as : List α} {bs : List β} (h : as.mapM f = some bs) {b : β}
    (hb : b ∈ bs) : ∃ a ∈ as, f a = some b := by
  induction as generalizing bs with
  | nil =>
    cases h
    exact absurd hb List.not_mem_nil
  | cons a as ih =>
    rw [List.mapM_cons] at h
    obtain ⟨b', hb', h⟩ := Option.bind_eq_some_iff.1 h
    obtain ⟨bs', hbs', h⟩ := Option.bind_eq_some_iff.1 h
    cases h
    rcases List.mem_cons.1 hb with rfl | hb
    · exact ⟨a, List.mem_cons_self, hb'⟩
    · obtain ⟨a', ha', hf⟩ := ih hbs' hb
      exact ⟨a', List.mem_cons_of_mem _ ha', hf⟩

theorem mapM_map_eq_map {γ : Type} {g : γ → α} {k : γ → β} {cs : List γ}
    (h : ∀ c ∈ cs, f (g c) = some (k c)) : (cs.map g).mapM f = some (cs.map k) := by
  induction cs with
  | nil => rfl
  | cons c cs ih =>
    obtain ⟨hc, hcs⟩ := List.forall_mem_cons.1 h
    rw [List.map_cons, List.mapM_cons, hc, ih hcs]
    rfl

theorem mapM_map_of_forall {g : β → α} {bs : List β} (h : ∀ b ∈ bs, f (g b) = some b) :
    (bs.map g).mapM f = some bs :=
  (mapM_map_eq_map h).trans (congrArg some (List.map_id' bs))

/-- Items that are read as a list are read as its items. -/
theorem forall_of_mapM_map {g : β → α} {bs : List β} (h : (bs.map g).mapM f = some bs) :
    ∀ b ∈ bs, f (g b) = some b := by
  induction bs with
  | nil => exact List.forall_mem_nil _
  | cons b bs ih =>
    rw [List.map_cons, List.mapM_cons] at h
    obtain ⟨b', hb, h⟩ := Option.bind_eq_some_iff.1 h
    obtain ⟨bs', hbs, h⟩ := Option.bind_eq_some_iff.1 h
    cases h
    exact List.forall_mem_cons.2 ⟨hb, ih hbs⟩

/-- What reading leaves of every item it leaves of the list. -/
theorem map_eq_of_mapM {γ : Type} {k : β → γ} {l : α → γ} (hk : ∀ a b, f a = some b → k b = l a)
    {as : List α} {bs : List β} (h : as.mapM f = some bs) : bs.map k = as.map l := by
  induction as generalizing bs with
  | nil =>
    cases h
    rfl
  | cons a as ih =>
    rw [List.mapM_cons] at h
    obtain ⟨b, hb, h⟩ := Option.bind_eq_some_iff.1 h
    obtain ⟨bs', hbs, h⟩ := Option.bind_eq_some_iff.1 h
    cases h
    rw [List.map_cons, List.map_cons, hk a b hb, ih hbs]

end Lists

namespace Document

theorem itemsToJson?_eq (items : List Document) : itemsToJson? items = items.mapM toJson? := by
  induction items with
  | nil => rfl
  | cons d items ih =>
    rw [itemsToJson?, ih, List.mapM_cons]

theorem fieldsToJson?_eq (fields : List (String × Document)) :
    fieldsToJson? fields = fields.mapM fun f => f.2.toJson?.map (f.1, ·) := by
  induction fields with
  | nil => rfl
  | cons f fields ih =>
    rw [fieldsToJson?, ih, List.mapM_cons]
    cases f.2.toJson? <;> rfl

/-- A document is a document of its parts. -/
@[elab_as_elim]
theorem induction {P : Document → Prop} (null : P .null) (bool : ∀ b, P (.bool b))
    (number : ∀ n, P (.number n)) (string : ∀ s, P (.string s))
    (array : ∀ items, (∀ d ∈ items, P d) → P (.array items))
    (object : ∀ fields, (∀ f ∈ fields, P f.2) → P (.object fields))
    (unreadable : P .unreadable) (d : Document) : P d :=
  @Document.rec P (fun items => ∀ d ∈ items, P d) (fun fields => ∀ f ∈ fields, P f.2)
    (fun f => P f.2) null bool number string array object unreadable (List.forall_mem_nil _)
    (fun _ _ hd hds => List.forall_mem_cons.2 ⟨hd, hds⟩) (List.forall_mem_nil _)
    (fun _ _ hf hfs => List.forall_mem_cons.2 ⟨hf, hfs⟩) (fun _ _ hd => hd) d

end Document

namespace Json

open Document (Within)

theorem itemsToDocument_eq (vs : List Json) : itemsToDocument vs = vs.map toDocument := by
  induction vs with
  | nil => rfl
  | cons v vs ih => rw [itemsToDocument, ih, List.map_cons]

theorem fieldsToDocument_eq (fields : List (String × Json)) :
    fieldsToDocument fields = fields.map fun f => (f.1, f.2.toDocument) := by
  induction fields with
  | nil => rfl
  | cons f fields ih => rw [fieldsToDocument, ih, List.map_cons]

/-- An array that is read is read item by item. -/
theorem toJson?_array {items : List Document} {v : Json}
    (h : (Document.array items).toJson? = some v) :
    ∃ vs, v = .array vs ∧ ∀ v ∈ vs, ∃ d ∈ items, d.toJson? = some v := by
  obtain ⟨vs, hvs, rfl⟩ := Option.map_eq_some_iff.1 h
  rw [Document.itemsToJson?_eq] at hvs
  exact ⟨vs, rfl, fun v hv => exists_mem_of_mapM hvs hv⟩

/-- An object that is read has fields of the document, in key order. -/
theorem toJson?_object {fields : List (String × Document)} {v : Json}
    (h : (Document.object fields).toJson? = some v) :
    ∃ t : Table String Json, v = .object t.entries ∧
      ∀ e ∈ t.entries, ∃ f ∈ fields, f.2.toJson? = some e.2 := by
  obtain ⟨es, hes, rfl⟩ := Option.map_eq_some_iff.1 h
  rw [Document.fieldsToJson?_eq] at hes
  refine ⟨Table.ofList es, rfl, fun e he => ?_⟩
  obtain ⟨f, hf, hvalue⟩ := exists_mem_of_mapM hes (Table.mem_of_mem_ofList he)
  obtain ⟨v, hv, rfl⟩ := Option.map_eq_some_iff.1 hvalue
  exact ⟨f, hf, hv⟩

/-- An array is read from the document that spells it if its items are. -/
theorem toJson?_toDocument_array {vs : List Json}
    (h : ∀ v ∈ vs, v.toDocument.toJson? = some v) :
    (Json.array vs).toDocument.toJson? = some (.array vs) := by
  rw [toDocument, itemsToDocument_eq, Document.toJson?, Document.itemsToJson?_eq,
    mapM_map_of_forall h, Option.map_some]

/-- An object with its fields in key order is read if they are. -/
theorem toJson?_toDocument_object {t : Table String Json}
    (h : ∀ e ∈ t.entries, e.2.toDocument.toJson? = some e.2) :
    (Json.object t.entries).toDocument.toJson? = some (.object t.entries) := by
  have hread : ∀ e ∈ t.entries, e.2.toDocument.toJson?.map (e.1, ·) = some e := by
    intro e he
    rw [h e he, Option.map_some]
  rw [toDocument, fieldsToDocument_eq, Document.toJson?, Document.fieldsToJson?_eq,
    mapM_map_of_forall hread, Option.map_some, ofFields, Table.ofList_of_perm (.refl _)]

/-- A value that was read is read again from the document that spells it. -/
theorem toJson?_toDocument {d : Document} {v : Json} (h : d.toJson? = some v) :
    v.toDocument.toJson? = some v := by
  induction d using Document.induction generalizing v with
  | null => cases h; rfl
  | bool b => cases h; rfl
  | number n => cases h; rfl
  | string s => cases h; rfl
  | array items ih =>
    obtain ⟨vs, rfl, hvs⟩ := toJson?_array h
    refine toJson?_toDocument_array fun v hv => ?_
    obtain ⟨d, hd, hdv⟩ := hvs v hv
    exact ih d hd hdv
  | object fields ih =>
    obtain ⟨t, rfl, ht⟩ := toJson?_object h
    refine toJson?_toDocument_object fun e he => ?_
    obtain ⟨f, hf, hfe⟩ := ht e he
    exact ih f hf hfe
  | unreadable => cases h

/-- The document that spells a value that was read is nested no deeper than what it was read
from, and has no gaps. -/
theorem within_toDocument {n : Nat} {d : Document} {v : Json} (hd : d.Within true n)
    (h : d.toJson? = some v) : v.toDocument.Within false n := by
  induction hd generalizing v with
  | null => cases h; exact .null
  | bool => cases h; exact .bool
  | integer hn => cases h; exact .integer hn
  | float => cases h; exact .float
  | string => cases h; exact .string
  | array _ ih =>
    obtain ⟨vs, rfl, hvs⟩ := toJson?_array h
    rw [toDocument, itemsToDocument_eq]
    refine .array fun d hd => ?_
    obtain ⟨v, hv, rfl⟩ := List.mem_map.1 hd
    obtain ⟨d, hd, hdv⟩ := hvs v hv
    exact ih d hd hdv
  | object _ ih =>
    obtain ⟨t, rfl, ht⟩ := toJson?_object h
    rw [toDocument, fieldsToDocument_eq]
    refine .object fun f hf => ?_
    obtain ⟨e, he, rfl⟩ := List.mem_map.1 hf
    obtain ⟨f, hf, hfe⟩ := ht e he
    exact ih f hf hfe
  | unreadable => cases h

/-- Only null is spelt as null. -/
theorem eq_null_of_toDocument {v : Json} (h : v.toDocument = .null) : v = .null := by
  cases v with
  | null => rfl
  | _ => cases h

/-- Only null has the value null. -/
theorem eq_null_of_toJson? {d : Document} (h : d.toJson? = some .null) : d = .null := by
  cases d with
  | null => rfl
  | array items =>
    obtain ⟨vs, hvs, -⟩ := toJson?_array h
    cases hvs
  | object fields =>
    obtain ⟨t, ht, -⟩ := toJson?_object h
    cases ht
  | _ => cases h

end Json

end FeatureFlags
