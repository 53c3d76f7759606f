import FeatureFlags.Proofs.Json.Double
import FeatureFlags.Proofs.Json.Value

/-!
# Numbers that are read again

`Document.reread` is a document with its numbers written and read again: a double may become
another one, or unreadable where that is beyond the doubles.

* `reread_eq_self_iff`: nothing changes if, and only if, every double reads back.
* `reread_eq_self_of_toJson?`: nor does it if the value stays the same.
-/

namespace FeatureFlags

namespace Json.Number

/-- What the text of the number is read as; none if that is beyond the doubles. -/
def reread? (n : Number) : Option Number :=
  (Numeral.read? n.text.toList).bind Numeral.value?

theorem reread?_eq_self_iff {n : Number} : n.reread? = some n ↔ n.ReadsBack := .rfl

end Json.Number

namespace Document

variable {d : Document} {n : Nat}

/-- The document of a number; without one it is unreadable. -/
def ofNumber? : Option Json.Number → Document
  | some n => .number n
  | none => .unreadable

theorem ofNumber?_eq_number_iff {o : Option Json.Number} {m : Json.Number} :
    ofNumber? o = .number m ↔ o = some m := by
  cases o <;> simp [ofNumber?]

mutual

/-- The document with its numbers read again. -/
def reread : Document → Document
  | .number n => ofNumber? n.reread?
  | .array items => .array (rereadItems items)
  | .object fields => .object (rereadFields fields)
  | d => d

/-- The items of an array with their numbers read again. -/
def rereadItems : List Document → List Document
  | [] => []
  | d :: ds => reread d :: rereadItems ds

/-- The fields of an object with their numbers read again. -/
def rereadFields : List (String × Document) → List (String × Document)
  | [] => []
  | (k, d) :: ds => (k, reread d) :: rereadFields ds

end

theorem rereadItems_eq (items : List Document) : rereadItems items = items.map reread := by
  induction items with
  | nil => rfl
  | cons d items ih => rw [rereadItems, ih, List.map_cons]

theorem rereadFields_eq (fields : List (String × Document)) :
    rereadFields fields = fields.map fun f => (f.1, f.2.reread) := by
  induction fields with
  | nil => rfl
  | cons f fields ih => rw [rereadFields, ih, List.map_cons]

theorem reread_number_iff {n : Json.Number} : reread (.number n) = .number n ↔ n.ReadsBack := by
  rw [reread, ofNumber?_eq_number_iff, Json.Number.reread?_eq_self_iff]

theorem reread_array_iff {items : List Document} :
    reread (.array items) = .array items ↔ ∀ d ∈ items, d.reread = d := by
  rw [reread, rereadItems_eq, array.injEq]
  conv_lhs => rw [← List.map_id items, List.map_map]
  exact List.map_inj_left

theorem reread_object_iff {fields : List (String × Document)} :
    reread (.object fields) = .object fields ↔ ∀ f ∈ fields, f.2.reread = f.2 := by
  rw [reread, rereadFields_eq, object.injEq]
  conv_lhs => rw [← List.map_id fields, List.map_map]
  refine List.map_inj_left.trans (forall₂_congr fun f _ => ?_)
  exact ⟨fun h => congrArg Prod.snd h, fun h => Prod.ext rfl h⟩

/-- A document stays as it is if, and only if, every double in it reads back. -/
theorem reread_eq_self_iff (h : d.Within false n) : d.reread = d ↔ d.DoublesReadBack := by
  induction h with
  | null => exact iff_of_true rfl nofun
  | bool => exact iff_of_true rfl nofun
  | integer h =>
    exact iff_of_true (reread_number_iff.2 (Json.Number.readsBack_integer h)) nofun
  | float => rw [reread_number_iff, doublesReadBack_float_iff]
  | string => exact iff_of_true rfl nofun
  | array _ ih =>
    rw [doublesReadBack_array_iff, reread_array_iff]
    exact forall₂_congr ih
  | object _ ih =>
    rw [doublesReadBack_object_iff, reread_object_iff]
    exact forall₂_congr ih
  | unreadable h => exact absurd h Bool.false_ne_true

/-- A double is read again as a double. -/
theorem reread_float (x : Finite64) :
    reread (.number (.float x)) = .unreadable ∨
      ∃ y, reread (.number (.float x)) = .number (.float y) := by
  obtain ⟨m, hm, hvalue⟩ := Json.Number.exists_float? x
  rw [reread, Json.Number.reread?, hm, Option.bind_some, hvalue]
  cases m.float? with
  | none => exact .inl rfl
  | some y => exact .inr ⟨y, rfl⟩

/-- Nothing is nested otherwise. -/
theorem within_reread (h : d.Within false n) : d.reread.Within true n := by
  induction h with
  | null => exact .null
  | bool => exact .bool
  | integer h =>
    rw [reread_number_iff.2 (Json.Number.readsBack_integer h)]
    exact .integer h
  | @float _ x =>
    obtain h | ⟨y, h⟩ := reread_float x
    · exact h ▸ .unreadable rfl
    · exact h ▸ .float
  | string => exact .string
  | array _ ih =>
    rw [reread, rereadItems_eq]
    refine .array fun d hmem => ?_
    obtain ⟨d, hd, rfl⟩ := List.mem_map.1 hmem
    exact ih d hd
  | object _ ih =>
    rw [reread, rereadFields_eq]
    refine .object fun f hmem => ?_
    obtain ⟨f, hf, rfl⟩ := List.mem_map.1 hmem
    exact ih f hf
  | unreadable h => exact absurd h Bool.false_ne_true

/-- If a value stays the same, so does the document that spells it. -/
theorem reread_toDocument_of_toJson? {v : Json} (hd : d.toJson? = some v)
    (h : v.toDocument.reread.toJson? = some v) : v.toDocument.reread = v.toDocument := by
  induction d using Document.induction generalizing v with
  | null => cases hd; rfl
  | bool b => cases hd; rfl
  | number n =>
    cases hd
    rw [Json.toDocument, reread] at h ⊢
    cases hn : n.reread? with
    | some m =>
      rw [hn] at h
      cases h
      rfl
    | none =>
      rw [hn] at h
      cases h
  | string s => cases hd; rfl
  | array items ih =>
    obtain ⟨vs, rfl, hvs⟩ := Json.toJson?_array hd
    rw [Json.toDocument, Json.itemsToDocument_eq] at h ⊢
    rw [reread, rereadItems_eq, toJson?, itemsToJson?_eq, List.map_map] at h
    obtain ⟨vs', hvs', heq⟩ := Option.map_eq_some_iff.1 h
    cases heq
    refine reread_array_iff.2 fun d hd => ?_
    obtain ⟨v, hv, rfl⟩ := List.mem_map.1 hd
    obtain ⟨d, hd, hdv⟩ := hvs v hv
    exact ih d hd hdv (forall_of_mapM_map hvs' v hv)
  | object fields ih =>
    obtain ⟨t, rfl, ht⟩ := Json.toJson?_object hd
    rw [Json.toDocument, Json.fieldsToDocument_eq] at h ⊢
    rw [reread, rereadFields_eq, toJson?, fieldsToJson?_eq, List.map_map] at h
    obtain ⟨es, hes, heq⟩ := Option.map_eq_some_iff.1 h
    -- The fields are read in the order of their keys, so they stay in it.
    have hkeys : es.map Prod.fst = t.keys := by
      rw [map_eq_of_mapM (k := Prod.fst) (l := Prod.fst) (fun f e hf => ?_) hes, List.map_map]
      · rfl
      · obtain ⟨v, -, rfl⟩ := Option.map_eq_some_iff.1 hf
        rfl
    have hself : es = t.entries := by
      rw [← Table.entries_ofList_of_keys hkeys]
      exact Json.object.inj heq
    subst hself
    refine reread_object_iff.2 fun f hf => ?_
    obtain ⟨e, he, rfl⟩ := List.mem_map.1 hf
    obtain ⟨f, hf, hfe⟩ := ht e he
    obtain ⟨v, hv, hve⟩ := Option.map_eq_some_iff.1 (forall_of_mapM_map hes e he)
    exact ih f hf hfe (hv.trans (congrArg some (congrArg Prod.snd hve)))
  | unreadable => cases hd

end Document

end FeatureFlags
