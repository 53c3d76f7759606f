import FeatureFlags.Proofs.Json.Wire

/-!
# The law of records

A record is described by its fields: the name and the presence of each, what it is spelt as, and
when what stands at its place is read as the field (`IsRecord`).  `IsRecord.lawful` is the law of
wire formats for a record whose fields are lawful, and `IsRecord.decode?_encode` says what any
record is read back as; the fields may be written in another order than they are declared in, and
fields without a value may be left out.
-/

namespace FeatureFlags.Wire

open Document (Within Presence Layout)

/-- A field of a record. -/
structure RecordField (α : Type) where
  name : String
  presence : Presence
  /-- What the field is spelt as; none if it is left out. -/
  doc? : α → Option Document
  /-- What stands at the place of the field is read as the field of the record. -/
  Reads : Option Document → α → Prop

variable {α β : Type} {room n : Nat} {a : α} {fs : List (RecordField α)}

namespace RecordField

/-- What is read as the field is spelt as something that is read as the field again. -/
structure Lawful (f : RecordField α) (room : Nat) : Prop where
  reads_doc : ∀ {slot : Option Document} {a : α}, f.Reads slot a → f.Reads (f.doc? a) a
  present : f.presence = .required → ∀ a, f.doc? a ≠ none
  within : ∀ {n : Nat} {slot : Option Document} {a : α} {d : Document}, room ≤ n →
    (∀ e ∈ slot, e.Within true n) → f.Reads slot a → f.doc? a = some d → d.Within false n

/-- A field that must be there. -/
def required [Wire β] (name : String) (get : α → β) : RecordField α where
  name
  presence := .required
  doc? a := some (encode (get a))
  Reads slot a := Document.field? slot = some (get a)

/-- A field with a default. -/
def orElse [Wire β] (name : String) (presence : Presence) (default : β) (get : α → β) :
    RecordField α where
  name
  presence
  doc? a := some (encode (get a))
  Reads slot a := Document.fieldOr? default slot = some (get a)

/-- A field that is left out if it has no value. -/
def omitted [Wire β] (name : String) (get : α → Option β) : RecordField α where
  name
  presence := .defaulted
  doc? a := (get a).map encode
  Reads slot a := Document.fieldOr? none slot = some (get a)

@[simp] theorem required_reads [Wire β] {name : String} {get : α → β} {slot : Option Document} :
    (required name get).Reads slot a ↔ Document.field? slot = some (get a) := .rfl

@[simp] theorem required_doc? [Wire β] {name : String} {get : α → β} :
    (required name get).doc? a = some (encode (get a)) := rfl

@[simp] theorem orElse_reads [Wire β] {name : String} {presence : Presence} {default : β}
    {get : α → β} {slot : Option Document} :
    (orElse name presence default get).Reads slot a ↔
      Document.fieldOr? default slot = some (get a) := .rfl

@[simp] theorem orElse_doc? [Wire β] {name : String} {presence : Presence} {default : β}
    {get : α → β} : (orElse name presence default get).doc? a = some (encode (get a)) := rfl

@[simp] theorem omitted_reads [Wire β] {name : String} {get : α → Option β}
    {slot : Option Document} :
    (omitted name get).Reads slot a ↔ Document.fieldOr? none slot = some (get a) := .rfl

@[simp] theorem omitted_doc? [Wire β] {name : String} {get : α → Option β} :
    (omitted name get).doc? a = (get a).map encode := rfl

variable [Wire β] {name : String}

theorem lawful_required {get : α → β} (h : Wire.Lawful β room) :
    (required name get).Lawful room where
  reads_doc {slot a} hslot := by
    cases slot with
    | some d => exact h.decode_encode hslot
    | none => cases hslot
  present _ _ := nofun
  within {n slot a d} hn hwithin hslot hd := by
    cases slot with
    | some e =>
      cases hd
      exact h.within hn (hwithin e rfl) hslot
    | none => cases hslot

theorem lawful_orElse {presence : Presence} {default : β} {get : α → β} (h : Wire.Lawful β room)
    (hdefault : decode? (encode default) = some default)
    (hroom : (encode default).Within false room) :
    (orElse name presence default get).Lawful room where
  reads_doc {slot a} hslot := by
    cases slot with
    | some d => exact h.decode_encode hslot
    | none =>
      have hget : default = get a := Option.some.inj hslot
      show decode? (encode (get a)) = some (get a)
      rw [← hget, hdefault]
  present _ _ := nofun
  within {n slot a d} hn hwithin hslot hd := by
    cases hd
    cases slot with
    | some e => exact h.within hn (hwithin e rfl) hslot
    | none =>
      have hget : default = get a := Option.some.inj hslot
      rw [← hget]
      exact hroom.mono hn

theorem lawful_omitted {get : α → Option β} (h : Wire.Lawful β room) :
    (omitted name get).Lawful room where
  reads_doc {slot a} hslot := by
    show Document.fieldOr? none ((get a).map encode) = some (get a)
    cases hget : get a with
    | none => rfl
    | some b =>
      have hslot : Document.fieldOr? none slot = some (get a) := hslot
      rw [hget] at hslot
      cases slot with
      | some d => exact h.option.decode_encode hslot
      | none => cases hslot
  present h := nomatch h
  within {n slot a d} hn hwithin hslot hd := by
    obtain ⟨b, hget, rfl⟩ := Option.map_eq_some_iff.1 hd
    have hslot : Document.fieldOr? none slot = some (get a) := hslot
    rw [hget] at hslot
    cases slot with
    | some e => exact h.option.within hn (hwithin e rfl) hslot
    | none => cases hslot

end RecordField

/-! ## What stands at the places of the fields -/

/-- Every field has a place. -/
theorem exists_slot {slots : List (Option Document)}
    (h : List.Forall₂ (fun f slot => f.Reads slot a) fs slots) {f : RecordField α} (hf : f ∈ fs) :
    ∃ slot ∈ slots, f.Reads slot a := by
  induction h with
  | nil => exact absurd hf List.not_mem_nil
  | @cons g slot fs slots hslot _ ih =>
    rcases List.mem_cons.1 hf with rfl | hf
    · exact ⟨slot, List.mem_cons_self, hslot⟩
    · obtain ⟨slot', hmem, hreads⟩ := ih hf
      exact ⟨slot', List.mem_cons_of_mem _ hmem, hreads⟩

/-- The names and the presences of fields. -/
def layout (fs : List (RecordField α)) : Layout := fs.map fun f => (f.name, f.presence)

/-- The fields that are not left out. -/
def written (fs : List (RecordField α)) (a : α) : List (String × Document) :=
  fs.filterMap fun f => (f.doc? a).map (f.name, ·)

/-- The place of the first field holds what stands under its name, if that is there once. -/
theorem objectSlots?_cons {docs : List (String × Document)} {name : String} {presence : Presence}
    {l : Layout} {slots : List (Option Document)} :
    Document.objectSlots? docs ((name, presence) :: l) = some slots ↔
      ∃ slot rest, slots = slot :: rest ∧ Document.objectSlots? docs l = some rest ∧
        (docs.filter (·.1 = name) = [] ∧ presence ≠ .required ∧ slot = none ∨
          ∃ f, docs.filter (·.1 = name) = [f] ∧ slot = some f.2) := by
  rw [Document.objectSlots?]
  generalize docs.filter (·.1 = name) = found
  generalize Document.objectSlots? docs l = rest?
  rcases found with _ | ⟨f, _ | ⟨f', found⟩⟩
  · by_cases hpresence : presence = .required
    · simp [hpresence]
    · cases rest? <;> simp [hpresence, eq_comm]
  · cases rest? <;> simp [eq_comm]
  · simp

theorem mem_of_objectSlots? {docs : List (String × Document)} {l : Layout}
    {slots : List (Option Document)} (h : Document.objectSlots? docs l = some slots)
    {e : Document} (he : some e ∈ slots) : ∃ f ∈ docs, f.2 = e := by
  induction l generalizing slots with
  | nil =>
    cases h
    exact absurd he List.not_mem_nil
  | cons p l ih =>
    obtain ⟨slot, rest, rfl, hrest, hslot⟩ := objectSlots?_cons.1 h
    rcases List.mem_cons.1 he with rfl | he
    · rcases hslot with ⟨-, -, hnone⟩ | ⟨f, hfilter, hf⟩
      · cases hnone
      · have hmem : f ∈ docs.filter (·.1 = p.1) := hfilter ▸ List.mem_cons_self
        exact ⟨f, (List.mem_filter.1 hmem).1, (Option.some.inj hf).symm⟩
    · exact ih hrest he

theorem mem_of_arraySlots? {docs : List Document} {l : Layout} {slots : List (Option Document)}
    (h : Document.arraySlots? docs l = some slots) {e : Document} (he : some e ∈ slots) :
    e ∈ docs := by
  fun_induction Document.arraySlots? docs l generalizing slots with
  | case1 =>
    cases h
    exact absurd he List.not_mem_nil
  | case2 name l ih =>
    obtain ⟨slots, hslots, rfl⟩ := Option.map_eq_some_iff.1 h
    rcases List.mem_cons.1 he with he | he
    · cases he
    · exact ih hslots he
  | case3 => cases h
  | case4 => cases h
  | case5 d docs p l ih =>
    obtain ⟨slots, hslots, rfl⟩ := Option.map_eq_some_iff.1 h
    rcases List.mem_cons.1 he with he | he
    · cases he
      exact List.mem_cons_self
    · exact List.mem_cons_of_mem _ (ih hslots he)

/-- What stands at the places of a record stands in it. -/
theorem within_of_record? {l : Layout} {d : Document} {slots : List (Option Document)}
    (hd : d.Within true n) (h : d.record? l = some slots) :
    ∃ m, n = m + 1 ∧ ∀ e, some e ∈ slots → e.Within true m := by
  cases hd with
  | @array m items hitems => exact ⟨m, rfl, fun e he => hitems e (mem_of_arraySlots? h he)⟩
  | @object m docs hdocs =>
    refine ⟨m, rfl, fun e he => ?_⟩
    obtain ⟨f, hf, rfl⟩ := mem_of_objectSlots? h he
    exact hdocs f hf
  | _ => cases h

theorem exists_of_mem_written {e : String × Document} (he : e ∈ written fs a) :
    ∃ f ∈ fs, f.name = e.1 ∧ f.doc? a = some e.2 := by
  obtain ⟨f, hf, he⟩ := List.mem_filterMap.1 he
  obtain ⟨d, hd, rfl⟩ := Option.map_eq_some_iff.1 he
  exact ⟨f, hf, rfl, hd⟩

/-- Under the name of a field stands what the field is spelt as. -/
theorem filter_written (hnodup : (fs.map RecordField.name).Nodup) (a : α) {f : RecordField α}
    (hf : f ∈ fs) :
    (written fs a).filter (·.1 = f.name) = ((f.doc? a).map (f.name, ·)).toList := by
  induction fs with
  | nil => exact absurd hf List.not_mem_nil
  | cons g fs ih =>
    rw [List.map_cons, List.nodup_cons] at hnodup
    obtain ⟨hg, hnodup⟩ := hnodup
    have hcons : written (g :: fs) a = ((g.doc? a).map (g.name, ·)).toList ++ written fs a := by
      rw [written, List.filterMap_cons]
      cases g.doc? a <;> rfl
    rw [hcons, List.filter_append]
    rcases List.mem_cons.1 hf with rfl | hf
    · have hrest : (written fs a).filter (·.1 = f.name) = [] := by
        refine List.filter_eq_nil_iff.2 fun e he hname => hg ?_
        obtain ⟨f', hf', hf'name, -⟩ := exists_of_mem_written he
        rw [← of_decide_eq_true hname, ← hf'name]
        exact List.mem_map_of_mem hf'
      rw [hrest, List.append_nil]
      cases f.doc? a with
      | none => rfl
      | some d => exact List.filter_cons_of_pos (decide_eq_true rfl)
    · have hne : g.name ≠ f.name := fun h => hg (h ▸ List.mem_map_of_mem hf)
      rw [ih hnodup hf]
      cases g.doc? a with
      | none => rfl
      | some d =>
        show [(g.name, d)].filter (·.1 = f.name) ++ _ = _
        rw [List.filter_cons_of_neg (by simpa using hne)]
        rfl

theorem objectSlots?_of_filter {docs : List (String × Document)}
    (h : ∀ f ∈ fs, docs.filter (·.1 = f.name) = ((f.doc? a).map (f.name, ·)).toList)
    (hpresent : ∀ f ∈ fs, f.presence = .required → f.doc? a ≠ none) :
    Document.objectSlots? docs (layout fs) = some (fs.map (·.doc? a)) := by
  induction fs with
  | nil => rfl
  | cons f fs ih =>
    obtain ⟨hf, hfs⟩ := List.forall_mem_cons.1 h
    obtain ⟨hfpresent, hfspresent⟩ := List.forall_mem_cons.1 hpresent
    refine objectSlots?_cons.2 ⟨f.doc? a, _, rfl, ih hfs hfspresent, ?_⟩
    cases hdoc : f.doc? a with
    | none =>
      rw [hdoc] at hf
      exact .inl ⟨hf, fun hrequired => hfpresent hrequired hdoc, rfl⟩
    | some d =>
      rw [hdoc] at hf
      exact .inr ⟨(f.name, d), hf, rfl⟩

theorem record?_written (hpresent : ∀ f ∈ fs, f.presence = .required → f.doc? a ≠ none)
    (hnodup : (fs.map RecordField.name).Nodup) {docs : List (String × Document)}
    (hdocs : docs.Perm (written fs a)) :
    (Document.object docs).record? (layout fs) = some (fs.map (·.doc? a)) := by
  refine objectSlots?_of_filter (fun f hf => ?_) hpresent
  have hperm := hdocs.filter (·.1 = f.name)
  rw [filter_written hnodup a hf] at hperm
  cases hdoc : f.doc? a with
  | none =>
    rw [hdoc] at hperm
    exact hperm.eq_nil
  | some d =>
    rw [hdoc] at hperm
    exact List.perm_singleton.1 hperm

/-! ## The law -/

/-- The wire format is that of a record with the given fields: a record is read from what stands at
the places of its fields, each as the field there, and written with its fields in some order. -/
inductive IsRecord [Wire α] (fs : List (RecordField α)) : Prop
  | intro {ofSlots? : List (Option Document) → Option α}
      (hdecode : ∀ d, decode? d = (d.record? (layout fs)).bind ofSlots?)
      (hread : ∀ slots a, ofSlots? slots = some a →
        List.Forall₂ (fun f slot => f.Reads slot a) fs slots)
      (hwritten : ∀ a b, (∀ f ∈ fs, f.Reads (f.doc? a) b) →
        ofSlots? (fs.map (·.doc? a)) = some b)
      (hencode : ∀ a, ∃ docs, encode a = .object docs ∧ docs.Perm (written fs a))
      (hnodup : (fs.map RecordField.name).Nodup) : IsRecord fs

/-- A record is read back as the one whose fields are read from its own. -/
theorem IsRecord.decode?_encode [Wire α] (h : IsRecord fs)
    (hpresent : ∀ f ∈ fs, f.presence = .required → ∀ a, f.doc? a ≠ none) {a b : α}
    (hreads : ∀ f ∈ fs, f.Reads (f.doc? a) b) : decode? (encode a) = some b := by
  obtain ⟨hdecode, -, hwritten, hencode, hnodup⟩ := h
  obtain ⟨docs, hdocs, hperm⟩ := hencode a
  rw [hdecode, hdocs,
    record?_written (fun f hf hrequired => hpresent f hf hrequired a) hnodup hperm]
  exact hwritten a b hreads

/-- A record is lawful if its fields are. -/
theorem IsRecord.lawful [Wire α] (h : IsRecord fs) (hfs : ∀ f ∈ fs, f.Lawful room) :
    Lawful α (room + 1) where
  decode_encode {d a} ha := by
    refine h.decode?_encode (fun f hf => (hfs f hf).present) fun f hf => ?_
    obtain ⟨hdecode, hread, -, -, -⟩ := h
    rw [hdecode] at ha
    obtain ⟨slots, -, ha⟩ := Option.bind_eq_some_iff.1 ha
    obtain ⟨slot, -, hslot⟩ := exists_slot (hread slots a ha) hf
    exact (hfs f hf).reads_doc hslot
  eq_null {d a} _ hnull := by
    obtain ⟨-, -, -, hencode, -⟩ := h
    obtain ⟨docs, hdocs, -⟩ := hencode a
    rw [hdocs] at hnull
    cases hnull
  within {n d a} hn hd ha := by
    obtain ⟨hdecode, hread, -, hencode, -⟩ := h
    rw [hdecode] at ha
    obtain ⟨slots, hslots, ha⟩ := Option.bind_eq_some_iff.1 ha
    obtain ⟨docs, hdocs, hperm⟩ := hencode a
    obtain ⟨m, rfl, hwithin⟩ := within_of_record? hd hslots
    rw [hdocs]
    refine .object fun e he => ?_
    obtain ⟨f, hf, -, hdoc⟩ := exists_of_mem_written (hperm.mem_iff.1 he)
    obtain ⟨slot, hslot, hreads⟩ := exists_slot (hread slots a ha) hf
    have hslotWithin : ∀ e ∈ slot, e.Within true m := fun e he => hwithin e (he ▸ hslot)
    exact (hfs f hf).within (Nat.le_of_add_le_add_right hn) hslotWithin hreads hdoc

end FeatureFlags.Wire
