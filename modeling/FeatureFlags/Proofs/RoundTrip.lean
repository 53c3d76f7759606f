import FeatureFlags.Proofs.WireFormats

/-!
# Round trips

What is read in one of the wire formats is written as something that is read as the same
(`RoundTrips`), whatever the document or the text looked like that it was first read from.

Timestamps and identifiers read back without exception.  Doubles are written with the fewest
digits that stand for them, and the reader rounds twice, so whether one of them reads back
(`Json.Number.ReadsBack`) is asked of the doubles that stand in the written document.

The attributes of a context have no order of their own, so there is no one text that is written for
a context.  `Context.IsSpelling` says which documents are, and `Context.SpellingsReadBack` that each
of them is read as the context that it is written for.

* `formats_roundTrip` is the main result.
* `Context.attributes_rewritten_in_another_order`: a text that has been written for a context may
  be written as another one when it has been read again.
-/

namespace FeatureFlags

namespace Wire

/-- The text that is written for what a text is read as. -/
def rewrite? (α : Type) [Wire α] (s : String) : Option String :=
  (parse? s : Option α).map fun a => (encode a).text

/-- What is read is written as something that is read as the same. -/
structure RoundTrips (α : Type) [Wire α] : Prop where
  /-- As a document. -/
  decode_encode : ∀ {d : Document} {a : α}, decode? d = some a → decode? (encode a) = some a
  /-- As a text. -/
  parse?_text : ∀ {s : String} {a : α}, parse? s = some a → (encode a).DoublesReadBack →
    parse? (encode a).text = some a
  /-- What has been written again is written again as it stands. -/
  rewrite?_rewrite? : ∀ {s t : String}, rewrite? α s = some t →
    (∀ a : α, parse? s = some a → (encode a).DoublesReadBack) → rewrite? α t = some t

/-- Lawful formats make round trips where the reader has room for them. -/
theorem Lawful.roundTrips {α : Type} [Wire α] (h : Lawful α 127) : RoundTrips α where
  decode_encode := h.decode_encode
  parse?_text := h.parse?_text
  rewrite?_rewrite? {s t} ht hreads := by
    obtain ⟨a, ha, rfl⟩ := Option.map_eq_some_iff.1 ht
    rw [rewrite?, h.parse?_text ha (hreads a ha), Option.map_some]

end Wire

/-! ## Contexts -/

namespace Context

open Wire

variable {c : Context} {d e : Document} {s t t' : String}

/-- The document of a context with its attributes in some order. -/
def IsSpelling (c : Context) (d : Document) : Prop :=
  ∃ attributes : List (String × Json), attributes.Perm c.attributes.entries ∧
    d = .object [("user_id", encode c.userId),
      ("attributes", .object (attributes.map fun a => (a.1, encode a.2)))]

theorem decode?_userId_attributes (userId attributes : Document) :
    decode? (.object [("user_id", userId), ("attributes", attributes)]) =
      (decode? userId).bind fun userId =>
        (decode? attributes).bind fun attributes => some (Context.mk userId attributes) := rfl

theorem decode?_attributes {table : Table String Json} {attributes : List (String × Json)}
    (hperm : attributes.Perm table.entries) (htable : decode? d = some table) :
    decode? (.object (attributes.map fun a => (a.1, encode a.2))) = some table := by
  obtain ⟨fields, -, hentries⟩ := exists_fields htable
  refine Option.map_eq_some_iff.2 ⟨attributes, ?_, Table.ofList_of_perm hperm⟩
  refine mapM_map_of_forall fun a ha => ?_
  obtain ⟨f, -, hf⟩ := hentries a (hperm.mem_iff.1 ha)
  have hread : a.2.toDocument.toJson? = some a.2 := Json.toJson?_toDocument hf
  exact Option.map_eq_some_iff.2 ⟨a.2, hread, rfl⟩

/-- A context is read whatever order its attributes stand in. -/
theorem decode?_of_isSpelling (hc : decode? d = some c) (he : c.IsSpelling e) :
    decode? e = some c := by
  obtain ⟨attributes, hperm, rfl⟩ := he
  have hread : decode? (encode c) = some c :=
    (lawful_context : Lawful Context 127).decode_encode hc
  rw [show encode c = .object [("user_id", encode c.userId), ("attributes", encode c.attributes)]
    from rfl, decode?_userId_attributes] at hread
  obtain ⟨userId, huserId, h⟩ := Option.bind_eq_some_iff.1 hread
  obtain ⟨table, htable, h⟩ := Option.bind_eq_some_iff.1 h
  cases h
  rw [decode?_userId_attributes, huserId, decode?_attributes hperm htable]
  rfl

/-- The order of the attributes does not change how deep they are nested. -/
theorem within_of_isSpelling {n : Nat} (hc : (encode c).Within false n) (he : c.IsSpelling e) :
    e.Within false n := by
  obtain ⟨attributes, hperm, rfl⟩ := he
  cases hc with
  | @object n _ hfields =>
    obtain ⟨huser, hattributes, -⟩ := by simpa only [List.forall_mem_cons] using hfields
    refine .object (List.forall_mem_cons.2 ⟨huser, List.forall_mem_singleton.2 ?_⟩)
    cases hattributes with
    | object hentries =>
      refine .object fun f hf => ?_
      obtain ⟨a, ha, rfl⟩ := List.mem_map.1 hf
      exact hentries _ (List.mem_map_of_mem (hperm.mem_iff.1 ha))

/-- Nor does it change which doubles stand in them. -/
theorem doublesReadBack_of_isSpelling (hc : (encode c).DoublesReadBack) (he : c.IsSpelling e) :
    e.DoublesReadBack := by
  obtain ⟨attributes, hperm, rfl⟩ := he
  obtain ⟨huser, hattributes, -⟩ := by
    simpa only [List.forall_mem_cons] using Document.doublesReadBack_object_iff.1 hc
  refine Document.doublesReadBack_object_iff.2
    (List.forall_mem_cons.2 ⟨huser, List.forall_mem_singleton.2 ?_⟩)
  refine Document.doublesReadBack_object_iff.2 fun f hf => ?_
  obtain ⟨a, ha, rfl⟩ := List.mem_map.1 hf
  exact Document.doublesReadBack_object_iff.1 hattributes _
    (List.mem_map_of_mem (hperm.mem_iff.1 ha))

theorem parse?_text_of_decode? (hd : d.Within false 127) (hreads : d.DoublesReadBack)
    (hc : decode? d = some c) : parse? d.text = some c :=
  Option.bind_eq_some_iff.2 ⟨d, Json.Reader.parse?_text hd hreads, hc⟩

theorem parse?_of_isSpelling (hc : parse? s = some c) (he : c.IsSpelling e)
    (hreads : (encode c).DoublesReadBack) : parse? e.text = some c := by
  obtain ⟨d, hd, hc⟩ := Option.bind_eq_some_iff.1 hc
  have hwithin : (encode c).Within false 127 :=
    lawful_context.within (Nat.le_refl 127) (Json.Reader.within_of_parse? hd) hc
  exact parse?_text_of_decode? (within_of_isSpelling hwithin he)
    (doublesReadBack_of_isSpelling hreads he) (decode?_of_isSpelling hc he)

/-- A single attribute has one order. -/
theorem IsSpelling.eq_encode (he : c.IsSpelling e) (hone : c.attributes.entries.length ≤ 1) :
    e = encode c := by
  obtain ⟨attributes, hperm, rfl⟩ := he
  have hsame : attributes = c.attributes.entries := by
    match hentries : c.attributes.entries with
    | [] =>
      rw [hentries] at hperm
      exact hperm.eq_nil
    | [a] =>
      rw [hentries] at hperm
      exact List.perm_singleton.1 hperm
    | _ :: _ :: _ =>
      rw [hentries] at hone
      exact absurd hone (by simp)
  rw [hsame]
  rfl

/-- Whether the second text may be written for the context that the first one is read as. -/
def Rewrites (s t : String) : Prop :=
  ∃ c : Context, parse? s = some c ∧ ∃ e, c.IsSpelling e ∧ e.text = t

/-- What is written for a context is read as the context. -/
theorem Rewrites.parse?_eq (h : Rewrites s t)
    (hreads : ∀ c : Context, parse? s = some c → (encode c).DoublesReadBack) :
    (parse? t : Option Context) = parse? s := by
  obtain ⟨c, hc, e, he, rfl⟩ := h
  rw [parse?_of_isSpelling hc he (hreads c hc), hc]

/-- What is read as a context is written, in any order of its attributes, as something that is read
as the same. -/
structure SpellingsReadBack : Prop where
  /-- As a document. -/
  document : ∀ {d : Document} {c : Context}, decode? d = some c → ∀ e, c.IsSpelling e →
    decode? e = some c
  /-- As a text. -/
  text : ∀ {s : String} {c : Context}, parse? s = some c → (encode c).DoublesReadBack →
    ∀ e, c.IsSpelling e → parse? e.text = some c
  /-- What has been written again may be written again in the same ways. -/
  rewrites_iff : ∀ {s t : String}, Rewrites s t →
    (∀ c : Context, parse? s = some c → (encode c).DoublesReadBack) →
    ∀ t', Rewrites t t' ↔ Rewrites s t'
  /-- With no more than one attribute it is written again as it stands. -/
  rewrites_unique : ∀ {s t : String}, Rewrites s t →
    (∀ c : Context, parse? s = some c → (encode c).DoublesReadBack ∧
      c.attributes.entries.length ≤ 1) →
    ∀ t', Rewrites t t' → t' = t

theorem spellingsReadBack : SpellingsReadBack where
  document hc _ he := decode?_of_isSpelling hc he
  text hc hreads _ he := parse?_of_isSpelling hc he hreads
  rewrites_iff h hreads t' := by rw [Rewrites, Rewrites, h.parse?_eq hreads]
  rewrites_unique {s t} h hone t' h' := by
    have hparse := h.parse?_eq fun c hc => (hone c hc).1
    obtain ⟨c, hc, e, he, rfl⟩ := h
    obtain ⟨c', hc', e', he', rfl⟩ := h'
    obtain rfl : c = c' := Option.some.inj (hc.symm.trans (hparse.symm.trans hc'))
    rw [he.eq_encode (hone c hc).2, he'.eq_encode (hone c hc).2]

end Context

namespace Wire

/-- All wire formats make round trips, but for the order of the attributes of contexts: a context
reads back in any of them, and what is written for it has one text if there is no more than one
attribute. -/
theorem formats_roundTrip :
    (RoundTrips Flag ∧ RoundTrips Configuration ∧ RoundTrips Variant ∧ RoundTrips TargetingRule ∧
      RoundTrips Condition ∧ RoundTrips Operator) ∧
    (RoundTrips Evaluation ∧ RoundTrips BulkEvaluation) ∧
    (RoundTrips ChangeEvent ∧ RoundTrips Scope ∧ RoundTrips Snapshot ∧
      RoundTrips StreamMessage) ∧
    (RoundTrips UsageEvent ∧ RoundTrips FlagUsage ∧ RoundTrips StaleFlag) ∧
    (RoundTrips FlagId ∧ RoundTrips ProjectId ∧ RoundTrips EnvironmentId) ∧
    Context.SpellingsReadBack :=
  ⟨⟨lawful_flag.roundTrips, lawful_configuration.roundTrips,
    lawful_variant.roundTrips, lawful_targetingRule.roundTrips,
    lawful_condition.roundTrips, lawful_operator.roundTrips⟩,
    ⟨lawful_evaluation.roundTrips, lawful_evaluation.table.roundTrips⟩,
    ⟨lawful_changeEvent.roundTrips, lawful_scope.roundTrips,
      lawful_snapshot.roundTrips, lawful_streamMessage.roundTrips⟩,
    ⟨lawful_usageEvent.roundTrips, lawful_flagUsage.roundTrips,
      lawful_staleFlag.roundTrips⟩,
    ⟨lawful_flagId.roundTrips, lawful_projectId.roundTrips,
      lawful_environmentId.roundTrips⟩,
    Context.spellingsReadBack⟩

/-- A variant that is written as an array with a whole number is written as an object with a
double, and reads back from that. -/
theorem roundTrip_variant_array : ∃ v : Variant, parse? "[\"on\",0]" = some v ∧
    (encode v).DoublesReadBack ∧ parse? (encode v).text = some v := by
  have hzero : (parse? "[\"on\",0]" : Option Variant).bind (·.value.number?) =
      some (.finite (.zero false)) := by decide +kernel
  obtain ⟨⟨key, value⟩, hv, hvalue⟩ := Option.bind_eq_some_iff.1 hzero
  have hreads : (encode (Variant.mk key value)).DoublesReadBack := by
    cases value with
    | number x =>
      cases hvalue
      rintro x (_ | _ | ⟨hf, hx⟩)
      rcases List.mem_cons.1 hf with rfl | hf
      · cases hx
      · cases List.mem_singleton.1 hf
        cases hx
        decide +kernel
    | _ => cases hvalue
  exact ⟨_, hv, hreads, formats_roundTrip.1.2.2.1.parse?_text hv hreads⟩

end Wire

namespace Context

open Wire

/-- A context with two attributes in the given order. -/
def twoAttributes (first second : String) : Document :=
  .object [("user_id", .null), ("attributes", .object [(first, .bool true), (second, .bool true)])]

theorem within_twoAttributes (first second : String) :
    (twoAttributes first second).Within false 127 := by
  refine .object (List.forall_mem_cons.2 ⟨.null, List.forall_mem_singleton.2 ?_⟩)
  exact .object (List.forall_mem_cons.2 ⟨.bool, List.forall_mem_singleton.2 .bool⟩)

theorem doublesReadBack_twoAttributes (first second : String) :
    (twoAttributes first second).DoublesReadBack := by
  simp only [twoAttributes, Document.doublesReadBack_object_iff, List.forall_mem_cons]
  exact ⟨nofun, ⟨nofun, nofun, List.forall_mem_nil _⟩, List.forall_mem_nil _⟩

theorem text_twoAttributes_ne {first second first' second' : String} (hne : first ≠ first') :
    (twoAttributes first second).text ≠ (twoAttributes first' second').text := by
  intro hsame
  have hread := Json.Reader.parse?_text (within_twoAttributes first second)
    (doublesReadBack_twoAttributes first second)
  have hread' := Json.Reader.parse?_text (within_twoAttributes first' second')
    (doublesReadBack_twoAttributes first' second')
  rw [hsame, hread', Option.some.injEq] at hread
  simp [twoAttributes, hne.symm] at hread

/-- What has been written for a context with two attributes may, when it is read and written again,
become another text, with the attributes in the other order. -/
theorem attributes_rewritten_in_another_order :
    Rewrites (twoAttributes "b" "a").text (twoAttributes "b" "a").text ∧
    Rewrites (twoAttributes "b" "a").text (twoAttributes "a" "b").text ∧
    (twoAttributes "a" "b").text ≠ (twoAttributes "b" "a").text := by
  let c : Context := ⟨none, .ofList [("a", .bool true), ("b", .bool true)]⟩
  have hdecode : decode? (twoAttributes "b" "a") = some c := rfl
  have hparse : parse? (twoAttributes "b" "a").text = some c :=
    parse?_text_of_decode? (within_twoAttributes _ _) (doublesReadBack_twoAttributes _ _) hdecode
  have hentries : c.attributes.entries = [("a", .bool true), ("b", .bool true)] := rfl
  have hkept : c.IsSpelling (twoAttributes "b" "a") :=
    ⟨[("b", .bool true), ("a", .bool true)], hentries ▸ .swap _ _ _, rfl⟩
  have hswapped : c.IsSpelling (twoAttributes "a" "b") :=
    ⟨[("a", .bool true), ("b", .bool true)], hentries ▸ .refl _, rfl⟩
  exact ⟨⟨c, hparse, _, hkept, rfl⟩, ⟨c, hparse, _, hswapped, rfl⟩,
    text_twoAttributes_ne (by decide)⟩

end Context

end FeatureFlags
