import FeatureFlags.Proofs.Store.Isolation
import FeatureFlags.Proofs.Table

/-!
# Putting a flag in

A flag is put in or refused as a whole, and what is put in is one entry.

* What is refused: `upsert_of_malformed`, `upsert_of_unfit` and `upsert_of_taken` go through the
  checks in their order, and `upsert_eq_ok_iff_not_taken` says what passes all of them.
* `Taken` says that another flag of the project has the key, and `Clash` says it of two flags that
  are put in.  `taken_put_iff` says what is taken after a flag has been put in, so that
  `upsert_upsert_eq_ok_iff` can tell when two flags get in without regard to their order.
* `put_put` and `put_comm`: an entry is put in once, and entries in different places are put in in
  either order.

`upsert_atomic` puts these together.
-/

namespace FeatureFlags.Store

variable {s s' : Store} {scope scope' : Scope} {e e' : Entry}

/-! ## Keys that are taken -/

/-- Whether the key of a flag belongs to another flag, in this scope or another of the project. -/
def Taken (s : Store) (scope : Scope) (e : Entry) : Prop :=
  ∃ scope' e', scope'.project = scope.project ∧ (s.flags scope').get? e.key = some e' ∧
    e'.flag.id ≠ e.flag.id

theorem hasConflict_eq_false_iff_not_taken :
    s.hasConflict scope.project e.key e.flag.id = false ↔ ¬s.Taken scope e := by
  rw [hasConflict_eq_false_iff]
  constructor
  · intro hfree htaken
    obtain ⟨scope', e', hproject, he, hid⟩ := htaken
    exact hid (hfree scope' e' hproject he)
  · intro hfree scope' e' hproject he
    apply Decidable.by_contra
    intro hid
    exact hfree ⟨scope', e', hproject, he, hid⟩

/-- Whether two flags cannot stand in one store. -/
structure Clash (scope : Scope) (e : Entry) (scope' : Scope) (e' : Entry) : Prop where
  project : scope.project = scope'.project
  key : e.key = e'.key
  id : e.flag.id ≠ e'.flag.id

theorem Clash.symm (h : Clash scope e scope' e') : Clash scope' e' scope e :=
  ⟨h.project.symm, h.key.symm, h.id.symm⟩

/-- After a flag has been put in, the keys that were taken are taken, and its own is. -/
theorem taken_put_iff (hfree : ¬s.Taken scope e) :
    (s.put scope e).Taken scope' e' ↔ s.Taken scope' e' ∨ Clash scope e scope' e' := by
  constructor
  · intro htaken
    obtain ⟨scope₁, e₁, hproject, he₁, hid⟩ := htaken
    rw [get?_flags_put] at he₁
    split at he₁
    · next hnew =>
      obtain rfl := Option.some.inj he₁
      exact .inr ⟨hnew.1 ▸ hproject, hnew.2.symm, hid⟩
    · exact .inl ⟨scope₁, e₁, hproject, he₁, hid⟩
  · intro h
    cases h with
    | inl htaken =>
      obtain ⟨scope₁, e₁, hproject, he₁, hid⟩ := htaken
      by_cases hplace : scope₁ = scope ∧ e'.key = e.key
      · -- The entry is replaced, by one of the same flag.
        obtain ⟨rfl, hkey⟩ := hplace
        have hsame : e₁.flag.id = e.flag.id := by
          apply Decidable.by_contra
          intro hne
          exact hfree ⟨scope₁, e₁, rfl, hkey ▸ he₁, hne⟩
        refine ⟨scope₁, e, hproject, ?_, hsame ▸ hid⟩
        rw [get?_flags_put, if_pos ⟨rfl, hkey⟩]
      · refine ⟨scope₁, e₁, hproject, ?_, hid⟩
        rw [get?_flags_put, if_neg hplace]
        exact he₁
    | inr hclash =>
      refine ⟨scope, e, hclash.project, ?_, hclash.id⟩
      rw [get?_flags_put, if_pos ⟨rfl, hclash.key.symm⟩]

/-! ## The checks -/

/-- The key is checked first. -/
theorem upsert_of_malformed (hkey : FlagKey.isValid e.key = false) (s : Store) (scope : Scope) :
    s.upsert scope e = .error (.invalidFlagKey e.key) := by
  rw [upsert, hkey]
  rfl

/-- The configuration is checked next. -/
theorem upsert_of_unfit (hkey : FlagKey.isValid e.key = true) {error : FlagError}
    (hfits : e.config.validate e.flag = .error error) (s : Store) (scope : Scope) :
    s.upsert scope e = .error error := by
  rw [upsert, hkey, hfits]
  rfl

/-- What is in the store is looked at last. -/
theorem upsert_of_taken (hkey : FlagKey.isValid e.key = true)
    (hfits : e.config.validate e.flag = .ok ()) (htaken : s.Taken scope e) :
    s.upsert scope e = .error (.duplicateFlagKey e.key) := by
  have hconflict : s.hasConflict scope.project e.key e.flag.id = true := by
    rw [← Bool.not_eq_false, hasConflict_eq_false_iff_not_taken, not_not]
    exact htaken
  rw [upsert, hkey, hfits, hconflict]
  rfl

theorem upsert_eq_ok_iff_not_taken :
    s.upsert scope e = .ok s' ↔ e.Valid ∧ ¬s.Taken scope e ∧ s' = s.put scope e := by
  rw [upsert_eq_ok_iff, hasConflict_eq_false_iff_not_taken]

/-- Two flags get in one after the other if both would get in alone and they do not clash. -/
theorem upsert_upsert_eq_ok_iff {both : Store} :
    (s.upsert scope e).bind (·.upsert scope' e') = .ok both ↔
      (e.Valid ∧ e'.Valid) ∧ (¬s.Taken scope e ∧ ¬s.Taken scope' e') ∧
        ¬Clash scope e scope' e' ∧ both = (s.put scope e).put scope' e' := by
  cases hfirst : s.upsert scope e with
  | error error =>
    refine iff_of_false (fun h => nomatch h) fun h => ?_
    rw [upsert_eq_ok_iff_not_taken.2 ⟨h.1.1, h.2.1.1, rfl⟩] at hfirst
    cases hfirst
  | ok s₁ =>
    obtain ⟨hvalid, hfree, rfl⟩ := upsert_eq_ok_iff_not_taken.1 hfirst
    show (s.put scope e).upsert scope' e' = .ok both ↔ _
    rw [upsert_eq_ok_iff_not_taken, taken_put_iff hfree, not_or]
    simp only [hvalid, hfree, not_false_eq_true, true_and, and_assoc]

/-! ## Entries that are put in -/

/-- The scopes afterwards are those before and that of the flag. -/
theorem mem_listScopes_put :
    scope' ∈ (s.put scope e).listScopes ↔ scope' = scope ∨ scope' ∈ s.listScopes := by
  rw [listScopes, listScopes, Table.mem_keys_iff, Table.mem_keys_iff, put, Table.get?_insert]
  split
  · next h => exact iff_of_true rfl (.inl h)
  · next h => exact (or_iff_right h).symm

/-- An entry is put in once. -/
theorem put_put (s : Store) (scope : Scope) (e : Entry) :
    (s.put scope e).put scope e = s.put scope e := by
  rw [put, flags_put, if_pos rfl, put, Table.insert_insert, Table.insert_insert]

/-- Entries in different places are put in in either order. -/
theorem put_comm (hplace : scope' ≠ scope ∨ e'.key ≠ e.key) (s : Store) :
    (s.put scope e).put scope' e' = (s.put scope' e').put scope e := by
  by_cases hscope : scope' = scope
  · subst hscope
    have hkey : e'.key ≠ e.key := hplace.resolve_left fun h => h rfl
    rw [put, flags_put, if_pos rfl, put, Table.insert_insert, Table.insert_comm _ hkey]
    rw [put, flags_put, if_pos rfl, put, Table.insert_insert]
  · rw [put, flags_put, if_neg hscope, put, Table.insert_comm _ hscope]
    rw [put, flags_put, if_neg (Ne.symm hscope), put]

/-! ## Main result -/

/-- A flag is refused for its key if this is malformed, for the first thing that is wrong with its
configuration otherwise, and as a duplicate if the key belongs to another flag of the project; any
other flag gets in.  If it is refused, the store stays as it was.  If it gets in, it stands under
its key in its scope, and every other entry of every scope stays as it was; to put it in once more
succeeds and changes nothing.  Two flags for different places get in one after the other exactly if
they do in the other order, and leave the same store. -/
theorem upsert_atomic (s : Store) (scope : Scope) (e : Entry) :
    (FlagKey.isValid e.key = false → s.upsert scope e = .error (.invalidFlagKey e.key)) ∧
    (FlagKey.isValid e.key = true →
      (∀ error, e.config.validate e.flag = .error error → s.upsert scope e = .error error) ∧
      (e.config.validate e.flag = .ok () →
        (s.Taken scope e → s.upsert scope e = .error (.duplicateFlagKey e.key)) ∧
        (¬s.Taken scope e → ∃ s', s.upsert scope e = .ok s'))) ∧
    (∀ error, s.upsert scope e = .error error → s.step (.upsert scope e) = s) ∧
    (∀ s', s.upsert scope e = .ok s' →
      s.step (.upsert scope e) = s' ∧
      (∀ scope' key, (s'.flags scope').get? key =
        if scope' = scope ∧ key = e.key then some e else (s.flags scope').get? key) ∧
      (∀ scope', scope' ∈ s'.listScopes ↔ scope' = scope ∨ scope' ∈ s.listScopes) ∧
      s'.upsert scope e = .ok s') ∧
    ∀ scope' e', scope' ≠ scope ∨ e'.key ≠ e.key → ∀ both,
      (s.upsert scope e).bind (·.upsert scope' e') = .ok both ↔
        (s.upsert scope' e').bind (·.upsert scope e) = .ok both := by
  refine ⟨?malformed, ?checked, ?refused, ?accepted, ?either⟩
  case malformed =>
    intro hkey
    exact upsert_of_malformed hkey s scope
  case checked =>
    intro hkey
    refine ⟨fun error hfits => upsert_of_unfit hkey hfits s scope, fun hfits => ⟨?_, ?_⟩⟩
    · intro htaken
      exact upsert_of_taken hkey hfits htaken
    · intro hfree
      have hvalid : e.Valid := ⟨hkey, Configuration.validate_eq_ok_iff.1 hfits⟩
      exact ⟨s.put scope e, upsert_eq_ok_iff_not_taken.2 ⟨hvalid, hfree, rfl⟩⟩
  case refused =>
    intro error h
    simp only [step, h]
  case accepted =>
    intro s' h
    have hstep : s.step (.upsert scope e) = s' := by simp only [step, h]
    obtain ⟨hvalid, hfree, rfl⟩ := upsert_eq_ok_iff_not_taken.1 h
    have hfree' : ¬(s.put scope e).Taken scope e := by
      rw [taken_put_iff hfree, not_or]
      exact ⟨hfree, fun hclash => hclash.id rfl⟩
    refine ⟨hstep, fun scope' => get?_flags_put s scope scope' e,
      fun scope' => mem_listScopes_put, ?_⟩
    exact upsert_eq_ok_iff_not_taken.2 ⟨hvalid, hfree', (put_put s scope e).symm⟩
  case either =>
    intro scope' e' hplace both
    have hclash : Clash scope e scope' e' ↔ Clash scope' e' scope e := ⟨.symm, .symm⟩
    rw [upsert_upsert_eq_ok_iff, upsert_upsert_eq_ok_iff, put_comm hplace, hclash,
      and_comm (a := e.Valid), and_comm (a := ¬s.Taken scope e)]

/-- A store in which a key belongs to a flag. -/
def darkModeTaken : Store := empty.put ⟨"shop", "live"⟩ (darkModeOf default)

/-- Another flag with the key gets into another project only. -/
theorem upsert_atomic_secondFlag :
    let e := darkModeOf ⟨⟨2, by decide⟩⟩
    darkModeTaken.upsert ⟨"shop", "test"⟩ e = .error (.duplicateFlagKey "dark-mode") ∧
    darkModeTaken.step (.upsert ⟨"shop", "test"⟩ e) = darkModeTaken ∧
    ∃ s', darkModeTaken.upsert ⟨"blog", "live"⟩ e = .ok s' ∧
      s'.upsert ⟨"blog", "live"⟩ e = .ok s' := by
  intro e
  have hkey : FlagKey.isValid e.key = true := by decide
  have hfits : e.config.validate e.flag = .ok () := by rfl
  obtain ⟨-, hchecked, hrefused, -⟩ := upsert_atomic darkModeTaken ⟨"shop", "test"⟩ e
  have htaken : darkModeTaken.Taken ⟨"shop", "test"⟩ e := by
    refine ⟨⟨"shop", "live"⟩, darkModeOf default, rfl, ?_, by decide⟩
    rw [darkModeTaken, get?_flags_put, if_pos ⟨rfl, rfl⟩]
  have hrefusal := ((hchecked hkey).2 hfits).1 htaken
  obtain ⟨-, hchecked', -, haccepted, -⟩ := upsert_atomic darkModeTaken ⟨"blog", "live"⟩ e
  have hfree : ¬darkModeTaken.Taken ⟨"blog", "live"⟩ e :=
    hasConflict_eq_false_iff_not_taken.1 (by rfl)
  obtain ⟨s', hs'⟩ := ((hchecked' hkey).2 hfits).2 hfree
  exact ⟨hrefusal, hrefused _ hrefusal, s', hs', (haccepted s' hs').2.2.2⟩

end FeatureFlags.Store
