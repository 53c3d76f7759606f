import FeatureFlags.Proofs.Flag.Fitting
import FeatureFlags.Store.Source
import FeatureFlags.Store.Snapshot

/-!
# The entries of a store

* `flags_put`, `flags_removeFlag` and `flags_removeScope` say what each change of a store does to
  the flags of each scope, and `upsert_eq_ok_iff` what gets in.
* `Store.Kept.step` reduces what any change keeps to what an accepted entry and the two removals
  keep, since a snapshot is a row of accepted entries.
* `kept_sound`: whatever is done to a store, its entries stay valid and under their own keys.
* `Source.ReadsFrom` says that a source reads from a store, whichever of its reads fail.
-/

namespace FeatureFlags

/-- A flag that may be put into a store. -/
structure Entry.Valid (e : Entry) : Prop where
  key : FlagKey.isValid e.key = true
  fits : e.config.Fits e.flag

namespace Store

variable {s s' : Store} {scope scope' : Scope} {e : Entry} {key : String}

/-! ## Changes -/

theorem flags_empty (scope : Scope) : Store.empty.flags scope = .empty := rfl

/-- A flag that is put into a scope changes that scope only. -/
theorem flags_put (s : Store) (scope scope' : Scope) (e : Entry) :
    (s.put scope e).flags scope' =
      if scope' = scope then (s.flags scope).insert e.key e else s.flags scope' := by
  rw [put, flags, Table.get?_insert]
  split
  · rfl
  · rfl

/-- In that scope it stands under its own key, and all else stays. -/
theorem get?_flags_put (s : Store) (scope scope' : Scope) (e : Entry) (key : String) :
    ((s.put scope e).flags scope').get? key =
      if scope' = scope ∧ key = e.key then some e else (s.flags scope').get? key := by
  rw [flags_put]
  by_cases hscope : scope' = scope
  · rw [if_pos hscope, Table.get?_insert, hscope]
    simp only [true_and]
  · rw [if_neg hscope, if_neg fun h => hscope h.1]

/-- So does a flag that is removed, even if its scope goes with it. -/
theorem flags_removeFlag (s : Store) (scope scope' : Scope) (key : String) :
    (s.removeFlag scope key).2.flags scope' =
      if scope' = scope then (s.flags scope).erase key else s.flags scope' := by
  rw [removeFlag]
  cases hscope : s.scopes.get? scope with
  | none =>
    have hnone : s.flags scope = .empty := by rw [flags, hscope]; rfl
    dsimp only
    split
    · next h => rw [h, hnone]; rfl
    · rfl
  | some t =>
    have hsome : s.flags scope = t := by rw [flags, hscope]; rfl
    rw [hsome]
    dsimp only
    rw [flags]
    by_cases hempty : (t.erase key).isEmpty = true
    · rw [if_pos hempty, Table.get?_erase]
      split
      · exact (Table.isEmpty_iff.1 hempty).symm
      · rfl
    · rw [if_neg hempty, Table.get?_insert]
      split
      · rfl
      · rfl

theorem flags_removeScope (s : Store) (scope scope' : Scope) :
    (s.removeScope scope).2.flags scope' =
      if scope' = scope then .empty else s.flags scope' := by
  rw [removeScope, flags, Table.get?_erase]
  split
  · rfl
  · rfl

/-- A store accepts valid flags whose keys are free in the project. -/
theorem upsert_eq_ok_iff : s.upsert scope e = .ok s' ↔
    e.Valid ∧ s.hasConflict scope.project e.key e.flag.id = false ∧ s' = s.put scope e := by
  rw [upsert]
  by_cases hkey : FlagKey.isValid e.key = true
  · rw [hkey, if_neg (by decide)]
    cases hfits : e.config.validate e.flag with
    | error error =>
      refine iff_of_false (fun h => nomatch h) fun h => ?_
      rw [Configuration.validate_eq_ok_iff.2 h.1.fits] at hfits
      cases hfits
    | ok u =>
      have hvalid : e.Valid := ⟨hkey, Configuration.validate_eq_ok_iff.1 hfits⟩
      by_cases hconflict : s.hasConflict scope.project e.key e.flag.id = true
      · rw [hconflict]
        exact iff_of_false (fun h => nomatch h) fun h => nomatch h.2.1
      · rw [Bool.not_eq_true] at hconflict
        rw [hconflict]
        constructor
        · intro h
          exact ⟨hvalid, rfl, (Except.ok.inj h).symm⟩
        · rintro ⟨_, _, rfl⟩
          rfl
  · rw [if_pos (by simpa using hkey)]
    exact iff_of_false (fun h => nomatch h) fun h => hkey h.1.key

/-! ## Every change -/

/-- What may be done to a store. -/
inductive Action where
  /-- The store is made anew from a snapshot, unless a flag of it is refused. -/
  | snapshot (snapshot : Snapshot)
  /-- A flag is put in, unless it is refused. -/
  | upsert (scope : Scope) (e : Entry)
  | removeFlag (scope : Scope) (key : String)
  | removeScope (scope : Scope)

/-- What an action leaves. -/
def step (s : Store) : Action → Store
  | .snapshot snapshot =>
    match ofSnapshot snapshot with
    | .ok s' => s'
    | .error _ => s
  | .upsert scope e =>
    match s.upsert scope e with
    | .ok s' => s'
    | .error _ => s
  | .removeFlag scope key => (s.removeFlag scope key).2
  | .removeScope scope => (s.removeScope scope).2

/-- A property of stores that the empty store has and that accepted flags and removals keep. -/
structure Kept (P : Store → Prop) : Prop where
  empty : P .empty
  put : ∀ s scope e, e.Valid → s.hasConflict scope.project e.key e.flag.id = false → P s →
    P (s.put scope e)
  removeFlag : ∀ s scope key, P s → P (s.removeFlag scope key).2
  removeScope : ∀ s scope, P s → P (s.removeScope scope).2

namespace Kept

variable {P : Store → Prop}

theorem upsert (hk : Kept P) (hs : s.upsert scope e = .ok s') (hp : P s) : P s' := by
  obtain ⟨hvalid, hfree, rfl⟩ := upsert_eq_ok_iff.1 hs
  exact hk.put s scope e hvalid hfree hp

theorem upsertAll (hk : Kept P) {entries : List (Scope × Entry)} :
    ∀ {s : Store}, s.upsertAll entries = .ok s' → P s → P s' := by
  induction entries with
  | nil =>
    intro s hs hp
    rw [← Except.ok.inj hs]
    exact hp
  | cons first rest ih =>
    intro s hs hp
    obtain ⟨scope, e⟩ := first
    rw [Store.upsertAll, List.foldlM_cons] at hs
    dsimp only at hs
    cases hfirst : s.upsert scope e with
    | error error =>
      rw [hfirst] at hs
      cases hs
    | ok s₁ =>
      rw [hfirst] at hs
      exact ih hs (hk.upsert hfirst hp)

/-- Every action keeps what accepted flags and removals keep. -/
theorem step (hk : Kept P) (hp : P s) (a : Action) : P (s.step a) := by
  cases a with
  | snapshot snapshot =>
    rw [Store.step]
    split
    · next hs => exact hk.upsertAll hs hk.empty
    · exact hp
  | upsert scope e =>
    rw [Store.step]
    split
    · next hs => exact hk.upsert hs hp
    · exact hp
  | removeFlag scope key => exact hk.removeFlag s scope key hp
  | removeScope scope => exact hk.removeScope s scope hp

end Kept

/-! ## Valid entries -/

/-- Whether every entry is valid and stands under its own key. -/
def Sound (s : Store) : Prop :=
  ∀ scope key e, (s.flags scope).get? key = some e → e.key = key ∧ e.Valid

theorem kept_sound : Kept Sound where
  empty scope key e he := by
    rw [flags_empty, Table.get?_empty] at he
    cases he
  put s scope e hvalid _ hs scope' key' e' he := by
    rw [flags_put] at he
    split at he
    · rcases Table.get?_insert_eq_some_iff.1 he with ⟨rfl, rfl⟩ | ⟨_, he⟩
      · exact ⟨rfl, hvalid⟩
      · exact hs scope key' e' he
    · exact hs scope' key' e' he
  removeFlag s scope key hs scope' key' e' he := by
    rw [flags_removeFlag] at he
    split at he
    · exact hs scope key' e' (Table.get?_erase_eq_some_iff.1 he).2
    · exact hs scope' key' e' he
  removeScope s scope hs scope' key' e' he := by
    rw [flags_removeScope] at he
    split at he
    · rw [Table.get?_empty] at he
      cases he
    · exact hs scope' key' e' he

/-- What is read from a sound store is valid. -/
theorem Sound.valid_of_mem_load (hs : s.Sound) (he : e ∈ s.load scope) : e.Valid := by
  obtain ⟨key, hkey⟩ := Table.mem_values_iff.1 he
  exact (hs scope key e hkey).2

end Store

/-! ## Reading from a store -/

/-- Whether everything that is read from a source is what a store has. -/
structure Source.ReadsFrom (source : Source) (store : Store) : Prop where
  listScopes : ∀ scopes, source.listScopes = .ok scopes → scopes = store.listScopes
  load : ∀ scope entries, source.load scope = .ok entries → entries = store.load scope

/-- Some of the reads from a store may fail. -/
theorem Source.readsFrom_failing (store : Store) (listFails : Bool) (scopes : List Scope)
    (detail : String) : (store.source.failing listFails scopes detail).ReadsFrom store where
  listScopes listed h := by
    rw [failing] at h
    dsimp only at h
    split at h
    · cases h
    · exact (Except.ok.inj h).symm
  load scope entries h := by
    rw [failing] at h
    dsimp only at h
    split at h
    · cases h
    · exact (Except.ok.inj h).symm

end FeatureFlags
