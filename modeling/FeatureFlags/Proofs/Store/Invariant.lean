import FeatureFlags.Proofs.Store.Entries

/-!
# What every store is like

* `hasConflict_eq_false_iff` says when a key is free for a flag: every flag of the project that
  has the key is that flag.
* `kept_tidy` and `kept_oneFlagPerKey`: whatever is done to a store, no scope stands empty, and
  a key belongs to one flag in all scopes of a project.
* `lawful_run` puts these together with the validity of the entries and reads off the order in
  which scopes and flags are listed.
-/

namespace FeatureFlags

/-- Texts compare by their order. -/
theorem Text.compare_eq_lt_iff {a b : String} : compare a b = .lt ↔ a < b :=
  compareOfLessAndEq_eq_lt

/-- Scopes are ordered by project, then by environment. -/
theorem Scope.compare_eq_lt_iff {a b : Scope} : compare a b = .lt ↔
    a.project < b.project ∨ a.project = b.project ∧ a.environment < b.environment := by
  rw [compare_def, Ordering.then_eq_lt, Text.compare_eq_lt_iff, Text.compare_eq_lt_iff,
    Std.LawfulEqOrd.compare_eq_iff_eq]

namespace Store

variable {s : Store} {scope scope' : Scope} {e e' : Entry} {key : String}

/-- The flags of a scope that is there. -/
theorem flags_eq_of_get? {t : ScopeFlags} (h : s.scopes.get? scope = some t) :
    s.flags scope = t := by
  rw [flags, h]
  rfl

/-- The flags of a scope that is not there. -/
theorem flags_eq_empty_of_get? (h : s.scopes.get? scope = none) : s.flags scope = .empty := by
  rw [flags, h]
  rfl

/-- A key is free for a flag if no other flag of the project has it in any scope. -/
theorem hasConflict_eq_false_iff {project : String} {id : FlagId} :
    s.hasConflict project key id = false ↔
      ∀ scope e, scope.project = project → (s.flags scope).get? key = some e → e.flag.id = id := by
  rw [hasConflict, List.any_eq_false]
  constructor
  · intro hfree scope e hproject he
    cases hscope : s.scopes.get? scope with
    | none =>
      rw [flags_eq_empty_of_get? hscope, Table.get?_empty] at he
      cases he
    | some t =>
      rw [flags_eq_of_get? hscope] at he
      have hentry := hfree (scope, t) ((Table.mem_entries_iff _ _ _).2 hscope)
      simpa [hproject, he] using hentry
  · rintro hfree ⟨scope, t⟩ hmem hconflict
    have hscope : s.scopes.get? scope = some t := (Table.mem_entries_iff _ _ _).1 hmem
    rw [Bool.and_eq_true, beq_iff_eq, Option.any_eq_true] at hconflict
    obtain ⟨hproject, e, he, hid⟩ := hconflict
    have heq := hfree scope e hproject (by rw [flags_eq_of_get? hscope]; exact he)
    exact (bne_iff_ne.1 hid) heq

/-! ## No scope stands empty -/

/-- Whether every scope that is kept has flags. -/
def Tidy (s : Store) : Prop := ∀ scope, s.scopes.get? scope ≠ some .empty

theorem kept_tidy : Kept Tidy where
  empty _ h := nomatch h
  put s scope e _ _ hs scope' h := by
    rw [put, Table.get?_insert] at h
    split at h
    · have hkey : ((s.flags scope).insert e.key e).get? e.key = some e := Table.get?_insert_self ..
      rw [Option.some.inj h, Table.get?_empty] at hkey
      cases hkey
    · exact hs scope' h
  removeFlag s scope key hs scope' h := by
    rw [removeFlag] at h
    cases hscope : s.scopes.get? scope with
    | none =>
      rw [hscope] at h
      exact hs scope' h
    | some t =>
      rw [hscope] at h
      dsimp only at h
      split at h
      · exact hs scope' (Table.get?_erase_eq_some_iff.1 h).2
      · next hrest =>
        rcases Table.get?_insert_eq_some_iff.1 h with ⟨_, hempty⟩ | ⟨_, h⟩
        · exact hrest (Table.isEmpty_iff.2 hempty.symm)
        · exact hs scope' h
  removeScope s scope hs scope' h :=
    hs scope' (Table.get?_erase_eq_some_iff.1 h).2

/-- In a tidy store the flags of the scopes say which scopes there are. -/
theorem Tidy.get?_scopes (hs : s.Tidy) (scope : Scope) :
    s.scopes.get? scope = if (s.flags scope).isEmpty then none else some (s.flags scope) := by
  cases hscope : s.scopes.get? scope with
  | none =>
    rw [flags_eq_empty_of_get? hscope]
    rfl
  | some t =>
    rw [flags_eq_of_get? hscope, if_neg]
    intro hempty
    rw [Table.isEmpty_iff.1 hempty] at hscope
    exact hs scope hscope

theorem Tidy.mem_listScopes_iff (hs : s.Tidy) : scope ∈ s.listScopes ↔ s.load scope ≠ [] := by
  have hload : (s.flags scope).isEmpty = true ↔ s.load scope = [] := by
    rw [load, Table.values, List.map_eq_nil_iff, Table.isEmpty, List.isEmpty_iff]
  rw [listScopes, Table.mem_keys_iff, hs.get?_scopes, ne_eq, ← hload]
  split
  · next h => simp [h]
  · next h => simp [h]

/-! ## A key belongs to one flag -/

/-- Whether flags of one project with one key are one flag. -/
def OneFlagPerKey (s : Store) : Prop :=
  ∀ scope scope' key e e', scope.project = scope'.project →
    (s.flags scope).get? key = some e → (s.flags scope').get? key = some e' →
      e.flag.id = e'.flag.id

/-- What has no other flags than before still has one flag for a key. -/
theorem OneFlagPerKey.mono {s' : Store} (hs : s.OneFlagPerKey)
    (hsub : ∀ scope key e, (s'.flags scope).get? key = some e →
      (s.flags scope).get? key = some e) : s'.OneFlagPerKey :=
  fun scope scope' key e e' hproject he he' =>
    hs scope scope' key e e' hproject (hsub scope key e he) (hsub scope' key e' he')

theorem kept_oneFlagPerKey : Kept OneFlagPerKey where
  empty scope _ key e _ _ he _ := by
    rw [flags_empty, Table.get?_empty] at he
    cases he
  put s scope e _ hfree hs := by
    rw [hasConflict_eq_false_iff] at hfree
    -- A flag that was there before is compared with the new one by the check for conflicts.
    intro scope₁ scope₂ key e₁ e₂ hproject h₁ h₂
    rw [get?_flags_put] at h₁ h₂
    split at h₁
    · next hnew₁ =>
      obtain rfl := Option.some.inj h₁
      split at h₂
      · exact congrArg (·.flag.id) (Option.some.inj h₂)
      · rw [hnew₁.2] at h₂
        exact (hfree scope₂ e₂ (hproject ▸ hnew₁.1 ▸ rfl) h₂).symm
    · split at h₂
      · next hnew₂ =>
        obtain rfl := Option.some.inj h₂
        rw [hnew₂.2] at h₁
        exact hfree scope₁ e₁ (hproject.trans (hnew₂.1 ▸ rfl)) h₁
      · exact hs scope₁ scope₂ key e₁ e₂ hproject h₁ h₂
  removeFlag s scope key hs := by
    refine hs.mono fun scope' key' e' he => ?_
    rw [flags_removeFlag] at he
    split at he
    · next h => exact h ▸ (Table.get?_erase_eq_some_iff.1 he).2
    · exact he
  removeScope s scope hs := by
    refine hs.mono fun scope' key' e' he => ?_
    rw [flags_removeScope] at he
    split at he
    · rw [Table.get?_empty] at he
      cases he
    · exact he

/-! ## The order of what is listed -/

theorem pairwise_listScopes (s : Store) : s.listScopes.Pairwise fun a b =>
    a.project < b.project ∨ a.project = b.project ∧ a.environment < b.environment := by
  rw [listScopes, Table.keys, List.pairwise_map]
  exact s.scopes.ordered.imp Scope.compare_eq_lt_iff.1

/-- Entries that stand under their own keys are listed in the order of these. -/
theorem Sound.pairwise_load (hs : s.Sound) (scope : Scope) :
    (s.load scope).Pairwise fun a b => a.key < b.key := by
  have hkeys : (s.load scope).map Entry.key = (s.flags scope).keys.map id :=
    Table.map_values _ fun key e he => (hs scope key e he).1
  have hordered : (s.flags scope).keys.Pairwise (· < ·) := by
    rw [Table.keys, List.pairwise_map]
    exact (s.flags scope).ordered.imp Text.compare_eq_lt_iff.1
  rw [List.map_id] at hkeys
  rwa [← hkeys, List.pairwise_map] at hordered

theorem Sound.mem_load_iff (hs : s.Sound) :
    e ∈ s.load scope ↔ (s.flags scope).get? e.key = some e := by
  rw [load, Table.mem_values_iff]
  constructor
  · rintro ⟨key, he⟩
    rwa [(hs scope key e he).1]
  · intro he
    exact ⟨e.key, he⟩

/-! ## Main result -/

/-- What actions leave, one after the other. -/
def run (s : Store) (actions : List Action) : Store := actions.foldl step s

theorem Kept.run {P : Store → Prop} (hk : Kept P) (hp : P s) (actions : List Action) :
    P (s.run actions) := by
  induction actions generalizing s with
  | nil => exact hp
  | cons a rest ih => exact ih (hk.step hp a)

/-- What a store is like. -/
structure Lawful (s : Store) : Prop where
  /-- An entry stands under the key of its flag, which is a flag key. -/
  key : ∀ scope key e, (s.flags scope).get? key = some e →
    e.flag.key = key ∧ FlagKey.isValid key = true
  /-- The configuration of an entry passes the checks for its flag. -/
  valid : ∀ scope key e, (s.flags scope).get? key = some e → e.config.validate e.flag = .ok ()
  /-- Entries with one key in scopes of one project are of one flag. -/
  unique : ∀ scope scope' key e e', scope.project = scope'.project →
    (s.flags scope).get? key = some e → (s.flags scope').get? key = some e' →
      e.flag.id = e'.flag.id
  /-- No scope is kept without flags. -/
  nonempty : ∀ scope flags, s.scopes.get? scope = some flags → flags.isEmpty = false
  /-- The scopes are listed by project, then by environment, each once. -/
  scopes_increasing : s.listScopes.Pairwise fun a b =>
    a.project < b.project ∨ a.project = b.project ∧ a.environment < b.environment
  /-- They are those from which flags are read. -/
  mem_scopes : ∀ scope, scope ∈ s.listScopes ↔ s.load scope ≠ []
  /-- The flags of a scope are read in the order of their keys, each key once. -/
  load_increasing : ∀ scope, (s.load scope).Pairwise fun a b => a.flag.key < b.flag.key
  /-- They are those that stand in the scope. -/
  mem_load : ∀ scope e, e ∈ s.load scope ↔ (s.flags scope).get? e.flag.key = some e

/-- Whatever is done to a store that was empty at first or made from a snapshot, and whether it
was refused or not, the store is lawful. -/
theorem lawful_run (actions : List Action) : (empty.run actions).Lawful := by
  have hsound : (empty.run actions).Sound := kept_sound.run kept_sound.empty actions
  have htidy : (empty.run actions).Tidy := kept_tidy.run kept_tidy.empty actions
  have hunique : (empty.run actions).OneFlagPerKey :=
    kept_oneFlagPerKey.run kept_oneFlagPerKey.empty actions
  exact {
    key := fun scope key e he => by
      obtain ⟨rfl, hvalid⟩ := hsound scope key e he
      exact ⟨rfl, hvalid.key⟩
    valid := fun scope key e he =>
      Configuration.validate_eq_ok_iff.2 (hsound scope key e he).2.fits
    unique := hunique
    nonempty := fun scope flags hflags => by
      rw [← Bool.not_eq_true, Table.isEmpty_iff]
      rintro rfl
      exact htidy scope hflags
    scopes_increasing := pairwise_listScopes _
    mem_scopes := fun _ => htidy.mem_listScopes_iff
    load_increasing := hsound.pairwise_load
    mem_load := fun _ _ => hsound.mem_load_iff }

end Store

end FeatureFlags
