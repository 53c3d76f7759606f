import FeatureFlags.Proofs.Store.Invariant

/-!
# Projects in one store

One store has the flags of all projects, and a flag that is put in is compared with all flags that
are there.  Still no project notices what is done in the others.

* `get?_step_of_ne`: a call leaves every scope but its own as it is.
* `AgreeOn.answer` and `AgreeOn.step`: of the store, a call reads only what stands in its project.
  Two stores that agree on the project of a call answer it alike and still agree afterwards.
* `AgreeOn.answers_filter` and `AgreeOn.after_filter` follow two runs, one with the calls of all
  projects and one with those of a single project.
* `AgreeOn.load` and `AgreeOn.listScopes`: what can be read of a project is the same in stores that
  agree on it.

`isolated_calls` puts these together.
-/

namespace FeatureFlags.Store

/-! ## Calls and their answers -/

/-- A call that may change a store. -/
inductive Call where
  | upsert (scope : Scope) (e : Entry)
  | removeFlag (scope : Scope) (key : String)
  | removeScope (scope : Scope)

namespace Call

/-- The scope that a call is about. -/
def scope : Call → Scope
  | .upsert scope _ => scope
  | .removeFlag scope _ => scope
  | .removeScope scope => scope

/-- The project that a call is about. -/
def project (c : Call) : String := c.scope.project

/-- What a call does to the store. -/
def action : Call → Action
  | .upsert scope e => .upsert scope e
  | .removeFlag scope key => .removeFlag scope key
  | .removeScope scope => .removeScope scope

end Call

/-- What a call returns. -/
inductive Answer where
  /-- Whether the flag got in, and if not, why. -/
  | upserted (result : Except FlagError Unit)
  /-- Whether there was something to remove. -/
  | removed (found : Bool)

/-- The answer of a store to a call. -/
def answer (s : Store) : Call → Answer
  | .upsert scope e => .upserted ((s.upsert scope e).map fun _ => ())
  | .removeFlag scope key => .removed (s.removeFlag scope key).1
  | .removeScope scope => .removed (s.removeScope scope).1

/-- The answers to calls that are made one after the other, each with its call. -/
def answers (s : Store) : List Call → List (Call × Answer)
  | [] => []
  | c :: rest => (c, s.answer c) :: (s.step c.action).answers rest

/-- The store after calls that are made one after the other. -/
def after (s : Store) (calls : List Call) : Store := s.run (calls.map Call.action)

variable {s s' : Store} {project : String} {scope : Scope} {c : Call}

theorem after_cons (s : Store) (c : Call) (rest : List Call) :
    s.after (c :: rest) = (s.step c.action).after rest := rfl

/-! ## What a call changes -/

/-- Whether a store takes a flag in, and if not, why. -/
def verdict (s : Store) (scope : Scope) (e : Entry) : Except FlagError Unit :=
  if !FlagKey.isValid e.key then .error (.invalidFlagKey e.key)
  else do
    e.config.validate e.flag
    if s.hasConflict scope.project e.key e.flag.id then .error (.duplicateFlagKey e.key) else .ok ()

/-- A flag is put in if the store takes it, and nothing happens otherwise. -/
theorem upsert_eq (s : Store) (scope : Scope) (e : Entry) :
    s.upsert scope e = (s.verdict scope e).map fun _ => s.put scope e := by
  unfold upsert verdict
  split
  · rfl
  · cases e.config.validate e.flag with
    | error error => rfl
    | ok u =>
      show (if _ then _ else _) = Except.map _ (if _ then _ else _)
      split
      · rfl
      · rfl

/-- What the removal of a flag leaves of its scope. -/
theorem get?_scopes_removeFlag (s : Store) (scope : Scope) (key : String) :
    (s.removeFlag scope key).2.scopes.get? scope =
      (s.scopes.get? scope).bind fun flags =>
        if (flags.erase key).isEmpty then none else some (flags.erase key) := by
  unfold removeFlag
  cases hscope : s.scopes.get? scope with
  | none => exact hscope
  | some flags =>
    simp only [Option.bind_some]
    split
    · exact Table.get?_erase_self ..
    · exact Table.get?_insert_self ..

/-- A call leaves every scope but its own as it is. -/
theorem get?_step_of_ne (h : scope ≠ c.scope) :
    (s.step c.action).scopes.get? scope = s.scopes.get? scope := by
  cases c with
  | upsert own e =>
    simp only [Call.action, step, upsert_eq]
    cases s.verdict own e with
    | error error => rfl
    | ok u => exact Table.get?_insert_of_ne _ h _
  | removeFlag own key =>
    simp only [Call.action, step, removeFlag]
    split
    · rfl
    · simp only
      split
      · exact Table.get?_erase_of_ne _ h
      · exact Table.get?_insert_of_ne _ h _
  | removeScope own => exact Table.get?_erase_of_ne _ h

/-- The scopes of a project, as a part of the table of all scopes. -/
theorem filter_listScopes (s : Store) (project : String) :
    (s.listScopes.filter fun scope => scope.project = project) =
      (s.scopes.filter fun scope _ => scope.project = project).keys := by
  unfold listScopes Table.keys Table.filter
  rw [List.filter_map]
  rfl

/-! ## Stores that agree on a project -/

/-- Whether two stores have the same scopes of a project with the same flags. -/
def AgreeOn (project : String) (s s' : Store) : Prop :=
  ∀ scope, scope.project = project → s.scopes.get? scope = s'.scopes.get? scope

namespace AgreeOn

theorem refl (project : String) (s : Store) : AgreeOn project s s := fun _ _ => rfl

theorem flags (h : AgreeOn project s s') (hscope : scope.project = project) :
    s.flags scope = s'.flags scope := by
  unfold Store.flags
  rw [h scope hscope]

/-- A flag is compared with the flags of its project only. -/
theorem hasConflict (h : AgreeOn project s s') (key : String) (id : FlagId) :
    s.hasConflict project key id = s'.hasConflict project key id := by
  have hfree : s.hasConflict project key id = false ↔ s'.hasConflict project key id = false := by
    rw [hasConflict_eq_false_iff, hasConflict_eq_false_iff]
    constructor
    · intro hs scope e hscope he
      exact hs scope e hscope (by rw [h.flags hscope]; exact he)
    · intro hs scope e hscope he
      exact hs scope e hscope (by rw [← h.flags hscope]; exact he)
  rw [Bool.eq_iff_iff, ← not_iff_not, Bool.not_eq_true, Bool.not_eq_true]
  exact hfree

theorem verdict (h : AgreeOn project s s') (hscope : scope.project = project) (e : Entry) :
    s.verdict scope e = s'.verdict scope e := by
  unfold Store.verdict
  rw [hscope, h.hasConflict]

/-- Stores that agree on the project of a call answer it alike. -/
theorem answer (h : AgreeOn project s s') (hc : c.project = project) :
    s.answer c = s'.answer c := by
  cases c with
  | upsert own e =>
    have hown : own.project = project := hc
    simp only [Store.answer, upsert_eq]
    rw [h.verdict hown]
    cases s'.verdict own e with
    | error error => rfl
    | ok u => rfl
  | removeFlag own key =>
    simp only [Store.answer, removeFlag]
    rw [h own hc]
    cases s'.scopes.get? own with
    | none => rfl
    | some flags => rfl
  | removeScope own =>
    simp only [Store.answer, removeScope, Table.contains]
    rw [h own hc]

/-- They have the same in the scope of the call afterwards. -/
theorem get?_step (h : AgreeOn project s s') (hc : c.project = project) :
    (s.step c.action).scopes.get? c.scope = (s'.step c.action).scopes.get? c.scope := by
  cases c with
  | upsert own e =>
    have hown : own.project = project := hc
    simp only [Call.action, Store.step, Call.scope, upsert_eq]
    rw [h.verdict hown]
    cases s'.verdict own e with
    | error error => exact h own hown
    | ok u =>
      show (s.put own e).scopes.get? own = (s'.put own e).scopes.get? own
      unfold put
      rw [Table.get?_insert_self, Table.get?_insert_self, h.flags hown]
  | removeFlag own key =>
    simp only [Call.action, Store.step, Call.scope, get?_scopes_removeFlag]
    rw [h own hc]
  | removeScope own =>
    simp only [Call.action, Store.step, Call.scope, removeScope, Table.get?_erase_self]

/-- So they still agree on the project. -/
theorem step (h : AgreeOn project s s') (hc : c.project = project) :
    AgreeOn project (s.step c.action) (s'.step c.action) := by
  intro scope hscope
  by_cases hown : scope = c.scope
  · rw [hown]
    exact h.get?_step hc
  · rw [get?_step_of_ne hown, get?_step_of_ne hown]
    exact h scope hscope

/-- A call in another project does not matter to the agreement. -/
theorem step_other (h : AgreeOn project s s') (hc : c.project ≠ project) :
    AgreeOn project (s.step c.action) s' := by
  intro scope hscope
  have hother : scope ≠ c.scope := by
    intro hsame
    apply hc
    rw [← hscope, hsame]
    rfl
  rw [get?_step_of_ne hother]
  exact h scope hscope

/-! ## Two runs -/

/-- The calls of one project are answered as if there were no others. -/
theorem answers_filter (calls : List Call) (h : AgreeOn project s s') :
    ((s.answers calls).filter fun x => x.1.project = project) =
      s'.answers (calls.filter fun c => c.project = project) := by
  induction calls generalizing s s' with
  | nil => rfl
  | cons c rest ih =>
    rw [answers]
    by_cases hc : c.project = project
    · rw [List.filter_cons_of_pos (by simpa using hc), List.filter_cons_of_pos (by simpa using hc),
        answers, h.answer hc, ih (h.step hc)]
    · rw [List.filter_cons_of_neg (by simpa using hc), List.filter_cons_of_neg (by simpa using hc),
        ih (h.step_other hc)]

/-- They leave the project as if there were no others. -/
theorem after_filter (calls : List Call) (h : AgreeOn project s s') :
    AgreeOn project (s.after calls) (s'.after (calls.filter fun c => c.project = project)) := by
  induction calls generalizing s s' with
  | nil => exact h
  | cons c rest ih =>
    rw [after_cons]
    by_cases hc : c.project = project
    · rw [List.filter_cons_of_pos (by simpa using hc), after_cons]
      exact ih (h.step hc)
    · rw [List.filter_cons_of_neg (by simpa using hc)]
      exact ih (h.step_other hc)

/-! ## What can be read of a project -/

theorem load (h : AgreeOn project s s') (hscope : scope.project = project) :
    s.load scope = s'.load scope := by
  unfold Store.load
  rw [h.flags hscope]

theorem listScopes (h : AgreeOn project s s') :
    (s.listScopes.filter fun scope => scope.project = project) =
      s'.listScopes.filter fun scope => scope.project = project := by
  have hpart : (s.scopes.filter fun scope _ => scope.project = project) =
      s'.scopes.filter fun scope _ => scope.project = project := by
    apply Table.ext_get?
    intro scope
    rw [Table.get?_filter, Table.get?_filter]
    by_cases hscope : scope.project = project
    · rw [h scope hscope]
    · simp [hscope]
  rw [filter_listScopes, filter_listScopes, hpart]

end AgreeOn

/-! ## Main result -/

/-- If all calls on other projects are left out of a row of calls, the calls on a project are
answered as before, and the same flags are read from its scopes afterwards, of which the same are
listed. -/
theorem isolated_calls (s : Store) (project : String) (calls : List Call) :
    ((s.answers calls).filter fun x => x.1.project = project) =
      s.answers (calls.filter fun c => c.project = project) ∧
    (∀ environment, (s.after calls).load ⟨project, environment⟩ =
      (s.after (calls.filter fun c => c.project = project)).load ⟨project, environment⟩) ∧
    ((s.after calls).listScopes.filter fun scope => scope.project = project) =
      (s.after (calls.filter fun c => c.project = project)).listScopes.filter
        fun scope => scope.project = project := by
  have hsame : AgreeOn project s s := .refl project s
  have hagree := hsame.after_filter calls
  exact ⟨hsame.answers_filter calls, fun _ => hagree.load rfl, hagree.listScopes⟩

/-- A flag with the key `dark-mode`. -/
def darkModeOf (id : FlagId) : Entry where
  flag := { (default : Flag) with id, key := "dark-mode", valueType := .json }
  config := { (default : Configuration) with flagId := id }

/-- A key is taken in its own project only. -/
example :
    (empty.answers [.upsert ⟨"shop", "live"⟩ (darkModeOf ⟨⟨1, by decide⟩⟩),
      .upsert ⟨"blog", "live"⟩ (darkModeOf ⟨⟨2, by decide⟩⟩),
      .upsert ⟨"shop", "test"⟩ (darkModeOf ⟨⟨2, by decide⟩⟩)]).map (·.2) =
    [.upserted (.ok ()), .upserted (.ok ()),
      .upserted (.error (.duplicateFlagKey "dark-mode"))] := by rfl

end FeatureFlags.Store
