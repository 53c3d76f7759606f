import FeatureFlags.Proofs.Cache.Failure
import FeatureFlags.Proofs.Store.Invariant

/-!
# Loading all scopes

`Cache.loadAll` reads the scopes of a store one after the other, and stops at the first that cannot
be read.

* `Source.firstFailing` says which of some scopes is the first that fails.
* `Loads` is what a row of refreshes does: some scopes are loaded, and all others are as they were.
  `Reachable.loads_refresh_of_ok` and `Reachable.loads_refresh_of_error` are about one refresh, and
  `Reachable.loads_refreshEach` is about all of them up to the first that fails.

`loadAll_stops_at_failure` says what this comes to when a store is loaded.
-/

namespace FeatureFlags

/-- Flags that stand under their own keys are served as they stand. -/
theorem flagsOf_values {flags : ScopeFlags}
    (h : ∀ key e, flags.get? key = some e → e.key = key) : flagsOf flags.values = flags := by
  have hentries : flags.values.map (fun e => (e.key, e)) = flags.entries :=
    (map_values_of_keys h id).trans (List.map_id _)
  rw [flagsOf, hentries]
  exact Table.ofList_of_perm (.refl _)

/-! ## The first scope that fails -/

namespace Source

variable {source : Source} {scope : Scope} {scopes : List Scope}

/-- The place of the first scope that cannot be read; the length if all of them can. -/
def firstFailing (source : Source) (scopes : List Scope) : Nat :=
  scopes.findIdx fun scope => !(source.load scope).isOk

theorem firstFailing_cons_of_ok {entries : List Entry} (h : source.load scope = .ok entries)
    (rest : List Scope) :
    source.firstFailing (scope :: rest) = source.firstFailing rest + 1 := by
  simp [firstFailing, List.findIdx_cons, h, Except.isOk, Except.toBool]

theorem firstFailing_cons_of_error {e : ReadError} (h : source.load scope = .error e)
    (rest : List Scope) : source.firstFailing (scope :: rest) = 0 := by
  simp [firstFailing, List.findIdx_cons, h, Except.isOk, Except.toBool]

theorem firstFailing_eq_length (h : ∀ scope ∈ scopes, ∃ entries, source.load scope = .ok entries) :
    source.firstFailing scopes = scopes.length := by
  apply List.findIdx_eq_length_of_false
  intro scope hscope
  obtain ⟨entries, hload⟩ := h scope hscope
  rw [hload]
  rfl

/-- The first scope that cannot be read has an error. -/
theorem exists_error_of_firstFailing (h : scopes[source.firstFailing scopes]? = some scope) :
    ∃ e, source.load scope = .error e := by
  obtain ⟨hlt, hscope⟩ := List.getElem?_eq_some_iff.1 h
  have hfails : (!(source.load scopes[source.firstFailing scopes]).isOk) = true :=
    List.findIdx_getElem (p := fun scope => !(source.load scope).isOk) (w := hlt)
  rw [hscope] at hfails
  cases hload : source.load scope with
  | error e => exact ⟨e, rfl⟩
  | ok entries =>
    rw [hload] at hfails
    cases hfails

end Source

namespace Cache

variable {c d : Cache} {source : Source} {scope : Scope} {now : Timestamp}
  {held : Scope → ScopeFlags}

/-! ## Scopes that are loaded -/

/-- Whether a scope is registered and has been loaded with some flags at an instant. -/
structure LoadedWith (c : Cache) (scope : Scope) (held : ScopeFlags) (now : Timestamp) : Prop where
  flags : c.flags scope = held
  stats? : ∃ generation, c.stats? scope = some ⟨held.size, now, generation⟩

/-- What shows the same has been loaded with the same. -/
theorem LoadedWith.of_sameScope {held : ScopeFlags} (h : c.LoadedWith scope held now)
    (hsame : SameScope d c scope) : d.LoadedWith scope held now where
  flags := by rw [hsame.flags, h.flags]
  stats? := by
    rw [hsame.stats?]
    exact h.stats?

/-- What it is to load some scopes, each with the flags that are held for it: nothing else
changes. -/
structure Loads (c d : Cache) (scopes : List Scope) (held : Scope → ScopeFlags)
    (now : Timestamp) : Prop where
  loaded : ∀ scope ∈ scopes, d.LoadedWith scope (held scope) now
  others : ∀ scope, scope ∉ scopes → SameScope d c scope
  initialized : d.initialized = c.initialized

theorem Loads.refl (c : Cache) (held : Scope → ScopeFlags) (now : Timestamp) :
    Loads c c [] held now where
  loaded _ hscope := absurd hscope List.not_mem_nil
  others scope _ := .refl c scope
  initialized := rfl

/-- One row of scopes is loaded after another.  A scope may be loaded twice, since the same flags
are held for it. -/
theorem Loads.trans {e : Cache} {first rest : List Scope} (h : Loads c d first held now)
    (h' : Loads d e rest held now) : Loads c e (first ++ rest) held now where
  loaded scope hscope := by
    by_cases hrest : scope ∈ rest
    · exact h'.loaded scope hrest
    · have hfirst := (List.mem_append.1 hscope).resolve_right hrest
      exact (h.loaded scope hfirst).of_sameScope (h'.others scope hrest)
  others scope hscope := by
    rw [List.mem_append, not_or] at hscope
    exact (h'.others scope hscope.2).trans (h.others scope hscope.1)
  initialized := h'.initialized.trans h.initialized

/-! ## One refresh -/

@[simp] theorem initialized_refresh (c : Cache) (source : Source) (scope : Scope)
    (now : Timestamp) : (c.refresh source scope now).2.initialized = c.initialized := by
  rw [refresh]
  cases source.load scope with
  | ok entries => exact (initialized_conclude ..).trans (initialized_begin ..)
  | error e => exact (initialized_conclude ..).trans (initialized_begin ..)

/-- A refresh that finds something loads its scope. -/
theorem Reachable.loads_refresh_of_ok (hc : c.Reachable) {entries : List Entry}
    (hload : source.load scope = .ok entries) (hheld : flagsOf entries = held scope)
    (now : Timestamp) : Loads c (c.refresh source scope now).2 [scope] held now := by
  obtain ⟨s, hb⟩ := hc.exists_begun scope now
  have hslot : ∀ scope', (c.refresh source scope now).2.slots.get? scope' =
      if scope' = scope then
        some { s.beginRead with
          generation := s.latest + 1, flags := held scope, loadedAt := now }.release
      else c.slots.get? scope' := by
    intro scope'
    simp only [Cache.refresh, hload, hb.get?_conclude, Slot.endRead?, hb.install_beginRead, hheld]
  constructor
  case loaded =>
    intro scope' hscope'
    have hself := hslot scope'
    rw [List.mem_singleton.1 hscope'] at hself ⊢
    rw [if_pos rfl] at hself
    exact ⟨flags_of_registered hself, s.latest + 1, stats?_eq_some_iff.2 ⟨_, hself, rfl⟩⟩
  case others =>
    intro scope' hscope'
    apply sameScope_of_get?
    rw [hslot, if_neg (List.mem_singleton.not.1 hscope')]
  case initialized => exact initialized_refresh c source scope now

/-- A refresh that fails loads nothing. -/
theorem Reachable.loads_refresh_of_error (hc : c.Reachable) {e : ReadError}
    (hload : source.load scope = .error e) (held : Scope → ScopeFlags) (now : Timestamp) :
    Loads c (c.refresh source scope now).2 [] held now where
  loaded _ hscope := absurd hscope List.not_mem_nil
  others scope' _ := by
    rw [refresh_of_error hload]
    exact hc.sameScope_fail scope scope' now now
  initialized := initialized_refresh c source scope now

/-! ## All refreshes -/

theorem refreshEach_cons_of_ok {entries : List Entry} (hload : source.load scope = .ok entries)
    (c : Cache) (now : Timestamp) (rest : List Scope) :
    c.refreshEach source now (scope :: rest) =
      (c.refresh source scope now).2.refreshEach source now rest := by
  simp only [refreshEach, refresh, hload]

theorem refreshEach_cons_of_error {e : ReadError} (hload : source.load scope = .error e)
    (c : Cache) (now : Timestamp) (rest : List Scope) :
    c.refreshEach source now (scope :: rest) = (.error e, (c.refresh source scope now).2) := by
  simp only [refreshEach, refresh, hload]

/-- A row of refreshes loads all scopes before the first that fails. -/
theorem Reachable.loads_refreshEach (hc : c.Reachable)
    (hheld : ∀ scope entries, source.load scope = .ok entries → flagsOf entries = held scope)
    (now : Timestamp) (scopes : List Scope) :
    Loads c (c.refreshEach source now scopes).2 (scopes.take (source.firstFailing scopes)) held
      now := by
  induction scopes generalizing c with
  | nil => exact .refl c held now
  | cons scope rest ih =>
    cases hload : source.load scope with
    | ok entries =>
      rw [refreshEach_cons_of_ok hload, Source.firstFailing_cons_of_ok hload, List.take_succ_cons]
      have hfirst := hc.loads_refresh_of_ok hload (hheld scope entries hload) now
      exact hfirst.trans (ih (hc.refresh source scope now))
    | error e =>
      rw [refreshEach_cons_of_error hload, Source.firstFailing_cons_of_error hload, List.take_zero]
      exact hc.loads_refresh_of_error hload held now

/-- It fails with the error of this scope, and succeeds if there is none. -/
theorem fst_refreshEach (c : Cache) (source : Source) (now : Timestamp) (scopes : List Scope) :
    (c.refreshEach source now scopes).1 =
      match scopes[source.firstFailing scopes]? with
      | some scope => (source.load scope).map fun _ => ()
      | none => .ok () := by
  induction scopes generalizing c with
  | nil => rfl
  | cons scope rest ih =>
    cases hload : source.load scope with
    | ok entries =>
      rw [refreshEach_cons_of_ok hload, ih, Source.firstFailing_cons_of_ok hload,
        List.getElem?_cons_succ]
    | error e =>
      rw [refreshEach_cons_of_error hload, Source.firstFailing_cons_of_error hload,
        List.getElem?_cons_zero]
      simp only [hload]
      rfl

/-- The cache counts as initialized from then on, unless a refresh has failed. -/
theorem loadAll_eq {scopes : List Scope} {result : Except ReadError Unit}
    (hlist : source.listScopes = .ok scopes)
    (h : c.refreshEach source now scopes = (result, d)) :
    c.loadAll source now = (result, { d with initialized := result.isOk || d.initialized }) := by
  simp only [loadAll, hlist, h]
  cases result with
  | ok u => rfl
  | error e => rfl

/-! ## Main result -/

/-- Whatever a cache has gone through, whatever a store has and whichever reads from it fail, all
scopes of the store are loaded in their order up to the first that fails.  Those before it are
registered and served as the store has them.  That one and those after it, and all scopes that the
store does not have, keep their registrations, their flags and their statistics.  The error is that
of the scope that fails, and the cache counts as initialized if there is none and as before
otherwise.  If the scopes cannot be listed, nothing changes at all. -/
theorem loadAll_stops_at_failure (c : Cache) (hc : c.Reachable) (actions : List Store.Action)
    (source : Source) (hsource : source.ReadsFrom (Store.empty.run actions)) (now : Timestamp) :
    let store := Store.empty.run actions
    let scopes := store.listScopes
    let place := source.firstFailing scopes
    let result := c.loadAll source now
    (∀ e, source.listScopes = .error e → result = (.error e, c)) ∧
    ((∃ listed, source.listScopes = .ok listed) →
      (∀ scope ∈ scopes.take place, result.2.LoadedWith scope (store.flags scope) now) ∧
      (∀ scope ∈ scopes.drop place, SameScope result.2 c scope) ∧
      (∀ scope, scope ∉ scopes → SameScope result.2 c scope) ∧
      (∀ scope, scopes[place]? = some scope →
        (∃ e, source.load scope = .error e ∧ result.1 = .error e) ∧
        result.2.initialized = c.initialized) ∧
      (scopes[place]? = none → result.1 = .ok () ∧ result.2.initialized = true)) := by
  intro store scopes place result
  have hsound : store.Sound := Store.kept_sound.run Store.kept_sound.empty actions
  have hheld : ∀ scope entries, source.load scope = .ok entries →
      flagsOf entries = store.flags scope := by
    intro scope entries hload
    rw [hsource.load scope entries hload]
    exact flagsOf_values fun key e he => (hsound scope key e he).1
  refine ⟨fun e hlist => ?_, fun ⟨listed, hlist⟩ => ?_⟩
  · simp only [result, loadAll, hlist]
  · have hscopes : source.listScopes = .ok scopes := by rw [hlist, hsource.listScopes listed hlist]
    have hloads := hc.loads_refreshEach hheld now scopes
    have hfirst := fst_refreshEach c source now scopes
    cases hrefresh : c.refreshEach source now scopes with
    | mk outcome d =>
      rw [hrefresh] at hloads hfirst
      have hresult : result =
          (outcome, { d with initialized := outcome.isOk || d.initialized }) :=
        loadAll_eq hscopes hrefresh
      have hsame : ∀ scope, SameScope result.2 d scope := by
        intro scope
        rw [hresult]
        exact sameScope_of_get? rfl
      refine ⟨?loaded, ?later, ?unknown, ?failed, ?all⟩
      case loaded =>
        intro scope hscope
        exact (hloads.loaded scope hscope).of_sameScope (hsame scope)
      case later =>
        intro scope hscope
        have hapart : List.Disjoint (scopes.take place) (scopes.drop place) :=
          List.disjoint_take_drop store.scopes.nodup_keys (Nat.le_refl place)
        exact (hsame scope).trans (hloads.others scope fun hearlier => hapart hearlier hscope)
      case unknown =>
        intro scope hscope
        exact (hsame scope).trans (hloads.others scope fun h => hscope (List.mem_of_mem_take h))
      case failed =>
        intro scope hscope
        obtain ⟨e, hload⟩ := Source.exists_error_of_firstFailing hscope
        have houtcome : outcome = .error e := by
          rw [hscope] at hfirst
          dsimp only at hfirst
          rw [hfirst, hload]
          rfl
        rw [hresult, houtcome]
        exact ⟨⟨e, hload, rfl⟩, hloads.initialized⟩
      case all =>
        intro hnone
        have houtcome : outcome = .ok () := by
          rw [hnone] at hfirst
          exact hfirst
        rw [hresult, houtcome]
        exact ⟨rfl, rfl⟩

/-- A flag that every store takes in. -/
def banner : Entry := ⟨{ (default : Flag) with key := "banner", valueType := .json }, default⟩

/-- A store with three scopes. -/
def threeScopes : List Store.Action :=
  [.upsert ⟨"blog", "live"⟩ banner, .upsert ⟨"shop", "live"⟩ banner,
    .upsert ⟨"shop", "test"⟩ banner]

/-- Reads from this store when the second scope is gone. -/
def secondGone : Source :=
  (Store.empty.run threeScopes).source.failing false [⟨"shop", "live"⟩] "gone"

/-- A cache that has loaded this scope before. -/
def secondLoaded : Cache :=
  (History.start.run [.begin ⟨"shop", "live"⟩ [banner] default, .finish 0 .loaded default]).cache

theorem loadAll_stops_at_failure_secondOfThree :
    secondLoaded.Reachable ∧ secondGone.ReadsFrom (Store.empty.run threeScopes) ∧
    (secondLoaded.loadAll secondGone default).1 = .error ⟨"shop:live", "gone"⟩ ∧
    (secondLoaded.loadAll secondGone default).2.flags ⟨"blog", "live"⟩ = flagsOf [banner] ∧
    (secondLoaded.loadAll secondGone default).2.stats? ⟨"shop", "live"⟩ = some ⟨1, default, 1⟩ ∧
    (secondLoaded.loadAll secondGone default).2.stats? ⟨"shop", "test"⟩ = none := by
  have hc : secondLoaded.Reachable := ⟨_, rfl⟩
  have hsource : secondGone.ReadsFrom (Store.empty.run threeScopes) :=
    Source.readsFrom_failing _ false _ "gone"
  obtain ⟨-, hlisted⟩ :=
    loadAll_stops_at_failure secondLoaded hc threeScopes secondGone hsource default
  obtain ⟨hloaded, hlater, -, hfailed, -⟩ := hlisted ⟨_, rfl⟩
  refine ⟨hc, hsource, ?_, ?_, ?_, ?_⟩
  · obtain ⟨⟨e, hload, hresult⟩, -⟩ := hfailed ⟨"shop", "live"⟩ (by rfl)
    rw [hresult, ← Except.error.inj hload]
    rfl
  · rw [(hloaded ⟨"blog", "live"⟩ (by decide)).flags]
    rfl
  · rw [(hlater ⟨"shop", "live"⟩ (by decide)).stats?]
    rfl
  · rw [(hlater ⟨"shop", "test"⟩ (by decide)).stats?]
    rfl

end Cache

end FeatureFlags
