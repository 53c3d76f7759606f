import FeatureFlags.Daemon
import FeatureFlags.Proofs.Cache.Loading
import FeatureFlags.Proofs.Config.Layering
import FeatureFlags.Proofs.Json.Wire
import FeatureFlags.Proofs.Publication
import FeatureFlags.Proofs.Service.Limits
import FeatureFlags.Proofs.Store.Snapshot
import FeatureFlags.Proofs.Table

/-!
# Checking first and serving then

`Daemon.check` makes the store of the server and stops there, and `Daemon.start` goes on and loads
the cache from it.  If the queue for evaluations can be made, nothing more can go wrong.

* `Cache.loadAll_source`: reads from a store do not fail, so that all of its scopes are refreshed.
  `Cache.flags_ofStore` and `Cache.scopeCount_ofStore` say what a cache has then.
* `Daemon.result_check` and `Daemon.result_start` say what a check and a server come to, from what
  becomes of the store.
* `Daemon.check_agrees_start`: so a server starts exactly if the check succeeds, and serves the last
  entries of the snapshot.
* `Daemon.reachable_of_start`: its cache is one that a run leaves.
-/

namespace FeatureFlags

variable {scope : Scope} {now : Timestamp} {store : Store}

/-! ## Loading a cache -/

namespace Cache

variable {c : Cache} {source : Source} {scopes : List Scope}

/-- If no read fails, all of the scopes are refreshed. -/
theorem refreshEach_of_ok (h : ∀ scope ∈ scopes, ∃ entries, source.load scope = .ok entries) :
    c.refreshEach source now scopes = (.ok (), c.refreshAll source now scopes) := by
  induction scopes generalizing c with
  | nil => rfl
  | cons scope rest ih =>
    obtain ⟨entries, hload⟩ := h scope List.mem_cons_self
    rw [refreshEach_cons_of_ok hload]
    exact ih fun scope hscope => h scope (List.mem_cons_of_mem _ hscope)

theorem reachable_empty : Cache.empty.Reachable := ⟨[], rfl⟩

/-- Reads from a store do not fail. -/
theorem exists_load_source (store : Store) (scopes : List Scope) :
    ∀ scope ∈ scopes, ∃ entries, store.source.load scope = .ok entries :=
  fun _ _ => ⟨_, rfl⟩

/-- A new cache that has read all scopes of a store. -/
def ofStore (store : Store) (now : Timestamp) : Cache :=
  { Cache.empty.refreshAll store.source now store.listScopes with initialized := true }

/-- All scopes of a store are loaded. -/
theorem loadAll_source (store : Store) (now : Timestamp) :
    Cache.empty.loadAll store.source now = (.ok (), ofStore store now) := by
  have hlist : store.source.listScopes = .ok store.listScopes := rfl
  simp only [loadAll, hlist, refreshEach_of_ok (exists_load_source store store.listScopes)]
  rfl

/-- Each of them with what the store has for it. -/
theorem loads_ofStore (store : Store) (now : Timestamp) :
    Loads .empty (Cache.empty.refreshAll store.source now store.listScopes) store.listScopes
      (fun scope => flagsOf (store.load scope)) now := by
  have hok := exists_load_source store store.listScopes
  have hheld : ∀ scope entries, store.source.load scope = .ok entries →
      flagsOf entries = flagsOf (store.load scope) :=
    fun scope entries hload => congrArg flagsOf (Except.ok.inj hload).symm
  have hloads := reachable_empty.loads_refreshEach hheld now store.listScopes
  rwa [Source.firstFailing_eq_length hok, List.take_length, refreshEach_of_ok hok] at hloads

/-- The flags of the store are served. -/
theorem flags_ofStore (hs : store.Sound) (now : Timestamp) (scope : Scope) :
    (ofStore store now).flags scope = store.flags scope := by
  by_cases hscope : scope ∈ store.listScopes
  · have hflags := ((loads_ofStore store now).loaded scope hscope).flags
    exact hflags.trans (flagsOf_values fun key e he => (hs scope key e he).1)
  · have hflags := ((loads_ofStore store now).others scope hscope).flags
    rw [Store.listScopes, Table.mem_keys_iff, Option.not_isSome_iff_eq_none] at hscope
    rw [Store.flags_eq_empty_of_get? hscope]
    exact hflags

/-- Its scopes are registered. -/
theorem mem_keys_ofStore (store : Store) (now : Timestamp) :
    scope ∈ (ofStore store now).slots.keys ↔ scope ∈ store.listScopes := by
  rw [Table.mem_keys_iff, ← isSome_stats?]
  by_cases hscope : scope ∈ store.listScopes
  · obtain ⟨generation, hstats⟩ := ((loads_ofStore store now).loaded scope hscope).stats?
    exact iff_of_true (Option.isSome_of_mem hstats) hscope
  · have hstats := ((loads_ofStore store now).others scope hscope).stats?
    refine iff_of_false (fun hsome => ?_) hscope
    rw [← Option.ne_none_iff_isSome] at hsome
    exact hsome hstats

theorem scopeCount_ofStore (store : Store) (now : Timestamp) :
    (ofStore store now).scopeCount = store.listScopes.length := by
  rw [Store.listScopes, Table.length_keys]
  exact Table.size_eq_of_mem_keys fun _ => mem_keys_ofStore store now

end Cache

/-! ## Checking and starting -/

/-- A file with the text of a snapshot. -/
theorem Snapshot.ofFile_toUTF8 {text : String} {snapshot : Snapshot}
    (h : Wire.parse? text = some snapshot) : ofFile (some text.toUTF8) = .ok snapshot := by
  have hbytes : (some text.toUTF8 >>= String.fromUTF8?) = some text := dif_pos text.isValidUTF8
  simp only [ofFile, hbytes, h]

/-- A new service that has read all scopes of a store. -/
def Service.ofStore (s : ServiceSettings) (now : Timestamp) (store : Store) : Service where
  cache := .ofStore store now
  hub := .empty s.subscriberCapacity
  usage := .empty s.usageQueueCapacity s.staleAfterDays
  heartbeatSeconds := s.heartbeatSeconds

namespace Daemon

variable {w : Surroundings} {s : Settings}

/-- The check comes to what becomes of the store. -/
theorem result_check (hs : settings w = .ok s) :
    (check w).result = (openStore s.snapshotPath (w.file s.snapshotPath)).2.map
      fun store => store.listScopes.length := by
  simp only [check, hs, prepare]

/-- A store is served if the queue for evaluations can be made. -/
theorem openService_eq (hcap : s.service.usageQueueCapacity ≤ Queue.maxCapacity) (store : Store)
    (now : Timestamp) :
    (openService s store now).2 = .ok (.ofStore s.service now store) := by
  rw [← Queue.canHave_iff] at hcap
  have hcreate : Service.create? s.service = some {
      cache := .empty
      hub := .empty s.service.subscriberCapacity
      usage := .empty s.service.usageQueueCapacity s.service.staleAfterDays
      heartbeatSeconds := s.service.heartbeatSeconds } := by
    simp only [Service.create?, hcap]
    rfl
  simp only [openService, hcreate, Service.loadAll, Cache.loadAll_source]
  rfl

/-- A server comes to what becomes of its store as well. -/
theorem result_start (hs : settings w = .ok s)
    (hcap : s.service.usageQueueCapacity ≤ Queue.maxCapacity) (now : Timestamp) :
    (start w now).result = (openStore s.snapshotPath (w.file s.snapshotPath)).2.map
      (Service.ofStore s.service now) := by
  simp only [start, hs, prepare]
  cases (openStore s.snapshotPath (w.file s.snapshotPath)).2 with
  | error e => rfl
  | ok store => exact openService_eq hcap store now

/-- The cache of a server that has come up is one that a run leaves, so what is true of all of these
is true of the server. -/
theorem reachable_of_start (hs : settings w = .ok s)
    (hcap : s.service.usageQueueCapacity ≤ Queue.maxCapacity) (now : Timestamp) {service : Service}
    (hstart : (start w now).result = .ok service) : service.cache.Reachable := by
  rw [result_start hs hcap] at hstart
  cases hstore : (openStore s.snapshotPath (w.file s.snapshotPath)).2 with
  | error e =>
    rw [hstore] at hstart
    cases hstart
  | ok store =>
    rw [hstore] at hstart
    cases hstart
    have hloaded := Cache.reachable_empty.loadAll store.source now
    rwa [Cache.loadAll_source] at hloaded

/-- A store that is made is that of the snapshot in the file. -/
theorem openStore_eq_ok {path : String} {content : Option ByteArray}
    (hstore : (openStore path content).2 = .ok store) :
    ∃ snapshot, Snapshot.ofFile content = .ok snapshot ∧
      Store.ofSnapshot snapshot = .ok store := by
  cases hsnapshot : Snapshot.ofFile content with
  | error e =>
    have hfile : Store.ofSnapshotFile content = .error e := by
      rw [Store.ofSnapshotFile, hsnapshot]
      rfl
    rw [openStore, hfile] at hstore
    cases hstore
  | ok snapshot =>
    have hfile : Store.ofSnapshotFile content = (Store.ofSnapshot snapshot).mapError .refused := by
      rw [Store.ofSnapshotFile, hsnapshot]
      rfl
    rw [openStore, hfile] at hstore
    cases hmade : Store.ofSnapshot snapshot with
    | error e =>
      rw [hmade] at hstore
      cases hstore
    | ok made =>
      rw [hmade] at hstore
      cases hstore
      exact ⟨snapshot, rfl, hmade⟩

/-! ## Main result -/

/-- With settings that give the queue for evaluations a length that it can have, the server comes
up exactly if the check succeeds, and fails with the same error otherwise.  The check then counts
as many scopes as the cache has.  The cache has loaded all scopes, and serves for each key in each
scope the last entry that the snapshot in the file has for them; a scope for which the snapshot has
no entries is not registered and nothing is served from it. -/
theorem check_agrees_start (w : Surroundings) (s : Settings) (hs : settings w = .ok s)
    (hcap : s.service.usageQueueCapacity ≤ Queue.maxCapacity) (now : Timestamp) :
    (check w).result = (start w now).result.map (·.cache.scopeCount) ∧
    ∀ service, (start w now).result = .ok service →
      service.cache.initialized = true ∧
      ∃ snapshot, Snapshot.ofFile (w.file s.snapshotPath) = .ok snapshot ∧
        (∀ scope key,
          service.cache.flag? scope key = (Store.entriesAt snapshot.entries scope key).getLast?) ∧
        ∀ scope, (∀ e, (scope, e) ∉ snapshot.entries) →
          service.cache.flags scope = .empty ∧ service.cache.stats? scope = none := by
  rw [result_check hs, result_start hs hcap]
  cases hstore : (openStore s.snapshotPath (w.file s.snapshotPath)).2 with
  | error e => exact ⟨rfl, nofun⟩
  | ok store =>
    refine ⟨congrArg Except.ok (Cache.scopeCount_ofStore store now).symm, ?_⟩
    rintro service ⟨⟩
    obtain ⟨snapshot, hsnapshot, hmade⟩ := openStore_eq_ok hstore
    obtain ⟨_, hholds⟩ := Store.upsertAll_empty_of_ok hmade
    have hsound : store.Sound := Store.kept_sound.upsertAll hmade Store.kept_sound.empty
    refine ⟨rfl, snapshot, hsnapshot, fun scope key => ?_, fun scope hnone => ?_⟩
    · rw [← hholds.get?, ← Cache.flags_ofStore hsound now]
      rfl
    · have hscope : scope ∉ store.listScopes := fun hmem =>
        (hholds.mem_listScopes_iff.1 hmem).elim hnone
      have hunregistered : (Cache.ofStore store now).slots.get? scope = none := by
        rwa [← Cache.mem_keys_ofStore store now, Table.mem_keys_iff,
          Option.not_isSome_iff_eq_none] at hscope
      exact ⟨Cache.flags_of_unregistered hunregistered, congrArg (Option.map _) hunregistered⟩

/-- A flag that is on or off in its environment. -/
def darkMode (enabled : Bool) : Entry where
  flag := { (default : Flag) with
    key := "dark-mode", valueType := .boolean, defaultValue := .boolean false }
  config := { (default : Configuration) with enabled }

/-- A snapshot with a scope that is listed twice and one that is listed without flags. -/
def listedTwice : Snapshot where
  scopes := [⟨"shop", "live", [darkMode false]⟩, ⟨"shop", "test", []⟩,
    ⟨"shop", "live", [darkMode true]⟩]

/-- No settings, and the snapshot in every file. -/
def unconfigured : Surroundings where
  environment _ := none
  configFile := .missing
  file _ := some (Wire.text listedTwice).toUTF8

theorem within_listedTwice : (encode listedTwice).Within false 127 := by
  -- Through the objects and arrays, down to what stands in them.
  repeat' first
    | exact List.forall_mem_nil _
    | refine List.forall_mem_cons.2 ⟨?_, ?_⟩
    | constructor

theorem ofFile_unconfigured (path : String) :
    Snapshot.ofFile (unconfigured.file path) = .ok listedTwice := by
  -- The text need not be read: it is known what a written document is read as.
  have hread : decode? (encode listedTwice).reread = some listedTwice := rfl
  have hparse : Wire.parse? (Wire.text listedTwice) = some listedTwice :=
    (Wire.parse?_text_eq within_listedTwice).trans hread
  exact Snapshot.ofFile_toUTF8 hparse

theorem settings_unconfigured : settings unconfigured = .ok .standard := by
  rw [settings, Config.load, Config.resolve, Config.inOrder_of_pairwise (by decide)]
  rfl

theorem check_agrees_start_listedTwice :
    settings unconfigured = .ok .standard ∧
    Settings.standard.service.usageQueueCapacity ≤ Queue.maxCapacity ∧
    (check unconfigured).result = .ok 1 ∧
    ∃ service, (start unconfigured default).result = .ok service ∧
      service.cache.flag? ⟨"shop", "live"⟩ "dark-mode" = some (darkMode true) ∧
      service.cache.flags ⟨"shop", "test"⟩ = .empty := by
  have hcap : Settings.standard.service.usageQueueCapacity ≤ Queue.maxCapacity := by decide
  have hcheck : (check unconfigured).result.toOption = some 1 := by
    rw [result_check settings_unconfigured, openStore, Store.ofSnapshotFile, ofFile_unconfigured]
    decide +kernel
  obtain ⟨hagree, hserves⟩ :=
    check_agrees_start unconfigured .standard settings_unconfigured hcap default
  cases hstart : (start unconfigured default).result with
  | error e =>
    rw [hagree, hstart] at hcheck
    cases hcheck
  | ok service =>
    rw [hagree, hstart] at hcheck ⊢
    obtain ⟨_, snapshot, hsnapshot, hlast, hnone⟩ := hserves service hstart
    obtain rfl := Except.ok.inj ((ofFile_unconfigured _).symm.trans hsnapshot)
    have htest : ∀ e, (⟨"shop", "test"⟩, e) ∉ listedTwice.entries := by
      simp [listedTwice, Snapshot.entries, SnapshotScope.scope]
    refine ⟨settings_unconfigured, hcap, congrArg Except.ok (Option.some.inj hcheck), service, rfl,
      ?_, ?_⟩
    · rw [hlast]
      rfl
    · exact (hnone ⟨"shop", "test"⟩ htest).1

end Daemon

end FeatureFlags
