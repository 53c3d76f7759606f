import FeatureFlags.Proofs.Cache.Entries
import FeatureFlags.Proofs.Evaluation.Serving
import FeatureFlags.Proofs.Store.Entries
import FeatureFlags.Service

/-!
# A store and the cache that reads from it

A deployment is a store that changes and a cache that reads from it now and then.  A read in flight
may look at the store at any time before it ends, and any reads may fail or be abandoned.

* `sound_run`: whatever happens to the store and to the cache in whatever order, everything that is
  stored, on its way or served is valid.
* `evaluate_serves`: so every evaluation serves what the configuration of its flag names, and the
  default value never stands in for a variant.
-/

namespace FeatureFlags

/-- A store, and the cache that reads from it. -/
structure Deployment where
  store : Store
  history : Cache.History

namespace Deployment

/-- An empty store, and a cache without scopes. -/
def start : Deployment := ⟨.empty, .start⟩

/-- What may happen to a store and its cache. -/
inductive Action where
  | change (a : Store.Action)
  | begin (scope : Scope) (now : Timestamp)
  /-- The read at a place of the history looks at the store again, unless it has ended. -/
  | look (read : Nat)
  | finish (read : Nat) (outcome : Cache.Outcome) (now : Timestamp)
  /-- A scope is read while the flags of some scopes cannot be read. -/
  | refresh (failing : List Scope) (detail : String) (scope : Scope) (now : Timestamp)
  /-- All scopes are read while the flags of some, or the list of them, cannot be read. -/
  | loadAll (listFails : Bool) (failing : List Scope) (detail : String) (now : Timestamp)
  | remove (scope : Scope)
  | allLoaded

/-- A read in flight looks at the store. -/
def look (d : Deployment) (place : Nat) : Cache.History :=
  match d.history.reads[place]? with
  | none => d.history
  | some q =>
    if q.outcome = none then
      { d.history with
        reads := d.history.reads.set place { q with entries := d.store.load q.scope } }
    else d.history

/-- What an action leaves. -/
def step (d : Deployment) : Action → Deployment
  | .change a => { d with store := d.store.step a }
  | .begin scope now => { d with history := d.history.begin scope (d.store.load scope) now }
  | .look place => { d with history := d.look place }
  | .finish place o now => { d with history := d.history.finish place o now }
  | .refresh failing detail scope now =>
    { d with history := d.history.refresh (d.store.source.failing false failing detail) scope now }
  | .loadAll listFails failing detail now =>
    { d with history := d.history.loadAll (d.store.source.failing listFails failing detail) now }
  | .remove scope => { d with history := d.history.remove scope }
  | .allLoaded => { d with history := d.history.allLoaded }

/-- What actions leave, one after the other. -/
def run (d : Deployment) (actions : List Action) : Deployment := actions.foldl step d

/-- Everything that is stored, on its way or served is valid. -/
structure Sound (d : Deployment) : Prop where
  store : d.store.Sound
  history : d.history.All Entry.Valid

theorem sound_start : Sound start where
  store := Store.kept_sound.empty
  history := Cache.History.all_start Entry.Valid

namespace Sound

variable {d : Deployment}

/-- A read that looks at a sound store finds valid entries. -/
theorem look (hd : d.Sound) (place : Nat) : (d.look place).All Entry.Valid := by
  rw [Deployment.look]
  split
  · exact hd.history
  · next q hq =>
    split
    · refine ⟨fun p hp => ?_, hd.history.served⟩
      rcases List.mem_or_eq_of_mem_set hp with hp | rfl
      · exact hd.history.found p hp
      · exact fun e he => hd.store.valid_of_mem_load he
    · exact hd.history

/-- So does a read that does not fail while others do. -/
theorem load_failing (hd : d.Sound) (listFails : Bool) (failing : List Scope) (detail : String)
    (scope : Scope) (entries : List Entry)
    (hload : (d.store.source.failing listFails failing detail).load scope = .ok entries) :
    ∀ e ∈ entries, e.Valid := by
  rw [(Source.readsFrom_failing d.store listFails failing detail).load scope entries hload]
  exact fun e he => hd.store.valid_of_mem_load he

/-- Every action keeps a deployment sound. -/
theorem step (hd : d.Sound) (a : Action) : (d.step a).Sound := by
  have hkept := Cache.History.kept_all Entry.Valid
  have hnil : ∀ e ∈ ([] : List Entry), e.Valid := fun _ he => absurd he List.not_mem_nil
  cases a with
  | change a => exact ⟨Store.kept_sound.step hd.store a, hd.history⟩
  | begin scope now =>
    refine ⟨hd.store, hkept.begin _ scope _ now ?_ hd.history⟩
    exact fun e he => hd.store.valid_of_mem_load he
  | look place => exact ⟨hd.store, hd.look place⟩
  | finish place o now => exact ⟨hd.store, hkept.finish _ place o now hd.history⟩
  | refresh failing detail scope now =>
    exact ⟨hd.store, hkept.refresh hnil (hd.load_failing false failing detail) scope now hd.history⟩
  | loadAll listFails failing detail now =>
    refine ⟨hd.store, hkept.step (a := .loadAll _ now) ⟨hnil, ?_⟩ hd.history⟩
    exact hd.load_failing listFails failing detail
  | remove scope => exact ⟨hd.store, hkept.remove _ scope hd.history⟩
  | allLoaded => exact ⟨hd.store, hkept.allLoaded _ hd.history⟩

theorem run (hd : d.Sound) (actions : List Action) : (d.run actions).Sound := by
  induction actions generalizing d with
  | nil => exact hd
  | cons a rest ih => exact ih (hd.step a)

end Sound

/-- Every run keeps everything valid. -/
theorem sound_run (actions : List Action) : (start.run actions).Sound := sound_start.run actions

end Deployment

/-- A service that finds a flag serves what the flag evaluates to. -/
theorem Service.evaluate_eq_ok_iff {service : Service} {scope : Scope} {key : String}
    {context : Context} {now : Timestamp} {result : Evaluation} :
    (service.evaluate scope key context now).1 = .ok result ↔
      ∃ e, service.cache.flag? scope key = some e ∧ e.evaluate context = result := by
  rw [evaluate]
  cases service.cache.flag? scope key with
  | none => simp
  | some e => simp

namespace Deployment

/-- Whatever a service evaluates, it serves what the cached configuration of the flag names: a
value of the type of the flag, and the value and key of the variant that the first admitting rule
or else the default variant stands for.  Only if there is neither, or the flag is archived or
disabled, it serves the default value. -/
theorem evaluate_serves (actions : List Action) (service : Service)
    (hcache : service.cache = (start.run actions).history.cache) (scope : Scope) (key : String)
    (context : Context) (now : Timestamp) (result : Evaluation)
    (hresult : (service.evaluate scope key context now).1 = .ok result) :
    ∃ e, service.cache.flag? scope key = some e ∧ e.Serves context result := by
  obtain ⟨e, he, rfl⟩ := Service.evaluate_eq_ok_iff.1 hresult
  have hserved := he
  rw [hcache] at hserved
  have hvalid : e.Valid := (sound_run actions).history.served scope key e hserved
  exact ⟨e, he, Entry.serves hvalid.fits context⟩

/-- A flag that a rule switches on for everybody. -/
def switchedOn : Entry where
  flag := { (default : Flag) with
    key := "dark-mode", valueType := .boolean, defaultValue := .boolean false }
  config := { (default : Configuration) with
    enabled := true, variants := [⟨"on", .boolean true⟩], rules := [⟨[], "on", none⟩] }

/-- The flag is stored while a read is on its way that fails only after a later read has ended. -/
def laterReadFirst : List Action :=
  [.begin ⟨"shop", "live"⟩ default, .change (.upsert ⟨"shop", "live"⟩ switchedOn),
    .begin ⟨"shop", "live"⟩ default, .finish 1 .loaded default, .finish 0 .failed default]

/-- A service with the cache that this leaves. -/
def laterReadService : Service where
  cache := (start.run laterReadFirst).history.cache
  hub := .empty 1
  usage := .empty 1 1
  heartbeatSeconds := 1

theorem evaluate_serves_laterReadFirst :
    (laterReadService.evaluate ⟨"shop", "live"⟩ "dark-mode" .empty default).1 =
      .ok ⟨.boolean true, "on", .ruleMatch⟩ ∧
    ∃ e, laterReadService.cache.flag? ⟨"shop", "live"⟩ "dark-mode" = some e ∧
      e.Serves .empty ⟨.boolean true, "on", .ruleMatch⟩ := by
  have hresult : (laterReadService.evaluate ⟨"shop", "live"⟩ "dark-mode" .empty default).1 =
      .ok ⟨.boolean true, "on", .ruleMatch⟩ := by rfl
  exact ⟨hresult, evaluate_serves laterReadFirst laterReadService rfl _ _ _ _ _ hresult⟩

end Deployment

end FeatureFlags
