import FeatureFlags.Proofs.Cache.Refresh
import FeatureFlags.Proofs.Cache.Serving
import FeatureFlags.Proofs.Table
import FeatureFlags.Proofs.Usage.Aggregator
import FeatureFlags.Service

/-!
# Evaluating all flags of a scope at once

* `Cache.Reachable.key_of_get?_flags`: a cache that a run leaves serves every flag under its own
  key.
* `evaluateAll_of_perm`: so all flags together evaluate to what each of them does, in whatever order
  they come.
* `UsageTracker.untimed_record`: apart from the instants, what a record leaves does not depend on
  when it is made.
* `Service.evaluateEach`: one evaluation after the other, each at its own instant.

`evaluateAll_agrees_evaluate` is the main result.
-/

namespace FeatureFlags

variable {scope : Scope} {key : String} {e : Entry} {context : Context}

/-! ## Flags under their keys -/

/-- A scope is served from what a read has found of it, or from nothing. -/
theorem Cache.Reachable.exists_flagsOf {c : Cache} (hc : c.Reachable) (scope : Scope) :
    ∃ entries, c.flags scope = flagsOf entries := by
  obtain ⟨actions, rfl⟩ := hc
  cases hs : (History.start.run actions).cache.slots.get? scope with
  | none => exact ⟨[], flags_of_unregistered hs⟩
  | some slot =>
    rw [flags_of_registered hs]
    rcases (inv_run actions).toAccounted.newest_or_none hs with ⟨q, -, -, hflags⟩ | ⟨-, -, hflags⟩
    · exact ⟨q.entries, hflags⟩
    · exact ⟨[], hflags⟩

theorem Cache.Reachable.key_of_get?_flags {c : Cache} (hc : c.Reachable)
    (h : (c.flags scope).get? key = some e) : e.key = key := by
  obtain ⟨entries, hentries⟩ := hc.exists_flagsOf scope
  rw [hentries] at h
  exact key_of_get?_flagsOf h

/-! ## All of them -/

/-- Flags under their own keys evaluate together to what each of them does, in whatever order they
come. -/
theorem evaluateAll_of_perm {flags : ScopeFlags} {entries : List Entry}
    (hkeys : ∀ key e, flags.get? key = some e → e.key = key) (hp : entries.Perm flags.values) :
    evaluateAll entries context = flags.map fun _ e => e.evaluate context := by
  have hentries : flags.values.map (fun e => (e.key, e.evaluate context)) =
      (flags.map fun _ e => e.evaluate context).entries :=
    map_values_of_keys hkeys (·.evaluate context)
  exact Table.ofList_of_perm (hentries ▸ hp.map _)

/-! ## Records without their instants -/

/-- The evaluation without its instant. -/
def UsageEvent.untimed (e : UsageEvent) : UsageEvent := { e with evaluatedAt := default }

namespace UsageTracker

variable {u : UsageTracker}

/-- The tracker without the instants of the evaluations that wait. -/
def untimed (u : UsageTracker) : UsageTracker := { u with queue := u.queue.map UsageEvent.untimed }

theorem accepts_untimed (u : UsageTracker) : u.untimed.accepts = u.accepts := by
  rw [accepts, accepts, untimed, List.length_map]

/-- Apart from the instants, it does not matter when a record is made. -/
theorem untimed_record (u : UsageTracker) (scope : Scope) (key : String) (now : Timestamp) :
    (u.record scope key now).untimed = u.untimed.record scope key default := by
  cases hacc : u.accepts with
  | true =>
    rw [Aggregator.record_of_accepts hacc,
      Aggregator.record_of_accepts (u.accepts_untimed.trans hacc), untimed, List.map_append]
    rfl
  | false =>
    rw [Aggregator.record_of_not_accepts hacc,
      Aggregator.record_of_not_accepts (u.accepts_untimed.trans hacc)]
    rfl

/-- Nor does it for one record after the other. -/
theorem untimed_foldl_record (calls : List (String × Timestamp)) (u : UsageTracker) :
    (calls.foldl (fun u call => u.record scope call.1 call.2) u).untimed =
      (calls.map Prod.fst).foldl (fun u key => u.record scope key default) u.untimed := by
  induction calls generalizing u with
  | nil => rfl
  | cons c calls ih => rw [List.foldl_cons, ih, untimed_record, List.map_cons, List.foldl_cons]

end UsageTracker

/-! ## One after the other -/

namespace Service

variable {s : Service} {now : Timestamp}

/-- The service without the instants of the evaluations that wait. -/
def untimed (s : Service) : Service := { s with usage := s.usage.untimed }

/-- Evaluates flags of a scope one after the other, each at its own instant. -/
def evaluateEach (s : Service) (scope : Scope) (context : Context)
    (calls : List (String × Timestamp)) : Service :=
  calls.foldl (fun s call => (s.evaluate scope call.1 context call.2).2) s

theorem evaluate_of_some (h : (s.cache.flags scope).get? key = some e) :
    s.evaluate scope key context now =
      (.ok (e.evaluate context), { s with usage := s.usage.record scope key now }) := by
  rw [evaluate, Cache.flag?, h]

theorem evaluate_of_none (h : (s.cache.flags scope).get? key = none) :
    s.evaluate scope key context now = (.error ⟨scope, key⟩, s) := by
  rw [evaluate, Cache.flag?, h]

/-- Evaluations of flags that are served only make their records. -/
theorem evaluateEach_eq {calls : List (String × Timestamp)}
    (h : calls.map Prod.fst ⊆ (s.cache.flags scope).keys) :
    s.evaluateEach scope context calls =
      { s with usage := calls.foldl (fun u call => u.record scope call.1 call.2) s.usage } := by
  induction calls generalizing s with
  | nil => rfl
  | cons call calls ih =>
    obtain ⟨hcall, hcalls⟩ := List.cons_subset.1 h
    obtain ⟨e, he⟩ := Option.isSome_iff_exists.1 (Table.mem_keys_iff.1 hcall)
    rw [evaluateEach, List.foldl_cons, evaluate_of_some he]
    exact ih hcalls

/-- Apart from the instants, only the keys matter. -/
theorem untimed_evaluateEach {calls : List (String × Timestamp)}
    (h : calls.map Prod.fst = (s.cache.flags scope).keys) :
    (s.evaluateEach scope context calls).untimed =
      { s with
        usage := (s.cache.flags scope).keys.foldl (fun u key => u.record scope key default)
          s.usage.untimed } := by
  rw [evaluateEach_eq (h ▸ List.Subset.refl _), untimed, UsageTracker.untimed_foldl_record, h]

theorem map_fst_keys (scope : Scope) (now : Timestamp) :
    ((s.cache.flags scope).keys.map (·, now)).map Prod.fst = (s.cache.flags scope).keys := by
  rw [List.map_map]
  exact List.map_id _

/-- All at once is one after the other at one instant. -/
theorem snd_evaluateAll
    (hkeys : (s.evaluateAll scope context now).1.keys = (s.cache.flags scope).keys) :
    (s.evaluateAll scope context now).2 =
      s.evaluateEach scope context ((s.cache.flags scope).keys.map (·, now)) := by
  have hserved : ((s.cache.flags scope).keys.map (·, now)).map Prod.fst ⊆
      (s.cache.flags scope).keys := by
    rw [map_fst_keys]
    exact List.Subset.refl _
  rw [evaluateEach_eq hserved, List.foldl_map, ← hkeys]
  rfl

/-- An evaluation leaves one record, which gets a place in the queue or is dropped. -/
theorem snd_evaluate_of_ok {result : Evaluation}
    (h : (s.evaluate scope key context now).1 = .ok result) :
    (s.evaluate scope key context now).2 = { s with
      usage := if s.usage.accepts then
          { s.usage with queue := s.usage.queue ++ [⟨scope, key, now⟩] }
        else { s.usage with dropped := s.usage.dropped + 1 } } := by
  cases he : (s.cache.flags scope).get? key with
  | none =>
    rw [evaluate_of_none he] at h
    cases h
  | some e =>
    rw [evaluate_of_some he]
    cases hacc : s.usage.accepts with
    | true => rw [Aggregator.record_of_accepts hacc, if_pos rfl]
    | false => rw [Aggregator.record_of_not_accepts hacc, if_neg Bool.false_ne_true]

/-- A flag that is not found leaves no trace. -/
theorem snd_evaluate_of_error {notFound : FlagNotFound}
    (h : (s.evaluate scope key context now).1 = .error notFound) :
    (s.evaluate scope key context now).2 = s := by
  cases he : (s.cache.flags scope).get? key with
  | none => rw [evaluate_of_none he]
  | some e =>
    rw [evaluate_of_some he] at h
    cases h

/-! ## Main result -/

/-- Evaluated all at once, the flags of a scope have the keys that are served there and come to what
each of them comes to, in whatever order the cache gives them; there is no flag with any other key.
But for the instants, the records that are left are those of one evaluation after the other, in the
order of the keys.  One evaluation leaves one record, none if there is no such flag, and neither way
of evaluating changes the cache or the hub. -/
theorem evaluateAll_agrees_evaluate (s : Service) (hs : s.cache.Reachable) (scope : Scope)
    (context : Context) (now : Timestamp) :
    let flags := s.cache.flags scope
    let bulk := (s.evaluateAll scope context now).1
    bulk.keys = flags.keys ∧
    (∀ key now', (s.evaluate scope key context now').1 =
      match bulk.get? key with
      | some result => .ok result
      | none => .error ⟨scope, key⟩) ∧
    (∀ entries, entries.Perm flags.values → FeatureFlags.evaluateAll entries context = bulk) ∧
    (∀ calls : List (String × Timestamp), calls.map Prod.fst = flags.keys →
      (s.evaluateAll scope context now).2.untimed =
        (s.evaluateEach scope context calls).untimed) ∧
    (∀ key now' result, (s.evaluate scope key context now').1 = .ok result →
      (s.evaluate scope key context now').2 = { s with
        usage := if s.usage.accepts then
            { s.usage with queue := s.usage.queue ++ [⟨scope, key, now'⟩] }
          else { s.usage with dropped := s.usage.dropped + 1 } }) ∧
    (∀ key now' notFound, (s.evaluate scope key context now').1 = .error notFound →
      (s.evaluate scope key context now').2 = s) ∧
    (s.evaluateAll scope context now).2.cache = s.cache ∧
    (s.evaluateAll scope context now).2.hub = s.hub := by
  intro flags bulk
  have hbulk : ∀ entries, entries.Perm flags.values →
      FeatureFlags.evaluateAll entries context = flags.map fun _ e => e.evaluate context :=
    fun entries => evaluateAll_of_perm fun key e => hs.key_of_get?_flags
  have heach : bulk = flags.map fun _ e => e.evaluate context := hbulk _ (.refl _)
  have hkeys : bulk.keys = flags.keys := by rw [heach, Table.keys_map]
  refine ⟨hkeys, ?single, ?order, ?usage, fun _ _ _ => snd_evaluate_of_ok,
    fun _ _ _ => snd_evaluate_of_error, rfl, rfl⟩
  case single =>
    intro key now'
    rw [heach, Table.get?_map]
    cases he : flags.get? key with
    | none => rw [evaluate_of_none he, Option.map_none]
    | some e => rw [evaluate_of_some he, Option.map_some]
  case order => exact fun entries hp => (hbulk entries hp).trans heach.symm
  case usage =>
    intro calls hcalls
    rw [snd_evaluateAll hkeys, untimed_evaluateEach (map_fst_keys scope now),
      untimed_evaluateEach hcalls]

/-- A flag that is off. -/
def named (key : String) : Entry := ⟨{ (default : Flag) with key }, default⟩

/-- A service with two flags and room for one record. -/
def roomForOne : Service where
  cache := (Cache.History.start.run
    [.begin ⟨"shop", "live"⟩ [named "new-editor", named "dark-mode"] default,
      .finish 0 .loaded default]).cache
  hub := .empty 1
  usage := .empty 1 1
  heartbeatSeconds := 1

theorem evaluateAll_agrees_evaluate_fullMidway :
    roomForOne.cache.Reachable ∧
    (roomForOne.evaluateAll ⟨"shop", "live"⟩ .empty default).1.keys =
      ["dark-mode", "new-editor"] ∧
    (∀ first second,
      (roomForOne.evaluateAll ⟨"shop", "live"⟩ .empty default).2.untimed =
        (roomForOne.evaluateEach ⟨"shop", "live"⟩ .empty
          [("dark-mode", first), ("new-editor", second)]).untimed) ∧
    (roomForOne.evaluateAll ⟨"shop", "live"⟩ .empty default).2.usage.queue =
      [⟨⟨"shop", "live"⟩, "dark-mode", default⟩] ∧
    (roomForOne.evaluateAll ⟨"shop", "live"⟩ .empty default).2.usage.dropped = 1 := by
  have hs : roomForOne.cache.Reachable := ⟨_, rfl⟩
  have hserved : (roomForOne.cache.flags ⟨"shop", "live"⟩).keys = ["dark-mode", "new-editor"] := by
    decide +kernel
  obtain ⟨hkeys, _, _, husage, _⟩ :=
    evaluateAll_agrees_evaluate roomForOne hs ⟨"shop", "live"⟩ .empty default
  exact ⟨hs, hkeys.trans hserved, fun _ _ => husage _ hserved.symm, by decide +kernel,
    by decide +kernel⟩

end Service

end FeatureFlags
