import FeatureFlags.Proofs.Hub.Delivery

/-!
# Who is registered

The registry of a hub has exactly those subscriptions that stand, each under its own scope, and the
counts of the hub are counts of them.

`registry_run` is the main result.  It says of every run who is registered after it, in terms of the
actions of the run.
-/

namespace FeatureFlags.Hub

variable {capacity : Nat} {h : History} {scope : Scope} {p : Subscriber}

/-- The registry of a hub fits the subscriptions that have been made. -/
structure Registry (h : History) : Prop where
  /-- Subscriptions are numbered in the order in which they are made. -/
  increasing : h.subscribers.Pairwise fun p q => p.id.number < q.id.number
  /-- A subscription is registered under its own scope, if it stands, and under no other. -/
  registered : ∀ p ∈ h.subscribers, ∀ scope,
    p.id ∈ h.hub.members scope ↔ scope = p.scope ∧ p.course.stands = true
  /-- Nothing else is registered. -/
  known : ∀ scope, ∀ id ∈ h.hub.members scope, ∃ p ∈ h.subscribers, p.id = id
  /-- There is no entry without subscriptions, and none that is on its way out. -/
  entries : ∀ scope entry, h.hub.registered.get? scope = some entry →
    entry.members ≠ [] ∧ entry.members.Nodup ∧ entry.retired = false
  /-- Registering a subscription takes one pass. -/
  onePass : ∀ s hub, h.hub.register s ≠ .again hub
  subscriberCount : ∀ scope, h.hub.subscriberCount scope = h.subscribers.countP (·.standsIn scope)
  scopeCount : ∃ scopes : List Scope, scopes.Nodup ∧ scopes.length = h.hub.stats.scopeCount ∧
    ∀ scope, scope ∈ scopes ↔ ∃ p ∈ h.subscribers, p.standsIn scope = true
  allSubscribers : h.hub.stats.subscriberCount = h.subscribers.countP (·.course.stands)
  totalSubscriptions :
    h.hub.stats.totalSubscriptions = h.subscribers.countP (!·.course.late)
  /-- Once the hub is closed nothing is registered. -/
  closed : h.hub.closed = true → h.hub.registered = .empty

/-! ## Counts -/

/-- Each of the subscriptions that stand for some of the scopes stands for one of them. -/
theorem foldr_countP_standsIn {scopes : List Scope} (hn : scopes.Nodup) (ps : List Subscriber) :
    (scopes.map fun scope => ps.countP (·.standsIn scope)).foldr (· + ·) 0 =
      ps.countP fun p => p.course.stands && decide (p.scope ∈ scopes) := by
  induction scopes with
  | nil => simp
  | cons first rest ih =>
    obtain ⟨hfirst, hrest⟩ := List.nodup_cons.1 hn
    have hsplit := List.countP_eq_countP_filter_add ps
      (fun p => p.course.stands && decide (p.scope ∈ first :: rest)) (·.scope == first)
    -- Those for the first scope are counted there, and all others for the rest.
    rw [List.map_cons, List.foldr_cons, ih hrest, hsplit, List.countP_filter, List.countP_filter]
    congr 1
    · refine List.countP_congr fun p _ => ?_
      by_cases hs : p.scope = first
      · simp [Subscriber.standsIn, hs]
      · simp [Subscriber.standsIn, hs]
    · refine List.countP_congr fun p _ => ?_
      by_cases hs : p.scope = first
      · simp [hs, hfirst]
      · simp [hs]

/-- A scope has an entry if and only if a subscription stands for it. -/
theorem Inv.mem_keys_iff (hi : Inv capacity h) (scope : Scope) :
    scope ∈ h.hub.registered.keys ↔ ∃ p ∈ h.subscribers, p.standsIn scope = true := by
  rw [Table.mem_keys_iff, hi.tidy.get?_registered, hi.members]
  cases hs : h.subscribers.filter (·.standsIn scope) with
  | nil => simpa using List.filter_eq_nil_iff.1 hs
  | cons p rest =>
    have hp := List.mem_filter.1 (hs ▸ List.mem_cons_self : p ∈ h.subscribers.filter _)
    simpa using ⟨p, hp.1, hp.2⟩

/-- The entries together have those subscriptions that stand. -/
theorem Inv.allSubscribers (hi : Inv capacity h) :
    h.hub.stats.subscriberCount = h.subscribers.countP (·.course.stands) := by
  have hentry : ∀ scope entry, h.hub.registered.get? scope = some entry →
      entry.members.length = h.subscribers.countP (·.standsIn scope) := by
    intro scope entry he
    rw [← members_of_entry he, hi.members, List.length_map, List.countP_eq_length_filter]
  calc h.hub.stats.subscriberCount
      = (h.hub.registered.values.map (·.members.length)).foldr (· + ·) 0 := rfl
    _ = (h.hub.registered.keys.map fun scope =>
          h.subscribers.countP (·.standsIn scope)).foldr (· + ·) 0 := by
        rw [h.hub.registered.map_values hentry]
    _ = h.subscribers.countP fun p =>
          p.course.stands && decide (p.scope ∈ h.hub.registered.keys) :=
        foldr_countP_standsIn h.hub.registered.nodup_keys h.subscribers
    _ = h.subscribers.countP (·.course.stands) := by
        refine List.countP_congr fun p hp => ?_
        rw [Bool.and_eq_true, decide_eq_true_iff, hi.mem_keys_iff]
        exact and_iff_left_of_imp fun hs => ⟨p, hp, (Subscriber.standsIn_of_eq rfl).trans hs⟩

/-! ## Closed hubs -/

/-- Nothing is registered once the hub is closed. -/
theorem Inv.registered_eq_empty (hi : Inv capacity h) (hc : h.hub.closed = true) :
    h.hub.registered = .empty := by
  apply Table.ext_get?
  intro scope
  have hnone : h.hub.members scope = [] := by
    rw [hi.members, List.map_eq_nil_iff, List.filter_eq_nil_iff]
    intro p hp
    simp [Subscriber.standsIn, hi.closed hc p hp]
  rw [hi.tidy.get?_registered, hnone]
  rfl

/-- A subscription that is made after the hub was closed is closed from the start: it leaves the
registry as it is, and there is nothing to wait for. -/
theorem Inv.subscribe?_of_closed (hi : Inv capacity h) (hcap : Queue.canHave capacity = true)
    (hc : h.hub.closed = true) (scope : Scope) :
    ∃ s hub, h.hub.subscribe? scope = some (s, hub) ∧ hub.registered = .empty ∧
      hub.isRegistered s = false ∧ (hub.await s).1 = .ended := by
  rw [← hi.capacity] at hcap
  have hregistered : (h.hub.withSubscription scope).registered = .empty := by
    rw [withSubscription, hc, if_pos rfl]
    exact hi.registered_eq_empty hc
  have hnot : (h.hub.withSubscription scope).isRegistered ⟨⟨h.hub.nextNumber⟩, scope⟩ = false := by
    rw [isRegistered, Hub.members, hregistered]
    rfl
  have hwaiting : (h.hub.withSubscription scope).waiting ⟨⟨h.hub.nextNumber⟩, scope⟩ = [] := by
    rw [waiting, withSubscription_eq, Table.get?_insert_self]
    rfl
  refine ⟨_, _, hi.tidy.subscribe?_eq hcap scope, hregistered, hnot, ?_⟩
  rw [fst_await, hwaiting, hnot]
  rfl

/-! ## Subscriptions in the order in which they are made -/

/-- Only subscribing makes subscriptions, one at a time. -/
theorem Inv.scopes_step (hi : Inv capacity h) (hcap : Queue.canHave capacity = true) (a : Action) :
    (h.step a).subscribers.map (·.scope) =
      h.subscribers.map (·.scope) ++ a.subscribed?.toList := by
  have hown : ∀ place act, (h.own place act).subscribers.map (·.scope) =
      h.subscribers.map (·.scope) := by
    intro place act
    rcases h.own_cases place act with he | ⟨p, hp, _, he⟩
    · rw [he]
    · rw [he, hi.set_eq_map hp, List.map_map]
      refine List.map_congr_left fun q _ => ?_
      rw [Function.comp]
      split <;> rfl
  cases a with
  | subscribe scope =>
    rw [← hi.capacity] at hcap
    rw [History.step, History.subscribe_eq hi.tidy hcap, List.map_append]
    rfl
  | broadcast scope event =>
    rw [History.step, History.broadcast, List.map_map]
    refine (List.map_congr_left fun p _ => ?_).trans (List.append_nil _).symm
    rw [Function.comp, History.told]
    split <;> rfl
  | receive place => exact (hown _ _).trans (List.append_nil _).symm
  | await place => exact (hown _ _).trans (List.append_nil _).symm
  | unsubscribe place => exact (hown _ _).trans (List.append_nil _).symm
  | drop place => exact (hown _ _).trans (List.append_nil _).symm
  | close =>
    rw [History.step, History.close, List.map_map]
    exact (List.append_nil _).symm

/-- The subscriptions are for the scopes that have been subscribed to, in that order. -/
theorem Inv.scopes_run (hi : Inv capacity h) (hcap : Queue.canHave capacity = true)
    (actions : List Action) :
    (h.run actions).subscribers.map (·.scope) =
      h.subscribers.map (·.scope) ++ actions.filterMap (·.subscribed?) := by
  induction actions generalizing h with
  | nil => simp
  | cons a rest ih =>
    rw [History.run_cons, ih (hi.step a), hi.scopes_step hcap, List.append_assoc,
      List.filterMap_cons]
    cases a.subscribed? with
    | none => rfl
    | some scope => rfl

/-! ## Main result -/

/-- After every run the registry fits. -/
theorem Inv.registry (hi : Inv capacity h) : Registry h where
  increasing := hi.pairwise_id
  registered p hp scope := by
    rw [hi.mem_members_iff hp, Subscriber.standsIn, Bool.and_eq_true, beq_iff_eq, eq_comm]
  known scope id hid := by
    rw [hi.members, List.mem_map] at hid
    obtain ⟨p, hp, rfl⟩ := hid
    exact ⟨p, (List.mem_filter.1 hp).1, rfl⟩
  entries scope entry he := by
    obtain ⟨hne, hretired⟩ := hi.tidy scope entry he
    exact ⟨hne, members_of_entry he ▸ hi.nodup_members scope, hretired⟩
  onePass s hub := by
    rw [hi.tidy.register_eq]
    intro hagain
    split at hagain
    · cases hagain
    · cases hagain
  subscriberCount scope := by
    rw [Hub.subscriberCount, hi.members, List.length_map, List.countP_eq_length_filter]
  scopeCount := ⟨h.hub.registered.keys, h.hub.registered.nodup_keys, h.hub.registered.length_keys,
    hi.mem_keys_iff⟩
  allSubscribers := hi.allSubscribers
  totalSubscriptions := hi.total
  closed := hi.registered_eq_empty

/-- After every run the registry fits (`Registry`), and the actions of the run tell who stands:
those that were made before the hub was closed and have not been unsubscribed since, unless the hub
has been closed or their receivers were gone when an event was broadcast to their scope.  There is
always one more subscription to be had; if the hub is closed, so is the subscription. -/
theorem registry_run (capacity : Nat) (hcap : Queue.canHave capacity = true)
    (actions : List Action) :
    let h := (History.start capacity).run actions
    Registry h ∧
    h.subscribers.map (·.scope) = actions.filterMap (·.subscribed?) ∧
    (∀ before scope after, actions = before ++ .subscribe scope :: after →
      let place := (before.filterMap (·.subscribed?)).length
      let met := after.filterMap (·.concern? place scope)
      ∃ p, h.subscribers[place]? = some p ∧ p.scope = scope ∧
        (p.course.late = true ↔ .close ∈ before) ∧
        (p.course.stands = true ↔ .close ∉ before ∧ .close ∉ after ∧
          (¬∃ first rest, met = first ++ .unsubscribe :: rest ∧ .drop ∉ first) ∧
          ¬∃ first event rest, met = first ++ .offer event :: rest ∧ .drop ∈ first)) ∧
    (h.hub.closed = true ↔ .close ∈ actions) ∧
    (∀ scope, ∃ s hub, h.hub.subscribe? scope = some (s, hub) ∧
      (.close ∈ actions →
        hub.registered = .empty ∧ hub.isRegistered s = false ∧ (hub.await s).1 = .ended)) := by
  intro h
  have hi : Inv capacity h := inv_run capacity actions
  have hclosed := closed_iff_close_mem capacity
  refine ⟨hi.registry, (inv_start capacity).scopes_run hcap actions, ?stands, hclosed actions,
    ?next⟩
  case stands =>
    intro before scope after hsplit place met
    have hplace : ((History.start capacity).run before).subscribers.length = place := by
      have := congrArg List.length ((inv_start capacity).scopes_run hcap before)
      rw [List.length_map] at this
      exact this
    obtain ⟨p, hp, hscope, hfeed⟩ := (inv_run capacity before).feed_made hcap scope after
    rw [← History.run_append, ← hsplit, hplace] at hp hfeed
    have hcourse := congrArg (·.course) hfeed
    refine ⟨p, hp, hscope, ?_, ?_⟩
    · rw [← hclosed before, show p.course = _ from hcourse, Feed.late_run]
      rfl
    · rw [← hclosed before, Bool.not_eq_true, show p.course = _ from hcourse, Feed.stands_run,
        Action.close_mem_concern?_iff]
  case next =>
    intro scope
    cases hc : h.hub.closed with
    | true =>
      obtain ⟨s, hub, hmade, hfacts⟩ := hi.subscribe?_of_closed hcap hc scope
      exact ⟨s, hub, hmade, fun _ => hfacts⟩
    | false =>
      refine ⟨_, _, hi.tidy.subscribe?_eq (hi.capacity ▸ hcap) scope, fun hclose => ?_⟩
      rw [(hclosed actions).2 hclose] at hc
      cases hc

/-- Of four subscriptions the second is unsubscribed, and the receivers of the last two go away, but
only the third misses an event. -/
def threeGone : List Action :=
  [.subscribe ⟨"shop", "live"⟩, .subscribe ⟨"shop", "test"⟩, .subscribe ⟨"shop", "live"⟩, .drop 2,
    .broadcast ⟨"shop", "live"⟩ (.deleted "a"), .unsubscribe 1, .subscribe ⟨"shop", "live"⟩,
    .drop 3]

theorem registry_run_threeGone :
    Queue.canHave 1 = true ∧ Registry ((History.start 1).run threeGone) ∧
    ((History.start 1).run threeGone).hub.members ⟨"shop", "live"⟩ = [⟨1⟩, ⟨4⟩] ∧
    ((History.start 1).run threeGone).hub.stats = ⟨1, 2, 1, 0, 4⟩ := by
  have hcap : Queue.canHave 1 = true := by decide
  exact ⟨hcap, (registry_run 1 hcap threeGone).1, by rfl, by rfl⟩

end FeatureFlags.Hub
