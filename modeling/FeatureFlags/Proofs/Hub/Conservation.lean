import FeatureFlags.Proofs.Hub.Owner
import Mathlib.Algebra.BigOperators.Group.List.Basic
import Mathlib.Algebra.GroupWithZero.Nat

/-!
# Where the events go

A broadcast makes a copy of its event for every subscription that listens to the scope.  Each copy
is delivered or dropped, and what is delivered is received, waits, or is lost with its receiver.

* `Inv.fst_broadcast` says what a broadcast comes to: it is the number of listeners by whether their
  queues are full.
* `Accounts` compares a history with what the broadcasts up to then have come to.
  `Inv.accounts_step` is what an action does to it, and `Inv.accounts_run` is what a run does.
* `outcomes_account` is the main result: no copy is counted twice, and none goes missing.
-/

namespace FeatureFlags.Hub

variable {capacity : Nat} {h : History} {p : Subscriber}

/-! ## Deliveries -/

/-- Whether a subscription has a queue that is full, or has one that is not full. -/
def hasQueue (h : Hub) (full : Bool) (id : SubscriptionId) : Bool :=
  (h.queues.get? id).any fun queue => decide (Queue.places h.capacity ≤ queue.length) == full

theorem snd_deliver (h : Hub) (event : ChangeEvent) (id : SubscriptionId) :
    (h.deliver event id).2 =
      ⟨if h.hasQueue false id then 1 else 0, if h.hasQueue true id then 1 else 0⟩ := by
  rw [deliver, hasQueue, hasQueue]
  cases h.queues.get? id with
  | none => rfl
  | some queue =>
    by_cases hroom : queue.length < Queue.places h.capacity
    · simp [hroom]
    · simp [hroom, Nat.not_lt.1 hroom]

/-- Delivering an event to a subscription leaves the queues of the others. -/
theorem hasQueue_deliver_of_ne (h : Hub) (event : ChangeEvent) {id id' : SubscriptionId}
    (hne : id' ≠ id) (full : Bool) :
    (h.deliver event id).1.hasQueue full id' = h.hasQueue full id' := by
  rw [hasQueue, get?_queues_deliver, if_neg hne, hasQueue, deliver_eq]

/-- Each of the subscriptions that have a queue counts once. -/
theorem snd_deliverAll (h : Hub) (event : ChangeEvent) {ids : List SubscriptionId}
    (hn : ids.Nodup) :
    (h.deliverAll event ids).2 = ⟨ids.countP (h.hasQueue false), ids.countP (h.hasQueue true)⟩ := by
  induction ids generalizing h with
  | nil => rfl
  | cons first rest ih =>
    obtain ⟨hfirst, hrest⟩ := List.nodup_cons.1 hn
    have hothers : ∀ full, rest.countP ((h.deliver event first).1.hasQueue full) =
        rest.countP (h.hasQueue full) := by
      intro full
      refine List.countP_congr fun id hid => ?_
      rw [h.hasQueue_deliver_of_ne event (ne_of_mem_of_not_mem hid hfirst)]
    calc (h.deliverAll event (first :: rest)).2
        = (h.deliver event first).2.add ((h.deliver event first).1.deliverAll event rest).2 := rfl
      _ = ⟨(if h.hasQueue false first then 1 else 0) + rest.countP (h.hasQueue false),
            (if h.hasQueue true first then 1 else 0) + rest.countP (h.hasQueue true)⟩ := by
        rw [ih _ hrest, snd_deliver, hothers, hothers]
        rfl
      _ = ⟨(first :: rest).countP (h.hasQueue false),
            (first :: rest).countP (h.hasQueue true)⟩ := by
        rw [List.countP_cons, List.countP_cons, Nat.add_comm, Nat.add_comm (ite ..)]

/-- A broadcast comes to what its deliveries come to. -/
theorem fst_broadcast (h : Hub) {scope : Scope} (event : ChangeEvent)
    (hn : (h.members scope).Nodup) :
    (h.broadcast scope event).1 =
      ⟨(h.members scope).countP (h.hasQueue false),
        (h.members scope).countP (h.hasQueue true)⟩ := by
  rw [members] at hn ⊢
  rw [broadcast]
  cases he : h.registered.get? scope with
  | none => rfl
  | some entry =>
    rw [he] at hn
    exact snd_deliverAll _ event hn

/-- The counts that a broadcast adds to. -/
theorem Tidy.counts_broadcast {h : Hub} (ht : h.Tidy) (scope : Scope) (event : ChangeEvent) :
    (h.broadcast scope event).2.eventsBroadcast = h.eventsBroadcast + 1 ∧
    (h.broadcast scope event).2.eventsDropped =
      h.eventsDropped + (h.broadcast scope event).1.dropped := by
  rw [broadcast]
  cases he : h.registered.get? scope with
  | none => exact ⟨rfl, rfl⟩
  | some entry =>
    simp only
    rw [setMembers_eq _ _ (ht _ _ he).2, deliverAll_eq]
    exact ⟨rfl, rfl⟩

/-! ## Listeners -/

/-- The subscriptions that a broadcast to a scope finds: those that are registered there and whose
receivers are not gone. -/
def History.listeners (h : History) (scope : Scope) : List Subscriber :=
  h.subscribers.filter fun p =>
    p.scope == scope && h.hub.isRegistered p.subscription && !p.course.dropped

/-- The listeners of a scope are the subscriptions for it that are not over. -/
theorem Inv.listeners_eq (hi : Inv capacity h) (scope : Scope) :
    h.listeners scope = h.subscribers.filter fun p => p.scope == scope && !p.course.isOver := by
  refine List.filter_congr fun p hp => ?_
  rw [hi.isRegistered_eq hp, Course.isOver_eq (hi.forgotten p hp), Bool.not_not, Bool.and_assoc]

theorem Inv.hasQueue_eq (hi : Inv capacity h) (hp : p ∈ h.subscribers) (full : Bool) :
    h.hub.hasQueue full p.id = (!p.course.dropped && h.isFull p == full) := by
  rw [← hi.queues p hp, hasQueue, Table.contains, History.isFull, waiting,
    show p.subscription.id = p.id from rfl]
  cases h.hub.queues.get? p.id with
  | none => rfl
  | some queue => rfl

theorem Inv.countP_members (hi : Inv capacity h) (scope : Scope) (full : Bool) :
    (h.hub.members scope).countP (h.hub.hasQueue full) =
      (h.listeners scope).countP (h.isFull · == full) := by
  rw [hi.members, List.countP_map, List.countP_filter, History.listeners, List.countP_filter]
  refine List.countP_congr fun p hp => ?_
  rw [Function.comp, hi.hasQueue_eq hp, hi.isRegistered_eq hp, Subscriber.standsIn]
  ac_nf

/-- A broadcast comes to the listeners of the scope whose queues are not full and to those whose
queues are full. -/
theorem Inv.fst_broadcast (hi : Inv capacity h) (scope : Scope) (event : ChangeEvent) :
    (h.hub.broadcast scope event).1 =
      ⟨(h.listeners scope).countP (!h.isFull ·), (h.listeners scope).countP (h.isFull ·)⟩ := by
  rw [Hub.fst_broadcast _ event (hi.nodup_members scope), hi.countP_members, hi.countP_members]
  simp only [beq_false, beq_true]

/-! ## Accounts -/

/-- Whether an action is a broadcast. -/
def Action.isBroadcast : Action → Bool
  | .broadcast _ _ => true
  | .subscribe _ | .receive _ | .await _ | .unsubscribe _ | .drop _ | .close => false

namespace History

/-- What an action comes to if it is a broadcast. -/
def outcome? (h : History) : Action → Option BroadcastOutcome
  | .broadcast scope event => some (h.hub.broadcast scope event).1
  | .subscribe _ | .receive _ | .await _ | .unsubscribe _ | .drop _ | .close => none

/-- What the broadcasts of a run come to. -/
def outcomes (h : History) : List Action → List BroadcastOutcome
  | [] => []
  | a :: rest => (h.outcome? a).toList ++ (h.step a).outcomes rest

/-- Every broadcast comes to something. -/
theorem length_outcomes (h : History) (actions : List Action) :
    (h.outcomes actions).length = actions.countP (·.isBroadcast) := by
  induction actions generalizing h with
  | nil => rfl
  | cons a rest ih =>
    rw [outcomes, List.length_append, ih, List.countP_cons, Nat.add_comm]
    cases a <;> rfl

theorem outcomes_append (h : History) (first second : List Action) :
    h.outcomes (first ++ second) = h.outcomes first ++ (h.run first).outcomes second := by
  induction first generalizing h with
  | nil => rfl
  | cons a rest ih => rw [List.cons_append, outcomes, outcomes, ih, run_cons, List.append_assoc]

end History

/-- The number of events that found a place in a queue. -/
def History.accepted (h : History) : Nat := (h.subscribers.map (·.course.accepted.length)).sum

/-- A history goes with what the broadcasts have come to. -/
structure Accounts (h : History) (sent : List BroadcastOutcome) : Prop where
  eventsBroadcast : h.hub.eventsBroadcast = sent.length
  eventsDropped : h.hub.eventsDropped = (sent.map (·.dropped)).sum
  /-- The events that were delivered are those that found a place. -/
  accepted : h.accepted = (sent.map (·.delivered)).sum

theorem accounts_start (capacity : Nat) : Accounts (.start capacity) [] := ⟨rfl, rfl, rfl⟩

/-- An action that is not a broadcast changes nothing of this. -/
theorem Accounts.of_eq {h' : History} {sent : List BroadcastOutcome} (ha : Accounts h sent)
    (hbroadcast : h'.hub.eventsBroadcast = h.hub.eventsBroadcast)
    (hdropped : h'.hub.eventsDropped = h.hub.eventsDropped)
    (haccepted : h'.accepted = h.accepted) : Accounts h' sent :=
  ⟨hbroadcast.trans ha.eventsBroadcast, hdropped.trans ha.eventsDropped,
    haccepted.trans ha.accepted⟩

/-- The owner of a subscription has no part in what is sent. -/
theorem Inv.accounts_own (hi : Inv capacity h) {sent : List BroadcastOutcome} (ha : Accounts h sent)
    (place : Nat) {act : Subscriber → Hub × Course} (hhub : ∀ p, Untouched p.id h.hub (act p).1)
    (hcourse : ∀ p, (act p).2.accepted = p.course.accepted) : Accounts (h.own place act) sent := by
  rcases h.own_cases place act with he | ⟨p, hp, _, he⟩
  · rw [he]
    exact ha
  · rw [he, hi.set_eq_map hp]
    refine ha.of_eq (hhub p).eventsBroadcast (hhub p).eventsDropped ?_
    rw [History.accepted, List.map_map]
    refine congrArg List.sum (List.map_congr_left fun q hq => ?_)
    rw [Function.comp]
    split
    · next hid => rw [hcourse, hi.eq_of_id_eq hq (List.mem_of_getElem? hp) hid]
    · rfl

theorem sum_map_add_ite {α : Type} (l : List α) (f : α → Nat) (c : α → Bool) :
    (l.map fun a => f a + if c a then 1 else 0).sum = (l.map f).sum + l.countP c := by
  induction l with
  | nil => rfl
  | cons a rest ih =>
    rw [List.map_cons, List.sum_cons, ih, List.map_cons, List.sum_cons, List.countP_cons]
    omega

/-- An event finds a place if and only if the subscription listens and its queue is not full. -/
theorem History.length_accepted_told (h : History) (scope : Scope) (event : ChangeEvent)
    (p : Subscriber) :
    (h.told scope event p).course.accepted.length =
      p.course.accepted.length +
        if !h.isFull p && (p.scope == scope && !p.course.isOver) then 1 else 0 := by
  by_cases hs : p.scope = scope
  · rw [h.told_of_eq event hs, Course.accepted_offer]
    cases p.course.isOver with
    | true => simp
    | false =>
      cases h.isFull p with
      | true => simp
      | false => simp [hs]
  · rw [h.told_of_ne event hs]
    simp [hs]

/-- As many events find a place as are delivered. -/
theorem Inv.accepted_broadcast (hi : Inv capacity h) (scope : Scope) (event : ChangeEvent) :
    (h.broadcast scope event).accepted =
      h.accepted + (h.hub.broadcast scope event).1.delivered := by
  have htold : (h.subscribers.map (h.told scope event)).map (·.course.accepted.length) =
      h.subscribers.map fun p => p.course.accepted.length +
        if !h.isFull p && (p.scope == scope && !p.course.isOver) then 1 else 0 := by
    rw [List.map_map]
    exact List.map_congr_left fun p _ => h.length_accepted_told scope event p
  rw [History.accepted, History.broadcast, htold, sum_map_add_ite, hi.fst_broadcast,
    hi.listeners_eq, List.countP_filter]
  rfl

theorem Inv.accounts_broadcast (hi : Inv capacity h) {sent : List BroadcastOutcome}
    (ha : Accounts h sent) (scope : Scope) (event : ChangeEvent) :
    Accounts (h.broadcast scope event) (sent ++ [(h.hub.broadcast scope event).1]) := by
  obtain ⟨hbroadcast, hdropped⟩ := hi.tidy.counts_broadcast scope event
  refine ⟨?_, ?_, ?_⟩
  · rw [List.length_append, ← ha.eventsBroadcast]
    exact hbroadcast
  · rw [List.map_append, List.sum_append, ← ha.eventsDropped, List.map_singleton,
      List.sum_singleton]
    exact hdropped
  · rw [List.map_append, List.sum_append, ← ha.accepted, List.map_singleton, List.sum_singleton]
    exact hi.accepted_broadcast scope event

/-- A new subscription has got nothing. -/
theorem Inv.accounts_subscribe (hi : Inv capacity h) {sent : List BroadcastOutcome}
    (ha : Accounts h sent) (scope : Scope) : Accounts (h.subscribe scope) sent := by
  cases hcap : Queue.canHave h.hub.capacity with
  | false =>
    rw [History.subscribe_of_not_canHave hcap]
    exact ha
  | true =>
    rw [History.subscribe_eq hi.tidy hcap, withSubscription_eq]
    refine ha.of_eq rfl rfl ?_
    rw [History.accepted, List.map_append, List.sum_append]
    rfl

/-- The accounts go on with what an action comes to. -/
theorem Inv.accounts_step (hi : Inv capacity h) {sent : List BroadcastOutcome}
    (ha : Accounts h sent) (a : Action) : Accounts (h.step a) (sent ++ (h.outcome? a).toList) := by
  have hsame : ∀ {h'}, Accounts h' sent → Accounts h' (sent ++ []) := fun ha' =>
    (List.append_nil sent).symm ▸ ha'
  have hawait : ∀ place, Accounts (h.step (.await place)) sent := fun place =>
    hi.accounts_own ha place (fun p => .await h.hub p.subscription) fun _ => rfl
  cases a with
  | subscribe scope => exact hsame (hi.accounts_subscribe ha scope)
  | broadcast scope event => exact hi.accounts_broadcast ha scope event
  | receive place =>
    rw [← History.step_await]
    exact hsame (hawait place)
  | await place => exact hsame (hawait place)
  | unsubscribe place =>
    exact hsame (hi.accounts_own ha place (fun p => .unsubscribe hi.tidy p.subscription)
      fun _ => rfl)
  | drop place =>
    exact hsame (hi.accounts_own ha place (fun p => .dropReceiver h.hub p.subscription)
      fun _ => rfl)
  | close =>
    refine hsame (ha.of_eq rfl rfl ?_)
    rw [History.step, History.close, History.accepted, List.map_map]
    rfl

theorem Inv.accounts_run (hi : Inv capacity h) {sent : List BroadcastOutcome} (ha : Accounts h sent)
    (actions : List Action) : Accounts (h.run actions) (sent ++ h.outcomes actions) := by
  induction actions generalizing h sent with
  | nil =>
    rw [History.outcomes, List.append_nil]
    exact ha
  | cons a rest ih =>
    rw [History.outcomes, ← List.append_assoc]
    exact ih (hi.step a) (hi.accounts_step ha a)

/-! ## Main result -/

/-- The events that found a place have been received, wait, or are lost. -/
theorem History.accepted_eq
    (hs : ∀ p ∈ h.subscribers, (h.feed p).Sound (Queue.places capacity)) :
    h.accepted =
      (h.subscribers.map (·.course.received.length)).sum +
      (h.subscribers.map fun p => (h.hub.waiting p.subscription).length).sum +
      (h.subscribers.map (·.course.lost.length)).sum := by
  rw [← List.sum_map_add, ← List.sum_map_add, accepted]
  refine congrArg List.sum (List.map_congr_left fun p hp => ?_)
  have hbalance := congrArg List.length (hs p hp).balance
  rw [List.length_append, List.length_append] at hbalance
  exact hbalance.symm

/-- In every run each broadcast is counted, and comes to one copy of its event for each listener of
its scope, dropped if the queue is full and delivered if not.  The dropped copies are counted, and
those that were delivered have been received, still wait, or were lost with their receivers. -/
theorem outcomes_account (capacity : Nat) (actions : List Action) :
    let h := (History.start capacity).run actions
    let sent := (History.start capacity).outcomes actions
    (∀ scope event,
      let outcome := (h.hub.broadcast scope event).1
      (History.start capacity).outcomes (actions ++ [.broadcast scope event]) = sent ++ [outcome] ∧
      outcome.delivered + outcome.dropped = (h.listeners scope).length ∧
      outcome.dropped = (h.listeners scope).countP (h.isFull ·)) ∧
    h.hub.stats.eventsBroadcast = actions.countP (·.isBroadcast) ∧
    h.hub.stats.eventsDropped = (sent.map (·.dropped)).sum ∧
    (sent.map (·.delivered)).sum =
      (h.subscribers.map (·.course.received.length)).sum +
      (h.subscribers.map fun p => (h.hub.waiting p.subscription).length).sum +
      (h.subscribers.map (·.course.lost.length)).sum := by
  intro h sent
  have hi : Inv capacity h := inv_run capacity actions
  have haccounts : Accounts h sent := (inv_start capacity).accounts_run (accounts_start capacity) _
  have hsound := (inv_start capacity).sound_feed_run nofun actions
  refine ⟨fun scope event => ⟨?next, ?copies, ?dropped⟩, ?broadcasts, haccounts.eventsDropped,
    ?delivered⟩
  case next =>
    rw [History.outcomes_append]
    rfl
  case copies =>
    rw [hi.fst_broadcast, Nat.add_comm, List.length_eq_countP_add_countP h.isFull]
    simp
  case dropped => rw [hi.fst_broadcast]
  case broadcasts => exact haccounts.eventsBroadcast.trans (History.length_outcomes _ actions)
  case delivered => exact haccounts.accepted.symm.trans (History.accepted_eq hsound)

/-- Of two subscribers one takes the first event and then misses the third, while the other misses
the second and goes away with the first. -/
example : (History.start 1).outcomes
    [.subscribe ⟨"shop", "live"⟩, .subscribe ⟨"shop", "live"⟩,
      .broadcast ⟨"shop", "live"⟩ (.deleted "a"), .receive 0,
      .broadcast ⟨"shop", "live"⟩ (.deleted "b"), .drop 1,
      .broadcast ⟨"shop", "live"⟩ (.deleted "c"), .close,
      .broadcast ⟨"shop", "live"⟩ (.deleted "d")] =
    [⟨2, 0⟩, ⟨1, 1⟩, ⟨0, 1⟩, ⟨0, 0⟩] := by
  rfl

end FeatureFlags.Hub
