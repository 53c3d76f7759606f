import FeatureFlags.Proofs.Hub.Delivery

/-!
# Owners of subscriptions

What the owner of a subscription does, and what comes to the subscription from outside.

* `Untouched` is how far a hub stays as it is when an owner does something, and
  `History.getElem?_run_of_owner` says that the other subscriptions stay as they are.
* `Feed.Follows` is what a subscription keeps when somebody else does something.
* `endsWithHub_run`: the owner apart, only the end of the hub ends a subscription.
-/

namespace FeatureFlags.Hub

variable {capacity : Nat} {id : SubscriptionId} {s : Subscription}

/-! ## Hubs but for one subscription -/

/-- A hub as it was, but for the registration and the queue of one subscription. -/
structure Untouched (id : SubscriptionId) (h h' : Hub) : Prop where
  capacity : h'.capacity = h.capacity
  closed : h'.closed = h.closed
  nextNumber : h'.nextNumber = h.nextNumber
  /-- The other registrations stand, in their order. -/
  members : ∀ scope, (h'.members scope).filter (· != id) = (h.members scope).filter (· != id)
  queues : ∀ other, other ≠ id → h'.queues.get? other = h.queues.get? other
  eventsBroadcast : h'.eventsBroadcast = h.eventsBroadcast
  eventsDropped : h'.eventsDropped = h.eventsDropped
  totalSubscriptions : h'.totalSubscriptions = h.totalSubscriptions

namespace Untouched

variable {h h' h'' : Hub}

theorem refl (id : SubscriptionId) (h : Hub) : Untouched id h h :=
  ⟨rfl, rfl, rfl, fun _ => rfl, fun _ _ => rfl, rfl, rfl, rfl⟩

theorem trans (hh' : Untouched id h h') (hh'' : Untouched id h' h'') : Untouched id h h'' where
  capacity := hh''.capacity.trans hh'.capacity
  closed := hh''.closed.trans hh'.closed
  nextNumber := hh''.nextNumber.trans hh'.nextNumber
  members scope := (hh''.members scope).trans (hh'.members scope)
  queues other hne := (hh''.queues other hne).trans (hh'.queues other hne)
  eventsBroadcast := hh''.eventsBroadcast.trans hh'.eventsBroadcast
  eventsDropped := hh''.eventsDropped.trans hh'.eventsDropped
  totalSubscriptions := hh''.totalSubscriptions.trans hh'.totalSubscriptions

theorem unsubscribe (ht : h.Tidy) (s : Subscription) : Untouched s.id h (h.unsubscribe s) := by
  rw [ht.unsubscribe_eq]
  refine ⟨rfl, rfl, rfl, fun scope => ?_, fun _ _ => rfl, rfl, rfl, rfl⟩
  rw [members_withMembers]
  split
  · next hscope =>
    rw [hscope, List.filter_filter]
    simp only [Bool.and_self]
  · rfl

theorem dropReceiver (h : Hub) (s : Subscription) : Untouched s.id h (h.dropReceiver s) :=
  ⟨rfl, rfl, rfl, fun _ => rfl, fun _ hne => Table.get?_erase_of_ne _ hne, rfl, rfl, rfl⟩

theorem await (h : Hub) (s : Subscription) : Untouched s.id h (h.await s).2 := by
  rw [snd_await, receive_eq]
  refine ⟨rfl, rfl, rfl, fun _ => rfl, fun other hne => ?_, rfl, rfl, rfl⟩
  exact (get?_queues_receive h s other).trans (if_neg hne)

end Untouched

/-- Waiting that ends has taken nothing. -/
theorem await_of_ended {h : Hub} (hended : (h.await s).1 = .ended) : h.await s = (.ended, h) := by
  rw [await] at hended ⊢
  split at hended
  · cases hended
  · next hub hreceive =>
    have hsame : h.receive s = (none, h) := by
      rw [receive] at hreceive ⊢
      split at hreceive
      · cases hreceive
      · rfl
    obtain rfl := (Prod.mk.inj (hsame.symm.trans hreceive)).2
    exact congrArg (·, h) hended

/-- An event that has been waited for was the oldest in the queue. -/
theorem head?_waiting_of_await {h : Hub} {e : ChangeEvent} (hevent : (h.await s).1 = .event e) :
    (h.waiting s).head? = some e := by
  rw [fst_await] at hevent
  cases hwaiting : (h.waiting s).head? with
  | some event =>
    rw [hwaiting] at hevent
    rw [Awaited.event.inj hevent]
  | none =>
    rw [hwaiting] at hevent
    dsimp only at hevent
    split at hevent <;> cases hevent

/-- Waiting ends when the subscription is over and nothing is left in the queue. -/
theorem Inv.isOver_of_await_ended {h : History} (hi : Inv capacity h) {p : Subscriber}
    (hp : p ∈ h.subscribers) (hd : p.course.dropped = false)
    (hended : (h.hub.await p.subscription).1 = .ended) :
    p.course.isOver = true ∧ h.hub.waiting p.subscription = [] := by
  rw [hi.await_eq hp hd] at hended
  cases hwaiting : h.hub.waiting p.subscription with
  | cons event rest =>
    rw [hwaiting] at hended
    cases hended
  | nil =>
    rw [hwaiting] at hended
    cases ho : p.course.isOver with
    | true => exact ⟨rfl, rfl⟩
    | false =>
      rw [ho] at hended
      cases hended

/-! ## The other subscriptions -/

/-- The place of the subscription whose owner acts. -/
def Action.owner? : Action → Option Nat
  | .receive place | .await place | .unsubscribe place | .drop place => some place
  | .subscribe _ | .broadcast _ _ | .close => none

namespace History

variable {h : History} {place place' : Nat}

theorem getElem?_own_of_ne (act : Subscriber → Hub × Course) (hne : place' ≠ place) :
    (h.own place act).subscribers[place']? = h.subscribers[place']? := by
  rcases h.own_cases place act with he | ⟨p, _, _, he⟩
  · rw [he]
  · rw [he]
    exact List.getElem?_set_ne hne.symm

theorem length_own (act : Subscriber → Hub × Course) :
    (h.own place act).subscribers.length = h.subscribers.length := by
  rcases h.own_cases place act with he | ⟨p, _, _, he⟩
  · rw [he]
  · rw [he]
    exact List.length_set

theorem getElem?_step_of_owner {a : Action} (ha : a.owner? = some place) (hne : place' ≠ place) :
    (h.step a).subscribers[place']? = h.subscribers[place']? := by
  cases a with
  | receive | await | unsubscribe | drop =>
    obtain rfl := Option.some.inj ha
    exact getElem?_own_of_ne _ hne
  | subscribe | broadcast | close => cases ha

/-- Owners do nothing to the subscriptions of others. -/
theorem getElem?_run_of_owner {actions : List Action} (ha : ∀ a ∈ actions, a.owner? = some place)
    (hne : place' ≠ place) :
    (h.run actions).subscribers[place']? = h.subscribers[place']? := by
  induction actions generalizing h with
  | nil => rfl
  | cons a rest ih =>
    obtain ⟨hfirst, hrest⟩ := List.forall_mem_cons.1 ha
    exact (ih hrest).trans (getElem?_step_of_owner hfirst hne)

variable {p : Subscriber}

/-- An owner waits for an event. -/
theorem hub_step_await (hp : h.subscribers[place]? = some p) (hd : p.course.dropped = false) :
    (h.step (.await place)).hub = (h.hub.await p.subscription).2 := by
  rw [step, own_of_not_dropped hp hd]

/-- An owner gives the subscription up and goes away. -/
theorem hub_run_unsubscribe_drop (hp : h.subscribers[place]? = some p)
    (hd : p.course.dropped = false) :
    (h.run [.unsubscribe place, .drop place]).hub =
      (h.hub.unsubscribe p.subscription).dropReceiver p.subscription := by
  have hleft : (h.subscribers.set place { p with course := p.course.unsubscribe })[place]? =
      some { p with course := p.course.unsubscribe } :=
    List.getElem?_set_self (List.getElem?_eq_some_iff.1 hp).1
  rw [run_cons, run_cons, run_nil, step, own_of_not_dropped hp hd, step,
    own_of_not_dropped (p := { p with course := p.course.unsubscribe }) hleft hd]

end History

/-! ## What comes from outside -/

/-- What is not done by its owner comes to a subscription from outside. -/
theorem Action.isOwn_of_concern? {a : Action} {place : Nat} {scope : Scope} {x : Happening}
    (ha : a.owner? ≠ some place) (hx : a.concern? place scope = some x) : x.isOwn = false := by
  rcases concern?_cases hx with ⟨event, rfl, rfl⟩ | ⟨rfl | rfl, rfl⟩ | ⟨rfl, rfl⟩ | ⟨rfl, rfl⟩ |
    ⟨rfl, rfl⟩
  · rfl
  · exact absurd rfl ha
  · exact absurd rfl ha
  · exact absurd rfl ha
  · exact absurd rfl ha
  · rfl

/-- What a feed keeps as long as its owner does nothing. -/
structure Feed.Follows (f f' : Feed) : Prop where
  received : f'.course.received = f.course.received
  dropped : f'.course.dropped = f.course.dropped
  unsubscribed : f'.course.unsubscribed = f.course.unsubscribed
  /-- Once the feed is over no more events find a place. -/
  accepted : f.course.isOver = true → f'.course.accepted = f.course.accepted

theorem Feed.follows_meet (places : Nat) (f : Feed) {x? : Option Happening}
    (hx : ∀ x, x? = some x → x.isOwn = false) : f.Follows (f.meet places x?) := by
  cases x? with
  | none => exact ⟨rfl, rfl, rfl, fun _ => rfl⟩
  | some x =>
    cases x with
    | offer event =>
      refine ⟨?_, Course.dropped_offer, Course.unsubscribed_offer, fun ho => ?_⟩
      · simp only [meet, step, Course.offer]
        split <;> rfl
      · simp only [meet, step, Course.accepted_offer, ho, Bool.true_or, if_true]
    | close => exact ⟨rfl, rfl, rfl, fun _ => rfl⟩
    | take | unsubscribe | drop => cases hx _ rfl

theorem Feed.Sound.meet {places : Nat} {f : Feed} (hf : f.Sound places) (x? : Option Happening) :
    (f.meet places x?).Sound places := by
  cases x? with
  | none => exact hf
  | some x => exact hf.step x

theorem Feed.run_unsubscribe_drop {f : Feed} (places : Nat) (hd : f.course.dropped = false) :
    f.run places [.unsubscribe, .drop] = ⟨f.course.unsubscribe.drop f.queue, []⟩ := by
  have hd' : f.course.unsubscribe.dropped = false := hd
  simp only [run_cons, run_nil, step, hd, hd', Bool.false_eq_true, if_false]

/-! ## Every subscription -/

theorem History.length_step {h : History} {a : Action} (ha : a.subscribed? = none) :
    (h.step a).subscribers.length = h.subscribers.length := by
  cases a with
  | subscribe scope => cases ha
  | broadcast | close => exact List.length_map _
  | receive | await | unsubscribe | drop => exact length_own _

/-- A subscription that was not there before has met nothing yet. -/
theorem Inv.feed_new {h : History} (hi : Inv capacity h) {a : Action} {place : Nat} {q : Subscriber}
    (hq : (h.step a).subscribers[place]? = some q) (hnew : h.subscribers[place]? = none) :
    (h.step a).feed q = .start h.hub.closed := by
  have hle : h.subscribers.length ≤ place := List.getElem?_eq_none_iff.1 hnew
  cases a with
  | subscribe scope =>
    cases hcap : Queue.canHave h.hub.capacity with
    | false =>
      rw [History.step, History.subscribe_of_not_canHave hcap, hnew] at hq
      cases hq
    | true =>
      rw [History.step, History.subscribe_eq hi.tidy hcap] at hq ⊢
      rw [List.getElem?_append_right hle] at hq
      obtain rfl := List.mem_singleton.1 (List.mem_of_getElem? hq)
      rw [History.feed, waiting, withSubscription_eq, Table.get?_insert_self]
      rfl
  | broadcast | receive | await | unsubscribe | drop | close =>
    have hlt := (List.getElem?_eq_some_iff.1 hq).1
    rw [History.length_step rfl] at hlt
    exact absurd hlt (Nat.not_lt.2 hle)

/-- After an action a subscription is new, or has met what the action means to it. -/
theorem Inv.feed_cases {h : History} (hi : Inv capacity h) {a : Action} {q : Subscriber}
    (hq : q ∈ (h.step a).subscribers) :
    (h.step a).feed q = .start h.hub.closed ∨
    ∃ p ∈ h.subscribers, ∃ place, (h.step a).feed q =
      (h.feed p).meet (Queue.places capacity) (a.concern? place p.scope) := by
  obtain ⟨place, hq⟩ := List.getElem?_of_mem hq
  cases hp : h.subscribers[place]? with
  | none => exact .inl (hi.feed_new hq hp)
  | some p =>
    obtain ⟨q', hq', _, hfeed⟩ := hi.feed_step hp a
    obtain rfl := Option.some.inj (hq'.symm.trans hq)
    exact .inr ⟨p, List.mem_of_getElem? hp, place, hfeed⟩

/-- The queue of every subscription goes with what it has met. -/
theorem Inv.sound_feed_run {h : History} (hi : Inv capacity h)
    (hs : ∀ p ∈ h.subscribers, (h.feed p).Sound (Queue.places capacity)) (actions : List Action) :
    ∀ q ∈ (h.run actions).subscribers,
      ((h.run actions).feed q).Sound (Queue.places capacity) := by
  induction actions generalizing h with
  | nil => exact hs
  | cons a rest ih =>
    refine ih (hi.step a) fun q hq => ?_
    rcases hi.feed_cases hq with hnew | ⟨p, hp, place, hmet⟩
    · rw [hnew]
      exact Feed.sound_start _
    · rw [hmet]
      exact (hs p hp).meet _

/-! ## Ends -/

/-- Whether a subscription that is late or closed means that the hub is closed. -/
def History.EndsWithHub (h : History) : Prop :=
  ∀ p ∈ h.subscribers, p.course.late = true ∨ p.course.closed = true → h.hub.closed = true

/-- Nothing but the end of the hub makes a feed late or closed. -/
theorem Feed.late_or_closed_meet (places : Nat) (f : Feed) {x? : Option Happening}
    (hx : x? ≠ some .close) :
    (f.meet places x?).course.late = true ∨ (f.meet places x?).course.closed = true ↔
      f.course.late = true ∨ f.course.closed = true := by
  cases x? with
  | none => rfl
  | some x =>
    have hclosed := (marks_step places f x).1.trans (or_iff_left fun h => hx (congrArg some h))
    rw [meet, late_step, hclosed]

theorem Inv.endsWithHub_step {h : History} (hi : Inv capacity h) (he : h.EndsWithHub) (a : Action) :
    (h.step a).EndsWithHub := by
  intro q hq hends
  rw [hi.closed_step]
  rcases hi.feed_cases hq with hnew | ⟨p, hp, place, hmet⟩
  · rw [show q.course = .start h.hub.closed from congrArg Feed.course hnew] at hends
    exact .inl (hends.resolve_right Bool.false_ne_true)
  · by_cases hclose : a = .close
    · exact .inr hclose
    · have hconcern : a.concern? place p.scope ≠ some .close := fun hx =>
        hclose (by simpa using Action.concern?_cases hx)
      rw [show q.course = _ from congrArg Feed.course hmet,
        Feed.late_or_closed_meet _ _ hconcern] at hends
      exact .inl (he p hp hends)

theorem Inv.endsWithHub_run {h : History} (hi : Inv capacity h) (he : h.EndsWithHub)
    (actions : List Action) : (h.run actions).EndsWithHub := by
  induction actions generalizing h with
  | nil => exact he
  | cons a rest ih => exact ih (hi.step a) (hi.endsWithHub_step he a)

/-- Only the end of the hub makes subscriptions late or closed. -/
theorem endsWithHub_run (capacity : Nat) (actions : List Action) :
    ((History.start capacity).run actions).EndsWithHub :=
  (inv_start capacity).endsWithHub_run nofun actions

end FeatureFlags.Hub
