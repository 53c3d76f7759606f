import FeatureFlags.Proofs.Hub.Invariant

/-!
# What a subscription gets

A subscription fares as it would by itself: what the hub does for the others, and what happens in
other scopes, does not matter to it (`Inv.feed_step`, `Inv.feed_run`).  All that can be said about
its events is said about its feed.

`delivers_offered` is the main result.  A subscription gets the events that are broadcast to its
scope from the time when it is made until it is over, in their order, less those that have found its
queue full and those that still waited when its receiver was dropped.  An event of the last kind is
in `dropped_receiver_loses_waiting`.
-/

namespace FeatureFlags.Hub

variable {capacity : Nat} {h : History} {scope : Scope} {p : Subscriber} {place : Nat}

/-! ## A subscription by itself -/

namespace Inv

/-- The subscription at a place after the owner of some subscription has done something. -/
theorem feed_own (hi : Inv capacity h) (hp : h.subscribers[place]? = some p) (place' : Nat)
    {act : Subscriber → Hub × Course} {x : Happening}
    (hx : x.isOwn = true)
    (hself : p.course.dropped = false →
      (⟨(act p).2, (act p).1.waiting p.subscription⟩ : Feed) =
        (h.feed p).step (Queue.places capacity) x)
    (hother : ∀ q ∈ h.subscribers, q.id ≠ p.id →
      (act q).1.waiting p.subscription = h.hub.waiting p.subscription) :
    ∃ q, (h.own place' act).subscribers[place]? = some q ∧ q.subscription = p.subscription ∧
      (h.own place' act).feed q =
        (h.feed p).meet (Queue.places capacity) (if place' = place then some x else none) := by
  by_cases hplace : place' = place
  · -- It is the owner of the subscription itself who acts.
    subst hplace
    rw [if_pos rfl]
    cases hd : p.course.dropped with
    | true =>
      rw [History.own_of_dropped hp hd]
      exact ⟨p, hp, rfl, (Feed.step_of_dropped _ hd hx).symm⟩
    | false =>
      rw [History.own_of_not_dropped hp hd]
      refine ⟨_, List.getElem?_set_self (List.getElem?_eq_some_iff.1 hp).1, rfl, ?_⟩
      exact hself hd
  · -- Whoever acts, it is on another queue.
    rw [if_neg hplace]
    rcases h.own_cases place' act with he | ⟨q, hq, _, he⟩
    · rw [he]
      exact ⟨p, hp, rfl, rfl⟩
    · have hne : q.id ≠ p.id := fun hid => hplace (hi.place_eq_of_id_eq hq hp hid)
      rw [he]
      refine ⟨p, (List.getElem?_set_ne hplace).trans hp, rfl, ?_⟩
      rw [History.feed, hother q (List.mem_of_getElem? hq) hne]
      rfl

theorem feed_subscribe (hi : Inv capacity h) (hp : h.subscribers[place]? = some p)
    (scope : Scope) : ∃ q, (h.subscribe scope).subscribers[place]? = some q ∧
      q.subscription = p.subscription ∧ (h.subscribe scope).feed q = h.feed p := by
  cases hcap : Queue.canHave h.hub.capacity with
  | false =>
    rw [History.subscribe_of_not_canHave hcap]
    exact ⟨p, hp, rfl, rfl⟩
  | true =>
    have hlt : place < h.subscribers.length := (List.getElem?_eq_some_iff.1 hp).1
    have hqueue : (h.hub.queues.insert ⟨h.hub.nextNumber⟩ []).get? p.id = h.hub.queues.get? p.id :=
      Table.get?_insert_of_ne _ (hi.id_ne_next (List.mem_of_getElem? hp)) _
    rw [History.subscribe_eq hi.tidy hcap]
    refine ⟨p, (List.getElem?_append_left hlt).trans hp, rfl, ?_⟩
    rw [History.feed, waiting, withSubscription_eq, show p.subscription.id = p.id from rfl, hqueue]
    rfl

/-- A broadcast finds the subscriptions for its scope that are not over. -/
theorem reached_iff (hi : Inv capacity h) (hp : p ∈ h.subscribers) (scope : Scope) :
    p.subscription.id ∈ h.hub.members scope ∧ h.hub.queues.contains p.subscription.id = true ↔
      p.scope = scope ∧ p.course.isOver = false := by
  have hqueue : h.hub.queues.contains p.subscription.id = !p.course.dropped := hi.queues p hp
  rw [show p.subscription.id = p.id from rfl] at hqueue ⊢
  rw [hi.mem_members_iff hp scope, hqueue, Subscriber.standsIn,
    Course.isOver_eq (hi.forgotten p hp)]
  simp [and_assoc]

/-- A broadcast to the scope of a subscription reaches it unless it is over. -/
theorem feed_broadcast (hi : Inv capacity h) (hp : h.subscribers[place]? = some p) (scope : Scope)
    (event : ChangeEvent) : ∃ q, (h.broadcast scope event).subscribers[place]? = some q ∧
      q.subscription = p.subscription ∧ (h.broadcast scope event).feed q =
        (h.feed p).meet (Queue.places capacity)
          (if scope = p.scope then some (.offer event) else none) := by
  have hreached := hi.reached_iff (List.mem_of_getElem? hp) scope
  refine ⟨h.told scope event p, ?_, ?_, ?_⟩
  · rw [History.broadcast, List.getElem?_map, hp]
    rfl
  · rw [History.told]
    split <;> rfl
  · obtain rfl := hi.capacity
    rw [History.broadcast, History.feed,
      hi.tidy.waiting_broadcast scope event (hi.nodup_members scope)]
    by_cases hs : p.scope = scope
    · rw [if_pos hs.symm, h.told_of_eq event hs, Feed.meet, Feed.step,
        show (h.feed p).course.isOver = p.course.isOver from rfl]
      cases ho : p.course.isOver with
      | true =>
        rw [if_neg fun h => Bool.false_ne_true ((hreached.1 h).2.symm.trans ho)]
        rfl
      | false =>
        rw [if_pos (hreached.2 ⟨hs, ho⟩)]
        rfl
    · rw [if_neg (Ne.symm hs), h.told_of_ne event hs, if_neg fun h => hs (hreached.1 h).1]
      rfl

/-- An action does to the subscription at a place what it means to it. -/
theorem feed_step (hi : Inv capacity h) (hp : h.subscribers[place]? = some p) (a : Action) :
    ∃ q, (h.step a).subscribers[place]? = some q ∧ q.subscription = p.subscription ∧
      (h.step a).feed q =
        (h.feed p).meet (Queue.places capacity) (a.concern? place p.scope) := by
  have hreceive : ∀ place', ∃ q, (h.step (.receive place')).subscribers[place]? = some q ∧
      q.subscription = p.subscription ∧ (h.step (.receive place')).feed q =
        (h.feed p).meet (Queue.places capacity) (if place' = place then some .take else none) := by
    intro place'
    refine hi.feed_own hp place' rfl (fun hd => ?_) fun q _ hne => ?_
    · simp only [Feed.step, History.feed, hd, Bool.false_eq_true, if_false, fst_receive,
        waiting_receive, if_true]
    · exact (waiting_receive _ _ _).trans (if_neg (Ne.symm hne))
  cases a with
  | subscribe scope => exact hi.feed_subscribe hp scope
  | broadcast scope event => exact hi.feed_broadcast hp scope event
  | receive place' => exact hreceive place'
  | await place' =>
    rw [History.step_await]
    exact hreceive place'
  | unsubscribe place' =>
    refine hi.feed_own hp place' rfl (fun hd => ?_) fun q _ _ => ?_
    · simp only [Feed.step, History.feed, hd, Bool.false_eq_true, if_false, hi.tidy.unsubscribe_eq]
      rfl
    · simp only [hi.tidy.unsubscribe_eq]
      rfl
  | drop place' =>
    refine hi.feed_own hp place' rfl (fun hd => ?_) fun q _ hne => ?_
    · simp only [Feed.step, History.feed, hd, Bool.false_eq_true, if_false, waiting_dropReceiver,
        if_true]
    · exact (waiting_dropReceiver _ _ _).trans (if_neg (Ne.symm hne))
  | close =>
    refine ⟨{ p with course := p.course.close }, ?_, rfl, rfl⟩
    rw [History.step, History.close, List.getElem?_map, hp]
    rfl

/-- A run does to the subscription at a place what those actions do that concern it. -/
theorem feed_run (hi : Inv capacity h) (hp : h.subscribers[place]? = some p)
    (actions : List Action) :
    ∃ q, (h.run actions).subscribers[place]? = some q ∧ q.subscription = p.subscription ∧
      (h.run actions).feed q =
        (h.feed p).run (Queue.places capacity) (actions.filterMap (·.concern? place p.scope)) := by
  induction actions generalizing h p with
  | nil => exact ⟨p, hp, rfl, rfl⟩
  | cons a rest ih =>
    obtain ⟨q, hq, hsub, hfeed⟩ := hi.feed_step hp a
    obtain ⟨r, hr, hsub', hfeed'⟩ := ih (hi.step a) hq
    have hscope : q.scope = p.scope := congrArg Subscription.scope hsub
    refine ⟨r, hr, hsub'.trans hsub, ?_⟩
    rw [History.run_cons, hfeed', hfeed, hscope, Feed.run_filterMap_cons]

/-- A subscription that is made fares from then on as a new one by itself. -/
theorem feed_made (hi : Inv capacity h) (hcap : Queue.canHave capacity = true) (scope : Scope)
    (actions : List Action) :
    ∃ p, (h.run (.subscribe scope :: actions)).subscribers[h.subscribers.length]? = some p ∧
      p.scope = scope ∧ (h.run (.subscribe scope :: actions)).feed p =
        (Feed.start h.hub.closed).run (Queue.places capacity)
          (actions.filterMap (·.concern? h.subscribers.length scope)) := by
  rw [← hi.capacity] at hcap
  have hmade : (h.step (.subscribe scope)).subscribers[h.subscribers.length]? =
      some ⟨⟨⟨h.hub.nextNumber⟩, scope⟩, .start h.hub.closed⟩ := by
    rw [History.step, History.subscribe_eq hi.tidy hcap]
    exact List.getElem?_concat_length
  have hfeed : (h.step (.subscribe scope)).feed ⟨⟨⟨h.hub.nextNumber⟩, scope⟩, .start h.hub.closed⟩ =
      .start h.hub.closed := by
    rw [History.step, History.subscribe_eq hi.tidy hcap, History.feed, waiting, withSubscription_eq,
      Table.get?_insert_self]
    rfl
  obtain ⟨p, hp, hsub, hrun⟩ := (hi.step (.subscribe scope)).feed_run hmade actions
  refine ⟨p, hp, congrArg Subscription.scope hsub, ?_⟩
  rw [History.run_cons, hrun, hfeed]
  rfl

/-- Waiting for an event ends if and only if nothing waits and the subscription is over. -/
theorem await_eq (hi : Inv capacity h) (hp : p ∈ h.subscribers) (hd : p.course.dropped = false) :
    (h.hub.await p.subscription).1 =
      match (h.hub.waiting p.subscription).head? with
      | some event => .event event
      | none => if p.course.isOver then .ended else .pending := by
  have hreg : h.hub.isRegistered p.subscription = !p.course.isOver := by
    rw [hi.isRegistered_eq hp, Course.isOver_eq (hi.forgotten p hp), hd, Bool.not_false,
      Bool.and_true, Bool.not_not]
  rw [fst_await, hreg]
  cases p.course.isOver with
  | true => rfl
  | false => rfl

end Inv

/-! ## Main result -/

/-- What a subscription has been given if all this has happened to it since it was made. -/
structure Delivered (h : History) (p : Subscriber) (met : List Happening) : Prop where
  /-- What it is offered are the broadcasts to its scope before it is over. -/
  offered : p.course.offered.map (·.event) =
    if p.course.late then [] else (met.takeWhile (!·.isEnd)).filterMap (·.event?)
  /-- What it has received and what waits for it are together the offers that found a place in its
  queue.  If the receiver is gone, what waited is lost. -/
  balance : p.course.received ++ h.hub.waiting p.subscription ++ p.course.lost = p.course.accepted
  lost : p.course.dropped = false → p.course.lost = []
  bound : (h.hub.waiting p.subscription).length ≤ max h.hub.capacity 1
  /-- Its owner gets the oldest event. -/
  receive : (h.hub.receive p.subscription).1 = (h.hub.waiting p.subscription).head?
  /-- There is an end to waiting once it is over and its queue is empty. -/
  await : p.course.dropped = false → (h.hub.await p.subscription).1 =
    match (h.hub.waiting p.subscription).head? with
    | some event => .event event
    | none => if p.course.isOver then .ended else .pending

theorem delivered_of_feed (hi : Inv capacity h) (hp : p ∈ h.subscribers) {late : Bool}
    {met : List Happening} (hfeed : h.feed p = (Feed.start late).run (Queue.places capacity) met) :
    Delivered h p met := by
  have hsound : (h.feed p).Sound (Queue.places capacity) := by
    rw [hfeed]
    exact (Feed.sound_start late).run met
  have hlate : p.course.late = late := by
    have := congrArg (·.course.late) hfeed
    exact this.trans (Feed.late_run _ met)
  refine ⟨?_, hsound.balance, hsound.lost, ?_, fst_receive _ _, hi.await_eq hp⟩
  · have := congrArg (·.course.offered.map (·.event)) hfeed
    rw [hlate]
    refine this.trans ((Feed.offered_run _ met).trans ?_)
    simp [Feed.start, Course.start, Course.isOver]
  · rw [hi.capacity]
    exact hsound.bound

/-- A subscription that is over goes on giving its events away, each to one take, and gets no
more.  When nothing waits any more, waiting ends. -/
theorem Inv.exists_drained (hi : Inv capacity h) (hp : h.subscribers[place]? = some p)
    (hsound : (h.feed p).Sound (Queue.places capacity)) (ho : p.course.isOver = true)
    {more : List Action} (hmore : .drop place ∉ more) :
    ∃ q, (h.run more).subscribers[place]? = some q ∧ q.subscription = p.subscription ∧
      (h.feed p).Drained ((more.filterMap (·.concern? place p.scope)).countP (·.isTake))
        ((h.run more).feed q) ∧
      q.course.isOver = true := by
  obtain ⟨q, hq, hsub, hfeed⟩ := hi.feed_run hp more
  have hmet : Happening.drop ∉ more.filterMap (·.concern? place p.scope) := fun hdrop =>
    hmore (Action.drop_mem_of_concern? hdrop)
  refine ⟨q, hq, hsub, ?_, ?_⟩
  · rw [hfeed]
    exact hsound.drained_run ho hmet
  · have hover : ((h.run more).feed q).course.isOver = true := by
      rw [hfeed]
      exact Feed.isOver_run ho _
    exact hover

/-- A subscription gets the events that are broadcast to its scope before it is over, less those
that have found its queue full and those that are lost with its receiver.  Once it is over, what
waits goes to the next takes in its order, and then there is nothing to wait for.  If the receiver
is dropped, what waits is lost, and nothing more is received or lost then.  Nothing else matters to
a subscription but whether the hub was closed before it was made. -/
theorem delivers_offered (capacity : Nat) (hcap : Queue.canHave capacity = true)
    (before : List Action) (scope : Scope) (after : List Action) :
    let place := ((History.start capacity).run before).subscribers.length
    let h := (History.start capacity).run (before ++ .subscribe scope :: after)
    let met := after.filterMap (·.concern? place scope)
    ∃ p, h.subscribers[place]? = some p ∧ p.scope = scope ∧
      (p.course.late = true ↔ .close ∈ before) ∧ Delivered h p met ∧
      (p.course.isOver = true → ∀ more, .drop place ∉ more →
        let taken := (more.filterMap (·.concern? place scope)).countP (·.isTake)
        ∃ q, (h.run more).subscribers[place]? = some q ∧
          (h.feed p).Drained taken ((h.run more).feed q) ∧
          (p.course.dropped = false → (h.hub.waiting p.subscription).length ≤ taken →
            ((h.run more).hub.await q.subscription).1 = .ended)) ∧
      (p.course.dropped = false → ∀ more, ∃ q,
        (h.run (.drop place :: more)).subscribers[place]? = some q ∧
          q.course.received = p.course.received ∧
          q.course.lost = h.hub.waiting p.subscription) ∧
      (∀ before' after', (.close ∈ before' ↔ .close ∈ before) →
        let place' := ((History.start capacity).run before').subscribers.length
        let h' := (History.start capacity).run (before' ++ .subscribe scope :: after')
        after'.filterMap (·.concern? place' scope) = met →
          ∃ q, h'.subscribers[place']? = some q ∧ h'.feed q = h.feed p) := by
  intro place h met
  have hi : Inv capacity h := inv_run capacity _
  have hclosed := closed_iff_close_mem capacity
  obtain ⟨p, hp, hscope, hfeed⟩ := (inv_run capacity before).feed_made hcap scope after
  rw [← History.run_append] at hp hfeed
  have hmem : p ∈ h.subscribers := List.mem_of_getElem? hp
  have hsound : (h.feed p).Sound (Queue.places capacity) := by
    rw [hfeed]
    exact (Feed.sound_start _).run _
  refine ⟨p, hp, hscope, ?late, delivered_of_feed hi hmem hfeed, ?drained, ?dropped,
    ?alone⟩
  case late =>
    rw [← hclosed before, show p.course.late = _ from congrArg (·.course.late) hfeed,
      Feed.late_run]
    rfl
  case drained =>
    intro ho more hmore taken
    obtain ⟨q, hq, hsub, hdrained, hover⟩ := hi.exists_drained hp hsound ho hmore
    rw [hscope] at hdrained
    refine ⟨q, hq, hdrained, fun hd hall => ?_⟩
    have hnone : (h.run more).hub.waiting q.subscription = [] :=
      hdrained.queue.trans (List.drop_eq_nil_of_le hall)
    rw [(hi.run more).await_eq (List.mem_of_getElem? hq) (hdrained.dropped.trans hd), hnone, hover]
    rfl
  case dropped =>
    intro hd more
    obtain ⟨q, hq, -, hfeed'⟩ := hi.feed_run hp (.drop place :: more)
    have hconcern : (Action.drop place).concern? place p.scope = some .drop := if_pos rfl
    rw [List.filterMap_cons, hconcern] at hfeed'
    have hdropped : (h.feed p).course.dropped = false := hd
    obtain ⟨hreceived, hlost⟩ := Feed.lost_run_drop hdropped
      (more.filterMap (·.concern? place p.scope))
    rw [← hfeed'] at hreceived hlost
    exact ⟨q, hq, hreceived, hlost⟩
  case alone =>
    -- The other subscription has the same feed, because it has met the same.
    intro before' after' hsame place' h' hmet
    obtain ⟨q, hq, _, hfeed'⟩ := (inv_run capacity before').feed_made hcap scope after'
    rw [← History.run_append] at hq hfeed'
    refine ⟨q, hq, hfeed'.trans ?_⟩
    have hlate : ((History.start capacity).run before').hub.closed =
        ((History.start capacity).run before).hub.closed := by
      rw [Bool.eq_iff_iff, hclosed, hclosed, hsame]
    rw [hmet, hlate]
    exact hfeed.symm

/-- A subscriber has an event waiting when another one comes. -/
def oneWaiting : List Action :=
  [.subscribe ⟨"shop", "live"⟩, .broadcast ⟨"shop", "live"⟩ (.deleted "a")]

/-- The other one misses an event, because it has not taken the one before. -/
def secondMissesOne : List Action :=
  [.broadcast ⟨"shop", "live"⟩ (.deleted "b"), .broadcast ⟨"shop", "test"⟩ (.deleted "c"),
    .broadcast ⟨"shop", "live"⟩ (.deleted "d"), .receive 1, .drop 0,
    .broadcast ⟨"shop", "live"⟩ (.deleted "e"), .unsubscribe 1,
    .broadcast ⟨"shop", "live"⟩ (.deleted "f")]

theorem delivers_offered_secondMissesOne :
    Queue.canHave 0 = true ∧
    ∃ p, ((History.start 0).run
        (oneWaiting ++ .subscribe ⟨"shop", "live"⟩ :: secondMissesOne)).subscribers[1]? = some p ∧
      Delivered ((History.start 0).run
          (oneWaiting ++ .subscribe ⟨"shop", "live"⟩ :: secondMissesOne)) p
        [.offer (.deleted "b"), .offer (.deleted "d"), .take, .offer (.deleted "e"), .unsubscribe,
          .offer (.deleted "f")] ∧
      p.course.accepted = [.deleted "b", .deleted "e"] := by
  have hcap : Queue.canHave 0 = true := by decide
  obtain ⟨p, hp, _, _, hdelivered, _⟩ :=
    delivers_offered 0 hcap oneWaiting ⟨"shop", "live"⟩ secondMissesOne
  refine ⟨hcap, p, hp, hdelivered, ?_⟩
  obtain rfl := Option.some.inj hp
  rfl

/-- An event that found a place and waits when the receiver is dropped has not been received and
does not wait any more. -/
theorem dropped_receiver_loses_waiting :
    let h := (History.start 1).run (oneWaiting ++ [.drop 0])
    ∃ p, h.subscribers[0]? = some p ∧ p.scope = ⟨"shop", "live"⟩ ∧
      p.course.offered = [⟨.deleted "a", false⟩] ∧ p.course.accepted = [.deleted "a"] ∧
      p.course.received ++ h.hub.waiting p.subscription = [] ∧
      p.course.lost = [.deleted "a"] :=
  ⟨_, rfl, rfl, rfl, rfl, rfl, rfl⟩

end FeatureFlags.Hub
