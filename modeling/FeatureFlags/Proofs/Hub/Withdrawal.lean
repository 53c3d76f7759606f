import FeatureFlags.Proofs.Hub.Owner
import Mathlib.Data.List.Nodup

/-!
# Unsubscribing

Owners may unsubscribe at any time and as often as they like.

* `Withdrawn` is all that changes in a hub when a subscription is withdrawn, and
  `Tidy.withdrawn_unsubscribe` says that unsubscribing does no more than that.
* `unsubscribe_of_not_isRegistered`: it does nothing to a subscription that is not registered, and
  `Inv.isRegistered_of_unsubscribed`: one that has unsubscribed never is again.
* `unsubscribe_withdraws` is the main result.  It looks at all that may follow upon unsubscribing.
-/

namespace FeatureFlags.Hub

variable {capacity : Nat} {h : Hub} {s : Subscription}

/-! ## In the hub -/

/-- A hub after a subscription has been withdrawn. -/
structure Withdrawn (s : Subscription) (h h' : Hub) : Prop where
  gone : h'.isRegistered s = false
  /-- Nobody else is registered or loses a registration. -/
  others : ∀ s', s'.id ≠ s.id → h'.isRegistered s' = h.isRegistered s'
  entries : ∀ scope, scope ≠ s.scope → h'.registered.get? scope = h.registered.get? scope
  /-- Its scope loses its entry if and only if nobody else was registered there. -/
  entry : h.registered.get? s.scope ≠ none ∧ h'.registered.get? s.scope = none ↔
    h.members s.scope = [s.id]
  /-- Every queue stays, its own one too. -/
  queues : h'.queues = h.queues
  eventsBroadcast : h'.eventsBroadcast = h.eventsBroadcast
  eventsDropped : h'.eventsDropped = h.eventsDropped
  totalSubscriptions : h'.totalSubscriptions = h.totalSubscriptions

theorem Tidy.withdrawn_unsubscribe (ht : h.Tidy) (hn : (h.members s.scope).Nodup) :
    Withdrawn s h (h.unsubscribe s) := by
  rw [ht.unsubscribe_eq]
  refine ⟨?gone, fun s' hid => ?others, fun scope hscope => ?entries, ?entry, rfl, rfl, rfl, rfl⟩
  case gone =>
    rw [isRegistered, members_withMembers, if_pos rfl]
    simp
  case others =>
    rw [isRegistered, members_withMembers, isRegistered]
    split
    · next hscope =>
      rw [hscope]
      simp [hid]
    · rfl
  case entries => rw [get?_registered_withMembers, if_neg hscope]
  case entry =>
    have hleft : (h.members s.scope).filter (· != s.id) = [] ↔
        h.members s.scope = [] ∨ h.members s.scope = [s.id] := by
      rw [← hn.erase_eq_filter, List.erase_eq_nil_iff]
    rw [get?_registered_withMembers, if_pos rfl, ht.get?_registered]
    by_cases hm : h.members s.scope = []
    · simp [hm]
    · simp [hm, hleft]

/-- Who is not registered loses nothing. -/
theorem unsubscribe_of_not_isRegistered (hs : h.isRegistered s = false) : h.unsubscribe s = h := by
  rw [isRegistered, decide_eq_false_iff_not, members] at hs
  rw [unsubscribe]
  cases he : h.registered.get? s.scope with
  | none => rfl
  | some entry =>
    rw [he] at hs
    exact if_neg hs

/-! ## In what follows -/

/-- To unsubscribe cannot be undone. -/
theorem Feed.unsubscribed_run_of_unsubscribed (places : Nat) {f : Feed}
    (hu : f.course.unsubscribed = true) (met : List Happening) :
    (f.run places met).course.unsubscribed = true := by
  induction met generalizing f with
  | nil => exact hu
  | cons x rest ih => exact ih ((marks_step places f x).2.2.1.2 (.inl hu))

/-- What waits when a feed is unsubscribed goes to the next takes. -/
theorem Feed.Sound.drained_unsubscribe {places : Nat} {f : Feed} (hf : f.Sound places)
    (hd : f.course.dropped = false) {met : List Happening} (hmet : .drop ∉ met) :
    f.Drained (met.countP (·.isTake)) (f.run places (.unsubscribe :: met)) := by
  have hstep : f.step places .unsubscribe = ⟨f.course.unsubscribe, f.queue⟩ :=
    if_neg (Bool.not_eq_true _ ▸ hd)
  have hdrained := (hf.step .unsubscribe).drained_run (by simp [hstep]) hmet
  rw [hstep] at hdrained
  rw [run_cons, hstep]
  exact ⟨hdrained.queue, hdrained.received, hdrained.dropped⟩

section

variable {h : History} {p : Subscriber} {place : Nat}

theorem Inv.isRegistered_of_unsubscribed (hi : Inv capacity h) (hp : p ∈ h.subscribers)
    (hu : p.course.unsubscribed = true) : h.hub.isRegistered p.subscription = false := by
  rw [hi.isRegistered_eq hp, Course.stands, hu]
  simp

/-- No broadcast reaches a subscription that is over. -/
theorem Inv.waiting_broadcast_of_isOver (hi : Inv capacity h) (hp : p ∈ h.subscribers)
    (ho : p.course.isOver = true) (scope : Scope) (event : ChangeEvent) :
    (h.hub.broadcast scope event).2.waiting p.subscription = h.hub.waiting p.subscription := by
  have hnot : ¬(p.subscription.id ∈ h.hub.members scope ∧
      h.hub.queues.contains p.subscription.id = true) := by
    rw [hi.reached_iff hp, ho]
    simp
  rw [hi.tidy.waiting_broadcast scope event (hi.nodup_members scope), if_neg hnot]

/-- To unsubscribe once more does nothing. -/
theorem Inv.step_unsubscribe_of_unsubscribed (hi : Inv capacity h)
    (hp : h.subscribers[place]? = some p) (hu : p.course.unsubscribed = true) :
    h.step (.unsubscribe place) = h := by
  have hhub := unsubscribe_of_not_isRegistered
    (hi.isRegistered_of_unsubscribed (List.mem_of_getElem? hp) hu)
  have hcourse : p.course.unsubscribe = p.course := by
    rw [Course.unsubscribe, ← hu]
  cases hd : p.course.dropped with
  | true => exact History.own_of_dropped hp hd _
  | false =>
    obtain ⟨hlt, rfl⟩ := List.getElem?_eq_some_iff.1 hp
    rw [History.step, History.own_of_not_dropped hp hd, hhub, hcourse]
    exact congrArg (History.mk h.hub) (List.set_getElem_self hlt)

end

/-! ## Main result -/

/-- To unsubscribe withdraws the subscription, from its own scope and at once (`Withdrawn`), and
does nothing to the others.  Whatever follows, the subscription is not registered again, no
broadcast adds to its queue, what is in the queue goes to the next takes in its order, and to
unsubscribe once more does nothing. -/
theorem unsubscribe_withdraws (capacity : Nat) (actions : List Action) {place : Nat}
    {p : Subscriber}
    (hp : ((History.start capacity).run actions).subscribers[place]? = some p)
    (hd : p.course.dropped = false) :
    let h := (History.start capacity).run actions
    let h' := h.step (.unsubscribe place)
    Withdrawn p.subscription h.hub h'.hub ∧
    (∀ other, other ≠ place → h'.subscribers[other]? = h.subscribers[other]?) ∧
    ∀ more,
      let later := h'.run more
      let taken := (more.filterMap (·.concern? place p.scope)).countP (·.isTake)
      later.hub.isRegistered p.subscription = false ∧
      (∀ scope event, (later.hub.broadcast scope event).2.waiting p.subscription =
        later.hub.waiting p.subscription) ∧
      (∃ q, later.subscribers[place]? = some q ∧ q.subscription = p.subscription ∧
        (.drop place ∉ more → (h.feed p).Drained taken (later.feed q))) ∧
      later.hub.unsubscribe p.subscription = later.hub ∧
      later.step (.unsubscribe place) = later := by
  intro h h'
  have hi : Inv capacity h := inv_run capacity actions
  have hmem : p ∈ h.subscribers := List.mem_of_getElem? hp
  have hstep : h' = ⟨h.hub.unsubscribe p.subscription,
      h.subscribers.set place { p with course := p.course.unsubscribe }⟩ :=
    History.own_of_not_dropped hp hd _
  refine ⟨?withdrawn, fun other hne => History.getElem?_own_of_ne _ hne, fun more => ?later⟩
  case withdrawn =>
    rw [hstep]
    exact hi.tidy.withdrawn_unsubscribe (hi.nodup_members p.scope)
  case later =>
    intro later taken
    have hi' : Inv capacity later := (hi.step _).run more
    have hconcern : (Action.unsubscribe place).concern? place p.scope = some .unsubscribe :=
      if_pos rfl
    obtain ⟨q, hq, hsub, hfeed⟩ := hi.feed_run hp (.unsubscribe place :: more)
    rw [List.filterMap_cons_some hconcern] at hfeed
    have hmem' : q ∈ later.subscribers := List.mem_of_getElem? hq
    have hu : q.course.unsubscribed = true := by
      rw [show q.course = _ from congrArg Feed.course hfeed, Feed.run_cons]
      exact Feed.unsubscribed_run_of_unsubscribed _
        ((Feed.marks_step _ _ _).2.2.1.2 (.inr ⟨rfl, hd⟩)) _
    have hgone := hi'.isRegistered_of_unsubscribed hmem' hu
    have hnone := hi'.waiting_broadcast_of_isOver hmem' (Course.isOver_of_unsubscribed hu)
    rw [hsub] at hgone hnone
    refine ⟨hgone, hnone, ⟨q, hq, hsub, fun hmore => ?_⟩, unsubscribe_of_not_isRegistered hgone,
      hi'.step_unsubscribe_of_unsubscribed hq hu⟩
    have hsound := (inv_start capacity).sound_feed_run nofun actions p hmem
    have hmet : Happening.drop ∉ more.filterMap (·.concern? place p.scope) := fun hdrop =>
      hmore (Action.drop_mem_of_concern? hdrop)
    exact hfeed ▸ hsound.drained_unsubscribe hd hmet

/-- The only subscriber of a scope has an event waiting. -/
def onlyLive : List Action :=
  [.subscribe ⟨"shop", "live"⟩, .subscribe ⟨"shop", "test"⟩,
    .broadcast ⟨"shop", "live"⟩ (.deleted "a")]

/-- Somebody else subscribes to that scope, and the first owner takes an event. -/
def nextLive : List Action :=
  [.subscribe ⟨"shop", "live"⟩, .broadcast ⟨"shop", "live"⟩ (.deleted "b"), .receive 0]

theorem unsubscribe_withdraws_onlyLive :
    let h := (History.start 1).run onlyLive
    let h' := h.step (.unsubscribe 0)
    let later := h'.run nextLive
    ∃ p, h.subscribers[0]? = some p ∧ p.course.dropped = false ∧
      Withdrawn p.subscription h.hub h'.hub ∧
      h'.hub.registered.get? ⟨"shop", "live"⟩ = none ∧
      later.hub.members ⟨"shop", "live"⟩ = [⟨3⟩] ∧
      later.subscribers.map (·.course.received) = [[.deleted "a"], [], []] ∧
      later.step (.unsubscribe 0) = later := by
  obtain ⟨p, hp, hd⟩ : ∃ p, ((History.start 1).run onlyLive).subscribers[0]? = some p ∧
      p.course.dropped = false := ⟨_, rfl, rfl⟩
  obtain ⟨hwithdrawn, _, hlater⟩ := unsubscribe_withdraws 1 onlyLive hp hd
  exact ⟨p, hp, hd, hwithdrawn, by rfl, by rfl, by rfl, (hlater nextLive).2.2.2.2⟩

end FeatureFlags.Hub
