import FeatureFlags.Proofs.Hub.History

/-!
# What every history of a hub keeps

`Inv` ties the registry and the queues to the courses of the subscriptions.  A scope has exactly
those registered that stand for it, in the order in which they were made, and a subscription has a
queue until its receiver is gone.

`Inv.map` is the common part of all actions but a subscription: they change the courses of the
subscriptions that are there, and let some go out of the registry.  `inv_run` says that the
invariant holds after every run.
-/

namespace FeatureFlags.Hub

variable {capacity : Nat} {h : History} {scope : Scope} {p q : Subscriber} {place : Nat}

/-- The hub agrees with what has become of the subscriptions. -/
structure Inv (capacity : Nat) (h : History) : Prop where
  capacity : h.hub.capacity = capacity
  tidy : h.hub.Tidy
  nextNumber : h.hub.nextNumber = h.subscribers.length + 1
  /-- The subscriptions are numbered from one. -/
  number : ∀ place (p : Subscriber), h.subscribers[place]? = some p → p.id = ⟨place + 1⟩
  members : ∀ scope, h.hub.members scope = (h.subscribers.filter (·.standsIn scope)).map (·.id)
  queues : ∀ p ∈ h.subscribers, h.hub.queues.contains p.id = !p.course.dropped
  forgotten : ∀ p ∈ h.subscribers, p.course.forgotten = true → p.course.dropped = true
  closed : h.hub.closed = true → ∀ p ∈ h.subscribers, p.course.stands = false
  total : h.hub.totalSubscriptions = h.subscribers.countP (!·.course.late)

theorem inv_start (capacity : Nat) : Inv capacity (.start capacity) where
  capacity := rfl
  tidy := nofun
  nextNumber := rfl
  number := nofun
  members _ := rfl
  queues := nofun
  forgotten := nofun
  closed := nofun
  total := rfl

namespace Inv

/-! ## Numbers -/

/-- Subscriptions are numbered in the order in which they are made. -/
theorem pairwise_id (hi : Inv capacity h) :
    h.subscribers.Pairwise fun p q => p.id.number < q.id.number := by
  refine List.pairwise_iff_getElem.2 fun i j hi' hj' hij => ?_
  rw [hi.number i _ (List.getElem?_eq_getElem hi'), hi.number j _ (List.getElem?_eq_getElem hj')]
  show i + 1 < j + 1
  omega

/-- The number of a subscription tells its place. -/
theorem place_eq_of_id_eq (hi : Inv capacity h) {place' : Nat}
    (hp : h.subscribers[place]? = some p) (hq : h.subscribers[place']? = some q)
    (hid : p.id = q.id) : place = place' := by
  rw [hi.number place p hp, hi.number place' q hq] at hid
  have : place + 1 = place' + 1 := congrArg SubscriptionId.number hid
  omega

/-- No two subscriptions have the same number. -/
theorem eq_of_id_eq (hi : Inv capacity h) (hp : p ∈ h.subscribers) (hq : q ∈ h.subscribers)
    (hid : p.id = q.id) : p = q := by
  obtain ⟨i, hpi⟩ := List.getElem?_of_mem hp
  obtain ⟨j, hqj⟩ := List.getElem?_of_mem hq
  obtain rfl := hi.place_eq_of_id_eq hpi hqj hid
  exact Option.some.inj (hpi.symm.trans hqj)

/-- The next number is not taken. -/
theorem id_ne_next (hi : Inv capacity h) (hp : p ∈ h.subscribers) : p.id ≠ ⟨h.hub.nextNumber⟩ := by
  obtain ⟨i, hpi⟩ := List.getElem?_of_mem hp
  have hlt : i < h.subscribers.length := (List.getElem?_eq_some_iff.1 hpi).1
  rw [hi.number i p hpi, hi.nextNumber]
  intro hid
  have : i + 1 = h.subscribers.length + 1 := congrArg SubscriptionId.number hid
  omega

theorem nodup_members (hi : Inv capacity h) (scope : Scope) : (h.hub.members scope).Nodup := by
  rw [hi.members, List.Nodup, List.pairwise_map]
  refine (hi.pairwise_id.filter _).imp fun hlt hid => ?_
  rw [hid] at hlt
  omega

/-- A subscription is registered where it stands. -/
theorem mem_members_iff (hi : Inv capacity h) (hp : p ∈ h.subscribers) (scope : Scope) :
    p.id ∈ h.hub.members scope ↔ p.standsIn scope = true := by
  rw [hi.members, List.mem_map]
  constructor
  · rintro ⟨q, hq, hid⟩
    obtain ⟨hq, hs⟩ := List.mem_filter.1 hq
    exact hi.eq_of_id_eq hq hp hid ▸ hs
  · intro hs
    exact ⟨p, List.mem_filter.2 ⟨hp, hs⟩, rfl⟩

/-- A subscription is registered if and only if it stands. -/
theorem isRegistered_eq (hi : Inv capacity h) (hp : p ∈ h.subscribers) :
    h.hub.isRegistered p.subscription = p.course.stands := by
  rw [isRegistered, Bool.eq_iff_iff, decide_eq_true_iff, ← Subscriber.standsIn_of_eq rfl]
  exact hi.mem_members_iff hp p.scope

/-- Setting the subscription at a place sets the one with its number. -/
theorem set_eq_map (hi : Inv capacity h) (hp : h.subscribers[place]? = some p) (c : Course) :
    h.subscribers.set place { p with course := c } =
      h.subscribers.map fun q => if q.id = p.id then { q with course := c } else q := by
  apply List.ext_getElem?
  intro i
  rw [List.getElem?_map]
  by_cases hplace : place = i
  · subst hplace
    rw [List.getElem?_set_self (List.getElem?_eq_some_iff.1 hp).1, hp]
    simp
  · rw [List.getElem?_set_ne hplace]
    cases hq : h.subscribers[i]? with
    | none => rfl
    | some q =>
      have hne : q.id ≠ p.id := fun hid => hplace (hi.place_eq_of_id_eq hq hp hid).symm
      simp [hne]

/-! ## Changing the subscriptions that are there -/

/-- An action keeps the invariant if those subscriptions stay in the registry that still stand. -/
theorem map (hi : Inv capacity h) {hub : Hub} {f : Subscriber → Subscriber}
    (keep : Scope → SubscriptionId → Bool)
    (hcapacity : hub.capacity = h.hub.capacity) (hnext : hub.nextNumber = h.hub.nextNumber)
    (htotal : hub.totalSubscriptions = h.hub.totalSubscriptions) (htidy : hub.Tidy)
    (hsubscription : ∀ p ∈ h.subscribers, (f p).subscription = p.subscription)
    (hlate : ∀ p ∈ h.subscribers, (f p).course.late = p.course.late)
    (hmembers : ∀ scope, hub.members scope = (h.hub.members scope).filter (keep scope))
    (hkeep : ∀ scope, ∀ p ∈ h.subscribers,
      (f p).standsIn scope = (p.standsIn scope && keep scope p.id))
    (hqueues : ∀ p ∈ h.subscribers, hub.queues.contains p.id = !(f p).course.dropped)
    (hforgotten : ∀ p ∈ h.subscribers,
      (f p).course.forgotten = true → (f p).course.dropped = true)
    (hclosed : hub.closed = true → ∀ p ∈ h.subscribers, (f p).course.stands = false) :
    Inv capacity ⟨hub, h.subscribers.map f⟩ := by
  have hid : ∀ p ∈ h.subscribers, (f p).id = p.id := by
    intro p hp
    rw [Subscriber.id, hsubscription p hp, Subscriber.id]
  refine ⟨hcapacity.trans hi.capacity, htidy, ?nextNumber, ?number, ?members, ?queues, ?forgotten,
    ?closed, ?total⟩
  case nextNumber => rw [hnext, hi.nextNumber, List.length_map]
  case number =>
    intro place p hp
    rw [List.getElem?_map] at hp
    obtain ⟨q, hq, rfl⟩ := Option.map_eq_some_iff.1 hp
    rw [hid q (List.mem_of_getElem? hq)]
    exact hi.number place q hq
  case members =>
    intro scope
    rw [hmembers, hi.members, List.filter_map, List.filter_filter, List.filter_map, List.map_map]
    have hsame :
        (h.subscribers.filter fun p => (keep scope ∘ Subscriber.id) p && p.standsIn scope) =
          h.subscribers.filter ((·.standsIn scope) ∘ f) := by
      refine List.filter_congr fun p hp => ?_
      rw [Function.comp, Function.comp, hkeep scope p hp, Bool.and_comm]
    rw [hsame]
    refine List.map_congr_left fun p hp => ?_
    exact (hid p (List.mem_filter.1 hp).1).symm
  case queues =>
    intro p hp
    obtain ⟨q, hq, rfl⟩ := List.mem_map.1 hp
    rw [hid q hq]
    exact hqueues q hq
  case forgotten =>
    intro p hp
    obtain ⟨q, hq, rfl⟩ := List.mem_map.1 hp
    exact hforgotten q hq
  case closed =>
    intro hc p hp
    obtain ⟨q, hq, rfl⟩ := List.mem_map.1 hp
    exact hclosed hc q hq
  case total =>
    rw [htotal, hi.total, List.countP_map]
    refine List.countP_congr fun p hp => ?_
    rw [Function.comp, hlate p hp]

/-- What the owner of a subscription does to its queue keeps the invariant. -/
theorem set (hi : Inv capacity h) (hp : h.subscribers[place]? = some p) {c : Course}
    {queues : Table SubscriptionId (List ChangeEvent)} (hlate : c.late = p.course.late)
    (hstands : c.stands = p.course.stands) (hforgotten : c.forgotten = p.course.forgotten)
    (hdropped : p.course.dropped = true → c.dropped = true)
    (hqueue : queues.contains p.id = !c.dropped)
    (hqueues : ∀ id, id ≠ p.id → queues.contains id = h.hub.queues.contains id) :
    Inv capacity ⟨{ h.hub with queues }, h.subscribers.set place { p with course := c }⟩ := by
  have hmem : p ∈ h.subscribers := List.mem_of_getElem? hp
  rw [hi.set_eq_map hp]
  refine hi.map (fun _ _ => true) rfl rfl rfl hi.tidy ?subscription ?late ?members ?keep ?queues
    ?forgotten ?closed
  case subscription =>
    intro q _
    split <;> rfl
  case late =>
    intro q hq
    split
    · next hid => rw [hi.eq_of_id_eq hq hmem hid, hlate]
    · rfl
  case members =>
    intro scope
    exact (List.filter_eq_self.2 fun _ _ => rfl).symm
  case keep =>
    intro scope q hq
    rw [Bool.and_true]
    split
    · next hid =>
      obtain rfl := hi.eq_of_id_eq hq hmem hid
      rw [Subscriber.standsIn, Subscriber.standsIn, hstands]
      rfl
    · rfl
  case queues =>
    intro q hq
    split
    · next hid => rw [hid, hqueue]
    · next hid => rw [hqueues _ hid, hi.queues q hq]
  case forgotten =>
    intro q hq
    split
    · intro hf
      exact hdropped (hi.forgotten p hmem (hforgotten ▸ hf))
    · exact hi.forgotten q hq
  case closed =>
    intro hc q hq
    split
    · exact hstands.trans (hi.closed hc p hmem)
    · exact hi.closed hc q hq

/-! ## Each action -/

/-- A new subscription has the next number, and stands unless the hub is closed. -/
theorem subscribe (hi : Inv capacity h) (scope : Scope) : Inv capacity (h.subscribe scope) := by
  cases hcap : Queue.canHave h.hub.capacity with
  | false =>
    rw [History.subscribe_of_not_canHave hcap]
    exact hi
  | true =>
    have hframe := h.hub.withSubscription_eq scope
    rw [History.subscribe_eq hi.tidy hcap]
    refine ⟨?capacity, hi.tidy.of_withSubscription scope, ?nextNumber, ?number, ?members, ?queues,
      ?forgotten, ?closed, ?total⟩
    case capacity =>
      rw [hframe]
      exact hi.capacity
    case nextNumber => rw [hframe, List.length_append, List.length_singleton, ← hi.nextNumber]
    case number =>
      intro place p hp
      rcases Nat.lt_or_ge place h.subscribers.length with hlt | hge
      · rw [List.getElem?_append_left hlt] at hp
        exact hi.number place p hp
      · rw [List.getElem?_append_right hge, List.getElem?_singleton] at hp
        split at hp
        · have hplace : place = h.subscribers.length := by omega
          rw [← Option.some.inj hp, hplace, Subscriber.id, hi.nextNumber]
        · cases hp
    case members =>
      intro scope'
      rw [members_withSubscription, hi.members, List.filter_append, List.map_append]
      congr 1
      by_cases hs : scope = scope'
      · rw [List.filter_cons, Subscriber.standsIn_of_eq (by exact hs)]
        cases h.hub.closed with
        | true => simp [Course.stands, Course.start]
        | false => simp [hs, Course.stands, Course.start, Subscriber.id]
      · rw [List.filter_cons, Subscriber.standsIn_of_ne (by exact hs), if_neg fun h => hs h.1]
        rfl
    case queues =>
      intro p hp
      rw [hframe, Table.contains, Table.get?_insert]
      rcases List.mem_append.1 hp with hp | hp
      · rw [if_neg (hi.id_ne_next hp)]
        exact hi.queues p hp
      · rw [List.mem_singleton.1 hp]
        exact if_pos rfl ▸ rfl
    case forgotten =>
      intro p hp
      rcases List.mem_append.1 hp with hp | hp
      · exact hi.forgotten p hp
      · rw [List.mem_singleton.1 hp]
        intro hf
        cases hf
    case closed =>
      -- If the hub is closed, the new subscription is late.
      intro hc p hp
      rw [hframe] at hc
      rcases List.mem_append.1 hp with hp | hp
      · exact hi.closed hc p hp
      · rw [List.mem_singleton.1 hp, hc]
        rfl
    case total =>
      rw [hframe, hi.total, List.countP_append]
      cases h.hub.closed with
      | true => rfl
      | false => rfl

/-- After a broadcast a subscription stands if its receiver is not gone. -/
theorem broadcast (hi : Inv capacity h) (scope : Scope) (event : ChangeEvent) :
    Inv capacity (h.broadcast scope event) := by
  have hframe := hi.tidy.broadcast_eq scope event
  refine hi.map (fun scope' id => scope' != scope || h.hub.queues.contains id) (by rw [hframe]; rfl)
    (by rw [hframe]; rfl) (by rw [hframe]; rfl) ?tidy (fun p _ => h.subscription_told ..)
    (fun p _ => h.late_told ..) (hi.tidy.members_broadcast scope event) ?keep ?queues ?forgotten
    ?closed
  case tidy =>
    rw [hframe]
    exact hi.tidy.of_withMembers _ _
  case keep =>
    intro scope' p hp
    rw [h.standsIn_told, hi.queues p hp]
  case queues =>
    intro p hp
    rw [hi.tidy.contains_queues_broadcast scope event (hi.nodup_members scope), hi.queues p hp,
      h.dropped_told]
  case forgotten =>
    intro p hp hf
    rw [h.dropped_told]
    rw [History.told] at hf
    split at hf
    · rw [Course.forgotten_offer, Bool.or_eq_true] at hf
      exact hf.elim (hi.forgotten p hp) id
    · exact hi.forgotten p hp hf
  case closed =>
    intro hc p hp
    rw [hframe] at hc
    rw [History.told]
    split
    · rw [Course.stands_offer, hi.closed hc p hp, Bool.false_and]
    · exact hi.closed hc p hp

/-- What is received was in the queue of the subscription. -/
theorem receive (hi : Inv capacity h) (place : Nat) :
    Inv capacity (h.step (.receive place)) := by
  rw [History.step]
  rcases h.own_cases place _ with he | ⟨p, hp, hd, he⟩
  · rw [he]
    exact hi
  · have hqueues : ∀ id, (h.hub.receive p.subscription).2.queues.contains id =
        h.hub.queues.contains id := by
      intro id
      rw [Table.contains, Table.contains, get?_queues_receive]
      split
      · rw [Option.isSome_map]
      · rfl
    rw [he, receive_eq]
    refine hi.set hp rfl rfl rfl id ?_ fun id _ => hqueues id
    rw [hqueues, hi.queues p (List.mem_of_getElem? hp)]
    rfl

/-- A subscription whose receiver goes away stays registered. -/
theorem drop (hi : Inv capacity h) (place : Nat) : Inv capacity (h.step (.drop place)) := by
  rw [History.step]
  rcases h.own_cases place _ with he | ⟨p, hp, hd, he⟩
  · rw [he]
    exact hi
  · rw [he, dropReceiver]
    refine hi.set hp rfl rfl rfl (fun _ => rfl) ?_ fun id hid => ?_
    · rw [Table.contains, Subscriber.id, Table.get?_erase_self]
      rfl
    · exact congrArg Option.isSome (Table.get?_erase_of_ne _ hid)

/-- A subscription that is unsubscribed stands no more. -/
theorem unsubscribe (hi : Inv capacity h) (place : Nat) :
    Inv capacity (h.step (.unsubscribe place)) := by
  rw [History.step]
  rcases h.own_cases place _ with he | ⟨p, hp, hd, he⟩
  · rw [he]
    exact hi
  · have hmem : p ∈ h.subscribers := List.mem_of_getElem? hp
    rw [he, hi.tidy.unsubscribe_eq, hi.set_eq_map hp]
    have hstands : p.course.unsubscribe.stands = false := by
      simp [Course.stands, Course.unsubscribe]
    refine hi.map (fun _ id => id != p.id) rfl rfl rfl (hi.tidy.of_withMembers _ _) ?subscription
      ?late ?members ?keep ?queues ?forgotten ?closed
    case subscription =>
      intro q _
      split <;> rfl
    case late =>
      intro q hq
      split
      · next hid => rw [hi.eq_of_id_eq hq hmem hid]; rfl
      · rfl
    case members =>
      intro scope
      rw [members_withMembers]
      split
      · next hs => rw [hs]; rfl
      · next hs =>
        -- The subscription is not registered for any other scope.
        refine (List.filter_eq_self.2 fun id hid => ?_).symm
        rw [bne_iff_ne]
        rintro rfl
        have := (hi.mem_members_iff hmem scope).1 hid
        rw [Subscriber.standsIn, Bool.and_eq_true, beq_iff_eq] at this
        exact hs this.1.symm
    case keep =>
      intro scope q _
      split
      · next hid => simp [Subscriber.standsIn, hstands, hid]
      · next hid => simp [hid]
    case queues =>
      intro q hq
      refine (hi.queues q hq).trans ?_
      split
      · next hid => rw [hi.eq_of_id_eq hq hmem hid]; rfl
      · rfl
    case forgotten =>
      intro q hq
      split
      · next hid =>
        rw [← hi.eq_of_id_eq hq hmem hid]
        exact hi.forgotten q hq
      · exact hi.forgotten q hq
    case closed =>
      intro hc q hq
      split
      · exact hstands
      · exact hi.closed hc q hq

/-- After the hub is closed no subscription stands. -/
theorem close (hi : Inv capacity h) : Inv capacity h.close := by
  refine hi.map (fun _ _ => false) rfl rfl rfl nofun (fun _ _ => rfl) (fun _ _ => rfl) ?members
    ?keep hi.queues hi.forgotten ?closed
  case members =>
    intro scope
    simp [Hub.members, Hub.close]
  case keep =>
    intro scope p _
    simp [Subscriber.standsIn, Course.stands, Course.close]
  case closed =>
    intro _ p _
    simp [Course.stands, Course.close]

theorem step (hi : Inv capacity h) (a : Action) : Inv capacity (h.step a) := by
  cases a with
  | subscribe scope => exact hi.subscribe scope
  | broadcast scope event => exact hi.broadcast scope event
  | receive place => exact hi.receive place
  | await place =>
    rw [History.step_await]
    exact hi.receive place
  | unsubscribe place => exact hi.unsubscribe place
  | drop place => exact hi.drop place
  | close => exact hi.close

theorem run (hi : Inv capacity h) (actions : List Action) : Inv capacity (h.run actions) := by
  induction actions generalizing h with
  | nil => exact hi
  | cons a rest ih => exact ih (hi.step a)

/-! ## Closing -/

/-- Only a close closes the hub. -/
theorem closed_step (hi : Inv capacity h) (a : Action) :
    (h.step a).hub.closed = true ↔ h.hub.closed = true ∨ a = .close := by
  have hown : ∀ place (act : Subscriber → Hub × Course),
      (∀ p, (act p).1.closed = h.hub.closed) → (h.own place act).hub.closed = h.hub.closed := by
    intro place act hact
    rcases h.own_cases place act with he | ⟨p, _, _, he⟩
    · rw [he]
    · rw [he]
      exact hact p
  have hreceive : ∀ place, (h.step (.receive place)).hub.closed = h.hub.closed := fun place =>
    hown place _ fun p => by rw [receive_eq]
  cases a with
  | subscribe scope =>
    cases hcap : Queue.canHave h.hub.capacity with
    | false => simp [History.step, History.subscribe_of_not_canHave hcap]
    | true =>
      rw [History.step, History.subscribe_eq hi.tidy hcap, withSubscription_eq]
      simp
  | broadcast scope event =>
    rw [History.step, History.broadcast, hi.tidy.broadcast_eq]
    simp [withMembers]
  | receive place => simp [hreceive]
  | await place => simp [History.step_await, hreceive]
  | unsubscribe place =>
    rw [History.step, hown place _ fun p => by rw [hi.tidy.unsubscribe_eq]; rfl]
    simp
  | drop place =>
    rw [History.step, hown place _ fun p => rfl]
    simp
  | close => simp [History.step, History.close, Hub.close]

/-- A hub is closed after a run if and only if it has been closed. -/
theorem closed_run (hi : Inv capacity h) (actions : List Action) :
    (h.run actions).hub.closed = true ↔ h.hub.closed = true ∨ .close ∈ actions := by
  induction actions generalizing h with
  | nil => simp
  | cons a rest ih =>
    rw [History.run_cons, ih (hi.step a), hi.closed_step, List.mem_cons, or_assoc,
      @eq_comm _ a]

end Inv

/-- The invariant holds after every run. -/
theorem inv_run (capacity : Nat) (actions : List Action) :
    Inv capacity ((History.start capacity).run actions) :=
  (inv_start capacity).run actions

/-- After a run from the beginning the hub is closed if and only if it has been closed. -/
theorem closed_iff_close_mem (capacity : Nat) (actions : List Action) :
    ((History.start capacity).run actions).hub.closed = true ↔ .close ∈ actions :=
  ((inv_start capacity).closed_run actions).trans (or_iff_right Bool.false_ne_true)

end FeatureFlags.Hub
