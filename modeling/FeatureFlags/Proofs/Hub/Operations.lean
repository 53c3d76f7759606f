import FeatureFlags.Hub

/-!
# The operations of a hub

What each operation does to the registry and to the queues.

* The registry of a hub is tidy: every entry has subscriptions, and none is retired.  A tidy
  registry has no more to tell than who is registered for each scope, so each operation is a change
  of the subscriptions of one scope (`withMembers`).
* `register_eq`, `subscribe?_eq`, `unsubscribe_eq` and `broadcast_eq` say which change it is.  The
  registry stays tidy (`Tidy.of_withMembers`), so registering takes one pass.
* `waiting_broadcast`, `waiting_receive` and `waiting_dropReceiver` say what waits in each queue
  afterwards.
-/

namespace FeatureFlags.Hub

variable {h : Hub} {scope scope' : Scope} {ids : List SubscriptionId} {id : SubscriptionId}
  {event : ChangeEvent} {s : Subscription}

/-! ## Tidy registries -/

/-- Every entry has subscriptions, and none is retired. -/
def Tidy (h : Hub) : Prop :=
  ∀ scope entry, h.registered.get? scope = some entry → entry.members ≠ [] ∧ entry.retired = false

/-- The hub with other subscriptions of a scope. -/
def withMembers (h : Hub) (scope : Scope) (ids : List SubscriptionId) : Hub :=
  { h with
    registered :=
      if ids = [] then h.registered.erase scope else h.registered.insert scope ⟨ids, false⟩ }

theorem get?_registered_withMembers (h : Hub) (scope : Scope) (ids : List SubscriptionId)
    (scope' : Scope) :
    (h.withMembers scope ids).registered.get? scope' =
      if scope' = scope then if ids = [] then none else some ⟨ids, false⟩
      else h.registered.get? scope' := by
  rw [withMembers]
  split
  · exact Table.get?_erase _ _ _
  · exact Table.get?_insert _ _ _ _

@[simp] theorem members_withMembers (h : Hub) (scope : Scope) (ids : List SubscriptionId)
    (scope' : Scope) :
    (h.withMembers scope ids).members scope' =
      if scope' = scope then ids else h.members scope' := by
  rw [members, get?_registered_withMembers]
  by_cases hs : scope' = scope
  · by_cases hn : ids = []
    · simp [hs, hn]
    · simp [hs, hn]
  · rw [if_neg hs, if_neg hs, members]

theorem Tidy.of_withMembers (ht : h.Tidy) (scope : Scope) (ids : List SubscriptionId) :
    (h.withMembers scope ids).Tidy := by
  intro scope' entry he
  rw [get?_registered_withMembers] at he
  split at he
  · split at he
    · cases he
    · next hn =>
      obtain rfl := Option.some.inj he
      exact ⟨hn, rfl⟩
  · exact ht scope' entry he

theorem members_of_entry {entry : ScopeEntry} (he : h.registered.get? scope = some entry) :
    h.members scope = entry.members := by
  rw [members, he]

theorem members_of_no_entry (he : h.registered.get? scope = none) : h.members scope = [] := by
  rw [members, he]

/-- In a tidy registry a scope has an entry if and only if it has subscriptions. -/
theorem Tidy.get?_registered (ht : h.Tidy) (scope : Scope) :
    h.registered.get? scope =
      if h.members scope = [] then none else some ⟨h.members scope, false⟩ := by
  rw [members]
  cases he : h.registered.get? scope with
  | none => rfl
  | some entry =>
    obtain ⟨hm, hr⟩ := ht scope entry he
    obtain ⟨ids, retired⟩ := entry
    subst hr
    exact (if_neg hm).symm

/-- A tidy registry is given by the subscriptions of each scope. -/
theorem Tidy.withMembers_members (ht : h.Tidy) (scope : Scope) :
    h.withMembers scope (h.members scope) = h := by
  have hr : (h.withMembers scope (h.members scope)).registered = h.registered := by
    apply Table.ext_get?
    intro scope'
    rw [get?_registered_withMembers]
    split
    · next hs => rw [hs, ht.get?_registered scope]
    · rfl
  calc h.withMembers scope (h.members scope)
      = { h with registered := (h.withMembers scope (h.members scope)).registered } := rfl
    _ = h := by rw [hr]

/-- Setting the subscriptions of an entry leaves no empty entry behind. -/
theorem setMembers_eq (h : Hub) (scope : Scope) {entry : ScopeEntry} (hr : entry.retired = false)
    (ids : List SubscriptionId) : h.setMembers scope entry ids = h.withMembers scope ids := by
  obtain ⟨old, retired⟩ := entry
  subst hr
  cases ids with
  | cons id rest => rfl
  | nil =>
    have hr : ((h.registered.insert scope ⟨[], false⟩).insert scope ⟨[], true⟩).erase scope =
        h.registered.erase scope := by
      apply Table.ext_get?
      intro scope'
      rw [Table.insert_insert, Table.get?_erase, Table.get?_erase, Table.get?_insert]
      split <;> rfl
    simp [setMembers, prune, setEntry, withMembers, hr]

/-! ## Subscribing -/

/-- One pass registers a subscription, unless the hub is closed. -/
theorem Tidy.register_eq (ht : h.Tidy) (s : Subscription) :
    h.register s =
      if h.closed then .refused
      else .registered {
        h.withMembers s.scope (h.members s.scope ++ [s.id]) with
        totalSubscriptions := h.totalSubscriptions + 1 } := by
  rw [register, entry?]
  cases h.closed with
  | true => rfl
  | false =>
    rw [members]
    cases he : h.registered.get? s.scope with
    | none => simp [setEntry, withMembers, Table.insert_insert]
    | some entry => simp [setEntry, withMembers, (ht _ _ he).2]

/-- The hub with one more subscription, which has an empty queue.  It is registered after the others
of its scope, unless the hub is closed. -/
def withSubscription (h : Hub) (scope : Scope) : Hub :=
  let made := { h with
    nextNumber := h.nextNumber + 1
    queues := h.queues.insert ⟨h.nextNumber⟩ [] }
  if h.closed then made
  else { made.withMembers scope (h.members scope ++ [⟨h.nextNumber⟩]) with
    totalSubscriptions := h.totalSubscriptions + 1 }

/-- A new subscription has the next number. -/
theorem Tidy.subscribe?_eq (ht : h.Tidy) (hcap : Queue.canHave h.capacity = true) (scope : Scope) :
    h.subscribe? scope = some (⟨⟨h.nextNumber⟩, scope⟩, h.withSubscription scope) := by
  have hmade : Tidy { h with
      nextNumber := h.nextNumber + 1
      queues := h.queues.insert ⟨h.nextNumber⟩ [] } := ht
  simp only [subscribe?, hcap, Bool.not_true, Bool.false_eq_true, if_false, hmade.register_eq,
    withSubscription]
  cases h.closed with
  | true => rfl
  | false => rfl

/-- There is no subscription without a queue. -/
theorem subscribe?_of_not_canHave (hcap : Queue.canHave h.capacity = false) (scope : Scope) :
    h.subscribe? scope = none := by
  simp [subscribe?, hcap]

theorem withSubscription_eq (h : Hub) (scope : Scope) :
    h.withSubscription scope = { h with
      nextNumber := h.nextNumber + 1
      registered := (h.withSubscription scope).registered
      queues := h.queues.insert ⟨h.nextNumber⟩ []
      totalSubscriptions := h.totalSubscriptions + if h.closed then 0 else 1 } := by
  rw [withSubscription]
  cases h.closed with
  | true => rfl
  | false => rfl

theorem members_withSubscription (h : Hub) (scope scope' : Scope) :
    (h.withSubscription scope).members scope' =
      h.members scope' ++ if scope = scope' ∧ h.closed = false then [⟨h.nextNumber⟩] else [] := by
  rw [withSubscription]
  cases h.closed with
  | true =>
    simp only [Bool.true_eq_false, and_false, if_true, if_false, List.append_nil]
    rfl
  | false =>
    refine (members_withMembers _ _ _ _).trans ?_
    by_cases hs : scope' = scope
    · simp [hs]
    · rw [if_neg hs, if_neg fun h => hs h.1.symm, List.append_nil]
      rfl

theorem Tidy.of_withSubscription (ht : h.Tidy) (scope : Scope) :
    (h.withSubscription scope).Tidy := by
  rw [withSubscription]
  split
  · exact ht
  · have hmade : Tidy { h with
        nextNumber := h.nextNumber + 1
        queues := h.queues.insert ⟨h.nextNumber⟩ [] } := ht
    exact hmade.of_withMembers _ _

/-- A subscription that is not registered stays so. -/
theorem Tidy.unsubscribe_eq (ht : h.Tidy) (s : Subscription) :
    h.unsubscribe s = h.withMembers s.scope ((h.members s.scope).filter (· != s.id)) := by
  rw [unsubscribe]
  cases he : h.registered.get? s.scope with
  | none =>
    have hm := members_of_no_entry he
    rw [hm, List.filter_nil, ← hm, ht.withMembers_members]
  | some entry =>
    have hm := members_of_entry he
    simp only
    split
    · rw [setMembers_eq h _ (ht _ _ he).2, hm]
    · next hid =>
      have hall : (h.members s.scope).filter (· != s.id) = h.members s.scope := by
        refine List.filter_eq_self.2 fun id hmem => ?_
        rw [bne_iff_ne]
        rintro rfl
        exact hid (hm ▸ hmem)
      rw [hall, ht.withMembers_members]

/-! ## Broadcasting -/

/-- The events that wait for the owner of a subscription, oldest first. -/
def waiting (h : Hub) (s : Subscription) : List ChangeEvent := (h.queues.get? s.id).getD []

/-- Puts an event at the end of a queue that is not full. -/
def enqueue (places : Nat) (event : ChangeEvent) (queue : List ChangeEvent) : List ChangeEvent :=
  if queue.length < places then queue ++ [event] else queue

theorem length_enqueue_le {places : Nat} {queue : List ChangeEvent}
    (hq : queue.length ≤ places) : (enqueue places event queue).length ≤ places := by
  rw [enqueue]
  split
  · simp only [List.length_append, List.length_singleton]
    omega
  · exact hq

/-- Delivering an event touches the queues only. -/
theorem deliver_eq (h : Hub) (event : ChangeEvent) (id : SubscriptionId) :
    (h.deliver event id).1 = { h with queues := (h.deliver event id).1.queues } := by
  rw [deliver]
  split
  · rfl
  · split <;> rfl

theorem get?_queues_deliver (h : Hub) (event : ChangeEvent) (id id' : SubscriptionId) :
    (h.deliver event id).1.queues.get? id' =
      if id' = id then (h.queues.get? id').map (enqueue (Queue.places h.capacity) event)
      else h.queues.get? id' := by
  rw [deliver]
  by_cases hid : id' = id
  · subst hid
    rw [if_pos rfl]
    cases hq : h.queues.get? id' with
    | none => simp [hq]
    | some queue =>
      by_cases hl : queue.length < Queue.places h.capacity
      · simp [hl, enqueue]
      · simp [hl, enqueue, hq]
  · rw [if_neg hid]
    split
    · rfl
    · split
      · exact Table.get?_insert_of_ne _ hid _
      · rfl

theorem deliverAll_cons (h : Hub) (event : ChangeEvent) (id : SubscriptionId)
    (ids : List SubscriptionId) :
    (h.deliverAll event (id :: ids)).1 = ((h.deliver event id).1.deliverAll event ids).1 := rfl

theorem deliverAll_eq (h : Hub) (event : ChangeEvent) (ids : List SubscriptionId) :
    (h.deliverAll event ids).1 = { h with queues := (h.deliverAll event ids).1.queues } := by
  induction ids generalizing h with
  | nil => rfl
  | cons id rest ih =>
    rw [deliverAll_cons, ih, deliver_eq]

/-- The event gets into each of the queues once. -/
theorem get?_queues_deliverAll (h : Hub) (event : ChangeEvent) (hn : ids.Nodup)
    (id : SubscriptionId) :
    (h.deliverAll event ids).1.queues.get? id =
      if id ∈ ids then (h.queues.get? id).map (enqueue (Queue.places h.capacity) event)
      else h.queues.get? id := by
  induction ids generalizing h with
  | nil => rfl
  | cons first rest ih =>
    obtain ⟨hfirst, hrest⟩ := List.nodup_cons.1 hn
    have hcap : (h.deliver event first).1.capacity = h.capacity := by rw [deliver_eq]
    rw [deliverAll_cons, ih _ hrest, get?_queues_deliver, hcap]
    by_cases hid : id = first
    · subst hid
      simp [hfirst]
    · simp [hid]

/-- A broadcast keeps the registrations of the subscriptions that have a queue. -/
theorem Tidy.broadcast_eq (ht : h.Tidy) (scope : Scope) (event : ChangeEvent) :
    (h.broadcast scope event).2 =
      { h.withMembers scope ((h.members scope).filter (h.queues.contains ·)) with
        queues := (h.broadcast scope event).2.queues
        eventsBroadcast := (h.broadcast scope event).2.eventsBroadcast
        eventsDropped := (h.broadcast scope event).2.eventsDropped } := by
  rw [broadcast]
  cases he : h.registered.get? scope with
  | none =>
    have hm := members_of_no_entry he
    rw [hm, List.filter_nil, ← hm, ht.withMembers_members]
  | some entry =>
    simp only
    rw [setMembers_eq _ _ (ht _ _ he).2, deliverAll_eq, members_of_entry he]
    rfl

theorem Tidy.members_broadcast (ht : h.Tidy) (scope : Scope) (event : ChangeEvent)
    (scope' : Scope) :
    (h.broadcast scope event).2.members scope' =
      (h.members scope').filter fun id => scope' != scope || h.queues.contains id := by
  rw [ht.broadcast_eq]
  refine (members_withMembers _ _ _ _).trans ?_
  by_cases hs : scope' = scope
  · simp [hs]
  · rw [if_neg hs]
    refine (List.filter_eq_self.2 fun _ _ => ?_).symm
    simp [hs]

/-- A broadcast puts the event into the queues of the subscriptions of the scope. -/
theorem Tidy.get?_queues_broadcast (ht : h.Tidy) (scope : Scope) (event : ChangeEvent)
    (hn : (h.members scope).Nodup) (id : SubscriptionId) :
    (h.broadcast scope event).2.queues.get? id =
      if id ∈ h.members scope then
        (h.queues.get? id).map (enqueue (Queue.places h.capacity) event)
      else h.queues.get? id := by
  rw [members] at hn ⊢
  rw [broadcast]
  cases he : h.registered.get? scope with
  | none => rfl
  | some entry =>
    rw [he] at hn
    simp only
    rw [setMembers_eq _ _ (ht _ _ he).2]
    exact get?_queues_deliverAll _ event hn id

/-- A broadcast neither makes queues nor takes them away. -/
theorem Tidy.contains_queues_broadcast (ht : h.Tidy) (scope : Scope) (event : ChangeEvent)
    (hn : (h.members scope).Nodup) (id : SubscriptionId) :
    (h.broadcast scope event).2.queues.contains id = h.queues.contains id := by
  rw [Table.contains, ht.get?_queues_broadcast scope event hn, Table.contains]
  split
  · exact Option.isSome_map
  · rfl

/-- A subscription without a queue has nothing waiting, whatever is sent. -/
theorem Tidy.waiting_broadcast (ht : h.Tidy) (scope : Scope) (event : ChangeEvent)
    (hn : (h.members scope).Nodup) (s : Subscription) :
    (h.broadcast scope event).2.waiting s =
      if s.id ∈ h.members scope ∧ h.queues.contains s.id = true then
        enqueue (Queue.places h.capacity) event (h.waiting s)
      else h.waiting s := by
  rw [waiting, ht.get?_queues_broadcast scope event hn, waiting, Table.contains]
  by_cases hs : s.id ∈ h.members scope
  · cases hq : h.queues.get? s.id with
    | none => simp
    | some queue => simp [hs]
  · simp [hs]

/-! ## Receiving -/

/-- Receiving gives the oldest event. -/
theorem fst_receive (h : Hub) (s : Subscription) : (h.receive s).1 = (h.waiting s).head? := by
  rw [receive, waiting]
  split
  · next heq => rw [heq]; rfl
  · next hne =>
    match hq : h.queues.get? s.id with
    | none => rfl
    | some [] => rfl
    | some (event :: rest) => exact absurd hq (hne event rest)

/-- Receiving touches the queues only. -/
theorem receive_eq (h : Hub) (s : Subscription) :
    (h.receive s).2 = { h with queues := (h.receive s).2.queues } := by
  rw [receive]
  split <;> rfl

theorem get?_queues_receive (h : Hub) (s : Subscription) (id : SubscriptionId) :
    (h.receive s).2.queues.get? id =
      if id = s.id then (h.queues.get? id).map (·.tail) else h.queues.get? id := by
  rw [receive]
  split
  · next heq =>
    rw [Table.get?_insert]
    split
    · next hid => rw [hid, heq]; rfl
    · rfl
  · next hne =>
    split
    · next hid =>
      subst hid
      match hq : h.queues.get? s.id with
      | none => rfl
      | some [] => rfl
      | some (event :: rest) => exact absurd hq (hne event rest)
    · rfl

theorem waiting_receive (h : Hub) (s s' : Subscription) :
    (h.receive s).2.waiting s' =
      if s'.id = s.id then (h.waiting s').tail else h.waiting s' := by
  rw [waiting, get?_queues_receive, waiting]
  split
  · cases h.queues.get? s'.id with
    | none => rfl
    | some queue => rfl
  · rfl

theorem waiting_dropReceiver (h : Hub) (s s' : Subscription) :
    (h.dropReceiver s).waiting s' = if s'.id = s.id then [] else h.waiting s' := by
  rw [waiting, dropReceiver, Table.get?_erase, waiting]
  split <;> rfl

/-- Waiting takes what receiving takes. -/
theorem snd_await (h : Hub) (s : Subscription) : (h.await s).2 = (h.receive s).2 := by
  rw [await]
  split
  · next heq => rw [heq]
  · next heq => rw [heq]

/-- Waiting gives the oldest event.  Without one it ends if and only if the subscription is not
registered. -/
theorem fst_await (h : Hub) (s : Subscription) :
    (h.await s).1 =
      match (h.waiting s).head? with
      | some event => .event event
      | none => if h.isRegistered s then .pending else .ended := by
  rw [await, ← fst_receive]
  split
  · next heq => rw [heq]
  · next hub heq =>
    have hreg : hub.isRegistered s = h.isRegistered s := by
      have : hub = (h.receive s).2 := by rw [heq]
      rw [this, receive_eq]
      rfl
    rw [heq, hreg]

end FeatureFlags.Hub
