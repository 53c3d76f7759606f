import FeatureFlags.Event
import FeatureFlags.Queue
import FeatureFlags.Scope

/-!
# The hub

Brings change events to the subscribers of a scope.  Every subscription has a queue of its
own.  A broadcast puts the event into the queues of all subscriptions that are registered for
the scope and never waits: a subscription whose queue is full misses the event.

A subscription whose receiver is gone stays registered until the next broadcast to its scope.
A scope has an entry in the registry as long as it has registered subscriptions.  An entry that
becomes empty is retired and then taken out, so nobody registers with it any more.
-/

namespace FeatureFlags

/-- Identifies a subscription; they are numbered from one. -/
structure SubscriptionId where
  number : Nat
deriving DecidableEq, Inhabited, Repr

namespace SubscriptionId

instance : Ord SubscriptionId := ⟨compareOn SubscriptionId.number⟩

instance : Std.TransOrd SubscriptionId :=
  inferInstanceAs <| Std.TransCmp <| compareOn SubscriptionId.number

instance : Std.LawfulEqOrd SubscriptionId where
  eq_of_compare {a b} h := by
    obtain ⟨m⟩ := a
    obtain ⟨n⟩ := b
    have : m = n := Std.LawfulEqOrd.eq_of_compare (α := Nat) h
    rw [this]

/-- The text of an identifier. -/
def text (i : SubscriptionId) : String := "sub-" ++ toString i.number

end SubscriptionId

/-- A registration for the events of a scope, as its owner holds it. -/
structure Subscription where
  id : SubscriptionId
  scope : Scope
deriving DecidableEq, Inhabited

/-- How many queues a broadcast reached, and how many were full. -/
structure BroadcastOutcome where
  delivered : Nat
  dropped : Nat
deriving DecidableEq, Inhabited, Repr

namespace BroadcastOutcome

/-- No queue at all. -/
def zero : BroadcastOutcome := ⟨0, 0⟩

/-- The outcome of two broadcasts together. -/
def add (a b : BroadcastOutcome) : BroadcastOutcome :=
  ⟨a.delivered + b.delivered, a.dropped + b.dropped⟩

instance : Wire BroadcastOutcome where
  encode o := .object [("delivered", encode o.delivered), ("dropped", encode o.dropped)]
  decode? d := do
    let [delivered, dropped] ←
      d.record? [("delivered", .required), ("dropped", .required)] | none
    return { delivered := ← Document.field? delivered, dropped := ← Document.field? dropped }

end BroadcastOutcome

/-- The counts of a hub. -/
structure HubStats where
  scopeCount : Nat
  subscriberCount : Nat
  eventsBroadcast : Nat
  eventsDropped : Nat
  totalSubscriptions : Nat
deriving DecidableEq, Inhabited

instance : Wire HubStats where
  encode s := .object [("scope_count", encode s.scopeCount),
    ("subscriber_count", encode s.subscriberCount),
    ("events_broadcast", encode s.eventsBroadcast), ("events_dropped", encode s.eventsDropped),
    ("total_subscriptions", encode s.totalSubscriptions)]
  decode? d := do
    let [scopes, subscribers, broadcast, dropped, total] ← d.record?
      [("scope_count", .required), ("subscriber_count", .required),
        ("events_broadcast", .required), ("events_dropped", .required),
        ("total_subscriptions", .required)] | none
    return {
      scopeCount := ← Document.field? scopes
      subscriberCount := ← Document.field? subscribers
      eventsBroadcast := ← Document.field? broadcast
      eventsDropped := ← Document.field? dropped
      totalSubscriptions := ← Document.field? total }

/-- The entry of a scope in the registry of a hub. -/
structure ScopeEntry where
  /-- The registered subscriptions of the scope. -/
  members : List SubscriptionId
  /-- Whether the entry is being taken out of the registry. -/
  retired : Bool
deriving DecidableEq, Inhabited

/-- A registry of subscriptions with their queues. -/
structure Hub where
  /-- How many events a queue may hold; zero counts as one. -/
  capacity : Nat
  closed : Bool
  /-- The number of the next subscription. -/
  nextNumber : Nat
  /-- The entries of the scopes with registered subscriptions. -/
  registered : Table Scope ScopeEntry
  /-- The queues of the subscriptions whose receivers are not gone, oldest event first. -/
  queues : Table SubscriptionId (List ChangeEvent)
  eventsBroadcast : Nat
  eventsDropped : Nat
  totalSubscriptions : Nat

namespace Hub

/-- A hub without subscriptions whose queues have the given capacity. -/
def empty (capacity : Nat) : Hub where
  capacity
  closed := false
  nextNumber := 1
  registered := .empty
  queues := .empty
  eventsBroadcast := 0
  eventsDropped := 0
  totalSubscriptions := 0

/-! ## Looking -/

/-- The registered subscriptions of a scope. -/
def members (h : Hub) (scope : Scope) : List SubscriptionId :=
  match h.registered.get? scope with
  | some entry => entry.members
  | none => []

/-- The number of registered subscriptions of a scope. -/
def subscriberCount (h : Hub) (scope : Scope) : Nat := (h.members scope).length

/-- The number of scopes with registered subscriptions. -/
def scopeCount (h : Hub) : Nat := h.registered.size

/-- Whether a subscription is registered. -/
def isRegistered (h : Hub) (s : Subscription) : Bool := s.id ∈ h.members s.scope

/-- The counts of the hub. -/
def stats (h : Hub) : HubStats where
  scopeCount := h.scopeCount
  subscriberCount := (h.registered.values.map (·.members.length)).foldr (· + ·) 0
  eventsBroadcast := h.eventsBroadcast
  eventsDropped := h.eventsDropped
  totalSubscriptions := h.totalSubscriptions

/-! ## Entries -/

/-- Sets the entry of a scope. -/
def setEntry (h : Hub) (scope : Scope) (entry : ScopeEntry) : Hub :=
  { h with registered := h.registered.insert scope entry }

/-- The entry of a scope, which is made if need be; none once the hub is closed. -/
def entry? (h : Hub) (scope : Scope) : Option (ScopeEntry × Hub) :=
  if h.closed then none
  else
    match h.registered.get? scope with
    | some entry => some (entry, h)
    | none =>
      let entry : ScopeEntry := ⟨[], false⟩
      some (entry, h.setEntry scope entry)

/-- Retires the entry of a scope and takes it out if it is empty. -/
def prune (h : Hub) (scope : Scope) : Hub :=
  match h.registered.get? scope with
  | none => h
  | some entry =>
    if entry.members.isEmpty && !entry.retired then
      let h := h.setEntry scope { entry with retired := true }
      { h with registered := h.registered.erase scope }
    else h

/-- Sets the registered subscriptions of a scope that has an entry, which goes away with the last
of them. -/
def setMembers (h : Hub) (scope : Scope) (entry : ScopeEntry) (ids : List SubscriptionId) : Hub :=
  let h := h.setEntry scope { entry with members := ids }
  if ids.isEmpty then h.prune scope else h

/-! ## Subscribing -/

/-- What a pass of registering a subscription comes to. -/
inductive Pass where
  | registered (h : Hub)
  /-- The hub is closed. -/
  | refused
  /-- The entry of the scope was retired after it had been found, so another pass is due. -/
  | again (h : Hub)

/-- A pass of registering a subscription. -/
def register (h : Hub) (s : Subscription) : Pass :=
  match h.entry? s.scope with
  | none => .refused
  | some (entry, h) =>
    if entry.retired then .again h
    else
      let h := h.setEntry s.scope { entry with members := entry.members ++ [s.id] }
      .registered { h with totalSubscriptions := h.totalSubscriptions + 1 }

/-- Makes a subscription for a scope.  After the hub is closed the subscription is closed from
the start.  There is none if its queue cannot be made, or if another pass is due: all passes of
one call find the same entry, so there is no end to them. -/
def subscribe? (h : Hub) (scope : Scope) : Option (Subscription × Hub) :=
  if !Queue.canHave h.capacity then none
  else
    let s : Subscription := ⟨⟨h.nextNumber⟩, scope⟩
    let h := { h with nextNumber := h.nextNumber + 1, queues := h.queues.insert s.id [] }
    match h.register s with
    | .registered h => some (s, h)
    | .refused => some (s, h)
    | .again _ => none

/-- Ends the registration of a subscription.  What is queued can still be received. -/
def unsubscribe (h : Hub) (s : Subscription) : Hub :=
  match h.registered.get? s.scope with
  | none => h
  | some entry =>
    if s.id ∈ entry.members then h.setMembers s.scope entry (entry.members.filter (· != s.id))
    else h

/-- The receiver of a subscription is gone, with all that is queued. -/
def dropReceiver (h : Hub) (s : Subscription) : Hub := { h with queues := h.queues.erase s.id }

/-- Ends all registrations and refuses new ones: every entry is emptied, retired and taken out. -/
def close (h : Hub) : Hub := { h with closed := true, registered := .empty }

/-! ## Events -/

/-- Puts an event into the queue of a subscription, if it has one that is not full. -/
def deliver (h : Hub) (event : ChangeEvent) (id : SubscriptionId) : Hub × BroadcastOutcome :=
  match h.queues.get? id with
  | none => (h, .zero)
  | some queue =>
    if queue.length < Queue.places h.capacity then
      ({ h with queues := h.queues.insert id (queue ++ [event]) }, ⟨1, 0⟩)
    else (h, ⟨0, 1⟩)

/-- Puts an event into the queues of some subscriptions. -/
def deliverAll (h : Hub) (event : ChangeEvent) :
    List SubscriptionId → Hub × BroadcastOutcome
  | [] => (h, .zero)
  | id :: ids =>
    let (h, first) := h.deliver event id
    let (h, others) := h.deliverAll event ids
    (h, first.add others)

/-- Sends an event to the subscribers of a scope.  Subscriptions whose receivers are gone lose
their registration. -/
def broadcast (h : Hub) (scope : Scope) (event : ChangeEvent) : BroadcastOutcome × Hub :=
  let h := { h with eventsBroadcast := h.eventsBroadcast + 1 }
  match h.registered.get? scope with
  | none => (.zero, h)
  | some entry =>
    let (sent, outcome) := h.deliverAll event entry.members
    let alive := entry.members.filter fun id => h.queues.contains id
    let left := sent.setMembers scope entry alive
    (outcome, { left with eventsDropped := left.eventsDropped + outcome.dropped })

/-- Takes the oldest event out of the queue of a subscription. -/
def receive (h : Hub) (s : Subscription) : Option ChangeEvent × Hub :=
  match h.queues.get? s.id with
  | some (event :: rest) => (some event, { h with queues := h.queues.insert s.id rest })
  | _ => (none, h)

/-- What waiting for the next event comes to. -/
inductive Awaited where
  | event (event : ChangeEvent)
  /-- There will be no more events. -/
  | ended
  /-- The queue is empty for now. -/
  | pending

/-- Takes the oldest event out of the queue of a subscription, and tells whether there will be
more if the queue is empty. -/
def await (h : Hub) (s : Subscription) : Awaited × Hub :=
  match h.receive s with
  | (some event, h) => (.event event, h)
  | (none, h) => (if h.isRegistered s then .pending else .ended, h)

end Hub

end FeatureFlags
