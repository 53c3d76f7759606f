import FeatureFlags.Proofs.Hub.Course

/-!
# Histories of a hub

A history is a hub with all the subscriptions that have been made on it, in the order in which they
were made, and with the course of each.  Owners know a subscription by its place in that order.

* `History.step` is what an action does.  The owner of a subscription whose receiver is gone does
  nothing more.
* `History.feed` is a subscription of a history by itself, and `Action.concern?` is what an action
  means to it.
* The courses depend on the actions, on how full the queues were, and on what owners were given.
  They do not depend on who is registered.
-/

namespace FeatureFlags.Hub

/-- The event that has been waited for, if there was one. -/
def Awaited.event? : Awaited → Option ChangeEvent
  | .event e => some e
  | .ended | .pending => none

/-- A subscription with what has become of it. -/
structure Subscriber where
  subscription : Subscription
  course : Course

namespace Subscriber

/-- The number of the subscription. -/
def id (p : Subscriber) : SubscriptionId := p.subscription.id

/-- The scope of the subscription. -/
def scope (p : Subscriber) : Scope := p.subscription.scope

/-- Whether the subscription should be registered for a scope. -/
def standsIn (scope : Scope) (p : Subscriber) : Bool := p.scope == scope && p.course.stands

theorem standsIn_of_eq {scope : Scope} {p : Subscriber} (hs : p.scope = scope) :
    p.standsIn scope = p.course.stands := by
  simp [standsIn, hs]

theorem standsIn_of_ne {scope : Scope} {p : Subscriber} (hs : p.scope ≠ scope) :
    p.standsIn scope = false := by
  simp [standsIn, hs]

end Subscriber

/-- A hub with the subscriptions that have been made on it. -/
structure History where
  hub : Hub
  subscribers : List Subscriber

/-- What may happen to a hub.  Owners do something to the subscription at a place. -/
inductive Action where
  | subscribe (scope : Scope)
  | broadcast (scope : Scope) (event : ChangeEvent)
  /-- The owner looks for an event. -/
  | receive (place : Nat)
  /-- The owner waits for an event, until there is one or nothing to wait for. -/
  | await (place : Nat)
  | unsubscribe (place : Nat)
  /-- The receiver goes away. -/
  | drop (place : Nat)
  | close

namespace History

/-- The history of a hub without subscriptions. -/
def start (capacity : Nat) : History := ⟨.empty capacity, []⟩

/-- Whether the queue of a subscription is full. -/
def isFull (h : History) (p : Subscriber) : Bool :=
  Queue.places h.hub.capacity ≤ (h.hub.waiting p.subscription).length

/-- Makes a subscription. -/
def subscribe (h : History) (scope : Scope) : History :=
  match h.hub.subscribe? scope with
  | some (s, hub) => ⟨hub, h.subscribers ++ [⟨s, .start h.hub.closed⟩]⟩
  | none => h

/-- What a broadcast is to a subscription. -/
def told (h : History) (scope : Scope) (event : ChangeEvent) (p : Subscriber) : Subscriber :=
  if p.scope = scope then { p with course := p.course.offer event (h.isFull p) } else p

/-- Sends an event to a scope. -/
def broadcast (h : History) (scope : Scope) (event : ChangeEvent) : History :=
  ⟨(h.hub.broadcast scope event).2, h.subscribers.map (h.told scope event)⟩

/-- The owner of the subscription at a place does something, unless the receiver is gone. -/
def own (h : History) (place : Nat) (act : Subscriber → Hub × Course) : History :=
  match h.subscribers[place]? with
  | none => h
  | some p =>
    if p.course.dropped then h
    else ⟨(act p).1, h.subscribers.set place { p with course := (act p).2 }⟩

/-- Closes the hub. -/
def close (h : History) : History :=
  ⟨h.hub.close, h.subscribers.map fun p => { p with course := p.course.close }⟩

/-- What an action does. -/
def step (h : History) : Action → History
  | .subscribe scope => h.subscribe scope
  | .broadcast scope event => h.broadcast scope event
  | .receive place => h.own place fun p =>
    ((h.hub.receive p.subscription).2, p.course.hear (h.hub.receive p.subscription).1)
  | .await place => h.own place fun p =>
    ((h.hub.await p.subscription).2, p.course.hear (h.hub.await p.subscription).1.event?)
  | .unsubscribe place => h.own place fun p =>
    (h.hub.unsubscribe p.subscription, p.course.unsubscribe)
  | .drop place => h.own place fun p =>
    (h.hub.dropReceiver p.subscription, p.course.drop (h.hub.waiting p.subscription))
  | .close => h.close

/-- What actions do, one after the other. -/
def run (h : History) (actions : List Action) : History := actions.foldl step h

/-- A subscription by itself. -/
def feed (h : History) (p : Subscriber) : Feed := ⟨p.course, h.hub.waiting p.subscription⟩

@[simp] theorem run_nil (h : History) : h.run [] = h := rfl

@[simp] theorem run_cons (h : History) (a : Action) (actions : List Action) :
    h.run (a :: actions) = (h.step a).run actions := rfl

theorem run_append (h : History) (first second : List Action) :
    h.run (first ++ second) = (h.run first).run second := List.foldl_append

/-- A subscription is late if and only if the hub is closed when it is made. -/
theorem subscribe_eq {h : History} (ht : h.hub.Tidy) (hcap : Queue.canHave h.hub.capacity = true)
    (scope : Scope) :
    h.subscribe scope = ⟨h.hub.withSubscription scope,
      h.subscribers ++ [⟨⟨⟨h.hub.nextNumber⟩, scope⟩, .start h.hub.closed⟩]⟩ := by
  simp only [subscribe, ht.subscribe?_eq hcap scope]

theorem subscribe_of_not_canHave {h : History} (hcap : Queue.canHave h.hub.capacity = false)
    (scope : Scope) : h.subscribe scope = h := by
  simp only [subscribe, subscribe?_of_not_canHave hcap scope]

theorem told_of_eq (h : History) (event : ChangeEvent) {scope : Scope} {p : Subscriber}
    (hs : p.scope = scope) :
    h.told scope event p = { p with course := p.course.offer event (h.isFull p) } := if_pos hs

theorem told_of_ne (h : History) (event : ChangeEvent) {scope : Scope} {p : Subscriber}
    (hs : p.scope ≠ scope) : h.told scope event p = p := if_neg hs

@[simp] theorem subscription_told (h : History) (scope : Scope) (event : ChangeEvent)
    (p : Subscriber) : (h.told scope event p).subscription = p.subscription := by
  rw [told]
  split <;> rfl

@[simp] theorem late_told (h : History) (scope : Scope) (event : ChangeEvent) (p : Subscriber) :
    (h.told scope event p).course.late = p.course.late := by
  rw [told]
  split
  · exact Course.late_offer
  · rfl

@[simp] theorem dropped_told (h : History) (scope : Scope) (event : ChangeEvent) (p : Subscriber) :
    (h.told scope event p).course.dropped = p.course.dropped := by
  rw [told]
  split
  · exact Course.dropped_offer
  · rfl

/-- A broadcast to its scope ends the standing of a subscription whose receiver is gone. -/
theorem standsIn_told (h : History) (scope : Scope) (event : ChangeEvent) (p : Subscriber)
    (scope' : Scope) :
    (h.told scope event p).standsIn scope' =
      (p.standsIn scope' && (scope' != scope || !p.course.dropped)) := by
  by_cases hp : p.scope = scope'
  · rw [Subscriber.standsIn_of_eq hp,
      Subscriber.standsIn_of_eq ((congrArg Subscription.scope (h.subscription_told ..)).trans hp)]
    by_cases hs : scope' = scope
    · rw [h.told_of_eq event (hp.trans hs), Course.stands_offer]
      simp [hs]
    · rw [h.told_of_ne event fun he => hs (hp.symm.trans he)]
      simp [hs]
  · have hp' : (h.told scope event p).scope ≠ scope' := by
      rw [Subscriber.scope, subscription_told]
      exact hp
    rw [Subscriber.standsIn_of_ne hp, Subscriber.standsIn_of_ne hp', Bool.false_and]

/-- The owner of a subscription whose receiver is there does something. -/
theorem own_of_not_dropped {h : History} {place : Nat} {p : Subscriber}
    (hp : h.subscribers[place]? = some p) (hd : p.course.dropped = false)
    (act : Subscriber → Hub × Course) :
    h.own place act = ⟨(act p).1, h.subscribers.set place { p with course := (act p).2 }⟩ := by
  simp only [own, hp, hd, Bool.false_eq_true, if_false]

theorem own_of_dropped {h : History} {place : Nat} {p : Subscriber}
    (hp : h.subscribers[place]? = some p) (hd : p.course.dropped = true)
    (act : Subscriber → Hub × Course) : h.own place act = h := by
  simp only [own, hp, hd, if_true]

/-- Nobody else does anything. -/
theorem own_cases (h : History) (place : Nat) (act : Subscriber → Hub × Course) :
    h.own place act = h ∨ ∃ p, h.subscribers[place]? = some p ∧ p.course.dropped = false ∧
      h.own place act = ⟨(act p).1, h.subscribers.set place { p with course := (act p).2 }⟩ := by
  cases hp : h.subscribers[place]? with
  | none => exact Or.inl (by simp only [own, hp])
  | some p =>
    cases hd : p.course.dropped with
    | true => exact Or.inl (own_of_dropped hp hd act)
    | false => exact Or.inr ⟨p, rfl, hd, own_of_not_dropped hp hd act⟩

/-- Waiting for an event is receiving it if there is one. -/
theorem step_await (h : History) (place : Nat) :
    h.step (.await place) = h.step (.receive place) := by
  have hevent : ∀ s, (h.hub.await s).1.event? = (h.hub.receive s).1 := by
    intro s
    rw [fst_await, fst_receive]
    cases (h.hub.waiting s).head? with
    | some event => rfl
    | none => simp only; split <;> rfl
  simp only [step, snd_await, hevent]

end History

namespace Action

/-- What an action means to the subscription at a place, which is for the given scope. -/
def concern? (place : Nat) (scope : Scope) : Action → Option Happening
  | .subscribe _ => none
  | .broadcast scope' event => if scope' = scope then some (.offer event) else none
  | .receive place' | .await place' => if place' = place then some .take else none
  | .unsubscribe place' => if place' = place then some .unsubscribe else none
  | .drop place' => if place' = place then some .drop else none
  | .close => some .close

/-- What concerns a subscription is a broadcast to its scope, something that its owner does, or the
end of the hub. -/
theorem concern?_cases {place : Nat} {scope : Scope} {a : Action} {x : Happening}
    (h : a.concern? place scope = some x) :
    (∃ event, a = .broadcast scope event ∧ x = .offer event) ∨
    ((a = .receive place ∨ a = .await place) ∧ x = .take) ∨
    (a = .unsubscribe place ∧ x = .unsubscribe) ∨ (a = .drop place ∧ x = .drop) ∨
    (a = .close ∧ x = .close) := by
  cases a with
  | subscribe scope' => cases h
  | broadcast scope' event =>
    obtain ⟨rfl, hx⟩ := Option.ite_none_right_eq_some.1 h
    exact Or.inl ⟨event, rfl, (Option.some.inj hx).symm⟩
  | receive place' =>
    obtain ⟨rfl, hx⟩ := Option.ite_none_right_eq_some.1 h
    exact Or.inr (Or.inl ⟨Or.inl rfl, (Option.some.inj hx).symm⟩)
  | await place' =>
    obtain ⟨rfl, hx⟩ := Option.ite_none_right_eq_some.1 h
    exact Or.inr (Or.inl ⟨Or.inr rfl, (Option.some.inj hx).symm⟩)
  | unsubscribe place' =>
    obtain ⟨rfl, hx⟩ := Option.ite_none_right_eq_some.1 h
    exact Or.inr (Or.inr (Or.inl ⟨rfl, (Option.some.inj hx).symm⟩))
  | drop place' =>
    obtain ⟨rfl, hx⟩ := Option.ite_none_right_eq_some.1 h
    exact Or.inr (Or.inr (Or.inr (Or.inl ⟨rfl, (Option.some.inj hx).symm⟩)))
  | close => exact Or.inr (Or.inr (Or.inr (Or.inr ⟨rfl, (Option.some.inj h).symm⟩)))

theorem drop_mem_of_concern? {place : Nat} {scope : Scope} {actions : List Action}
    (h : .drop ∈ actions.filterMap (·.concern? place scope)) : .drop place ∈ actions := by
  obtain ⟨a, ha, hx⟩ := List.mem_filterMap.1 h
  have : a = .drop place := by simpa using concern?_cases hx
  exact this ▸ ha

theorem close_mem_concern?_iff {place : Nat} {scope : Scope} {actions : List Action} :
    .close ∈ actions.filterMap (·.concern? place scope) ↔ .close ∈ actions := by
  rw [List.mem_filterMap]
  constructor
  · rintro ⟨a, ha, hx⟩
    have : a = .close := by simpa using concern?_cases hx
    exact this ▸ ha
  · intro hc
    exact ⟨.close, hc, rfl⟩

/-- The scope that is subscribed to. -/
def subscribed? : Action → Option Scope
  | .subscribe scope => some scope
  | _ => none

end Action

end FeatureFlags.Hub
