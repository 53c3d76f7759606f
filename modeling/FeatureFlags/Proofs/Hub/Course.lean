import FeatureFlags.Proofs.Hub.Operations

/-!
# The course of a subscription

What becomes of one subscription, told without the hub.  A feed is a subscription by itself: its
queue, and what it has met so far.  Events are offered to it until it is over, and taken from it
until it is dropped.

* `Sound` relates the queue to the offers: what has been received, what waits and what was lost with
  the receiver are together the offers that found a place.  `Sound.run` says that this stays so.
* `offered_run` says which events are offered: those before the first end.
* `Sound.drained_run` says that the queue of a feed that is over drains in its order, and
  `lost_run_drop` what is lost with the receiver.
-/

namespace FeatureFlags.Hub

/-- An event that was broadcast while a subscription was not over. -/
structure Offer where
  event : ChangeEvent
  /-- Whether the queue was full at that moment. -/
  full : Bool

/-- What a subscription has met. -/
structure Course where
  /-- Whether the hub was closed before the subscription was made. -/
  late : Bool
  unsubscribed : Bool
  /-- Whether the hub has been closed since. -/
  closed : Bool
  /-- Whether its receiver is gone. -/
  dropped : Bool
  /-- Whether an event has been broadcast to its scope since its receiver is gone. -/
  forgotten : Bool
  /-- The broadcasts to its scope from the beginning until the subscription was over. -/
  offered : List Offer
  received : List ChangeEvent
  /-- The events that waited when the receiver went away. -/
  lost : List ChangeEvent

namespace Course

/-- The course of a new subscription. -/
def start (late : Bool) : Course where
  late
  unsubscribed := false
  closed := false
  dropped := false
  forgotten := false
  offered := []
  received := []
  lost := []

/-- Whether the subscription gets no more events. -/
def isOver (c : Course) : Bool := c.late || c.unsubscribed || c.closed || c.dropped

/-- Whether the subscription should be registered.  The hub does not know that a receiver is gone
before it has an event for it. -/
def stands (c : Course) : Bool := !(c.late || c.unsubscribed || c.closed || c.forgotten)

/-- The events that found a place in the queue. -/
def accepted (c : Course) : List ChangeEvent := (c.offered.filter (!·.full)).map (·.event)

/-- An event is broadcast to the scope. -/
def offer (c : Course) (event : ChangeEvent) (full : Bool) : Course :=
  if c.isOver then { c with forgotten := c.forgotten || c.dropped }
  else { c with offered := c.offered ++ [⟨event, full⟩] }

/-- The owner gets an event, or nothing. -/
def hear (c : Course) (event? : Option ChangeEvent) : Course :=
  { c with received := c.received ++ event?.toList }

/-- The owner unsubscribes. -/
def unsubscribe (c : Course) : Course := { c with unsubscribed := true }

/-- The receiver goes away with the events that wait. -/
def drop (c : Course) (waiting : List ChangeEvent) : Course :=
  { c with dropped := true, lost := waiting }

/-- The hub is closed. -/
def close (c : Course) : Course := { c with closed := true }

variable {c : Course} {event : ChangeEvent} {full : Bool}

theorem offer_of_isOver (h : c.isOver = true) :
    c.offer event full = { c with forgotten := c.forgotten || c.dropped } := if_pos h

theorem offer_of_not_isOver (h : c.isOver = false) :
    c.offer event full = { c with offered := c.offered ++ [⟨event, full⟩] } := by
  rw [offer, h]
  rfl

@[simp] theorem late_offer : (c.offer event full).late = c.late := by
  rw [offer]
  split <;> rfl

@[simp] theorem dropped_offer : (c.offer event full).dropped = c.dropped := by
  rw [offer]
  split <;> rfl

@[simp] theorem closed_offer : (c.offer event full).closed = c.closed := by
  rw [offer]
  split <;> rfl

@[simp] theorem unsubscribed_offer : (c.offer event full).unsubscribed = c.unsubscribed := by
  rw [offer]
  split <;> rfl

@[simp] theorem received_offer : (c.offer event full).received = c.received := by
  rw [offer]
  split <;> rfl

@[simp] theorem lost_offer : (c.offer event full).lost = c.lost := by
  rw [offer]
  split <;> rfl

@[simp] theorem isOver_offer : (c.offer event full).isOver = c.isOver := by
  rw [offer]
  split <;> rfl

@[simp] theorem accepted_hear (event? : Option ChangeEvent) :
    (c.hear event?).accepted = c.accepted := rfl

@[simp] theorem isOver_hear (event? : Option ChangeEvent) : (c.hear event?).isOver = c.isOver := rfl

@[simp] theorem isOver_unsubscribe : c.unsubscribe.isOver = true := by
  simp [unsubscribe, isOver]

@[simp] theorem isOver_drop (waiting : List ChangeEvent) : (c.drop waiting).isOver = true := by
  simp [drop, isOver]

@[simp] theorem isOver_close : c.close.isOver = true := by
  simp [close, isOver]

theorem isOver_of_dropped (h : c.dropped = true) : c.isOver = true := by
  simp [isOver, h]

theorem isOver_of_unsubscribed (h : c.unsubscribed = true) : c.isOver = true := by
  simp [isOver, h]

/-- A subscription that is not over has its receiver. -/
theorem dropped_of_not_isOver (h : c.isOver = false) : c.dropped = false := by
  simp only [isOver, Bool.or_eq_false_iff] at h
  exact h.2

/-- A subscription that is not over stands and has its receiver. -/
theorem isOver_eq (hc : c.forgotten = true → c.dropped = true) :
    c.isOver = !(c.stands && !c.dropped) := by
  cases hd : c.dropped with
  | true => simp [isOver, hd]
  | false =>
    have hf : c.forgotten = false := by
      cases hf : c.forgotten with
      | true => exact (hd.symm.trans (hc hf)).symm
      | false => rfl
    simp [isOver, stands, hd, hf]

/-- A broadcast ends the standing of a subscription whose receiver is gone. -/
theorem stands_offer : (c.offer event full).stands = (c.stands && !c.dropped) := by
  cases ho : c.isOver with
  | true =>
    rw [offer_of_isOver ho]
    simp [stands, Bool.and_assoc]
  | false =>
    rw [offer_of_not_isOver ho]
    simp [stands, dropped_of_not_isOver ho]

/-- A broadcast forgets a subscription whose receiver is gone. -/
@[simp] theorem forgotten_offer :
    (c.offer event full).forgotten = (c.forgotten || c.dropped) := by
  cases ho : c.isOver with
  | true => rw [offer_of_isOver ho]
  | false =>
    rw [offer_of_not_isOver ho]
    simp [dropped_of_not_isOver ho]

/-- What an offer adds to the events that found a place. -/
theorem accepted_offer : (c.offer event full).accepted =
    if c.isOver || full then c.accepted else c.accepted ++ [event] := by
  cases ho : c.isOver with
  | true =>
    rw [offer_of_isOver ho]
    rfl
  | false =>
    rw [offer_of_not_isOver ho]
    cases full with
    | true => simp [accepted]
    | false => simp [accepted]

end Course

/-- What may concern a subscription. -/
inductive Happening where
  /-- An event is broadcast to its scope. -/
  | offer (event : ChangeEvent)
  /-- The owner receives, or waits for, an event. -/
  | take
  | unsubscribe
  | drop
  | close

namespace Happening

/-- Whether the subscription is over from then on. -/
def isEnd : Happening → Bool
  | .offer _ | .take => false
  | .unsubscribe | .drop | .close => true

/-- Whether it is something that the owner does. -/
def isOwn : Happening → Bool
  | .take | .unsubscribe | .drop => true
  | .offer _ | .close => false

/-- Whether it takes an event. -/
def isTake : Happening → Bool
  | .take => true
  | _ => false

/-- The event that is broadcast. -/
def event? : Happening → Option ChangeEvent
  | .offer event => some event
  | _ => none

end Happening

/-- A subscription by itself. -/
structure Feed where
  course : Course
  /-- The events that wait, oldest first. -/
  queue : List ChangeEvent

namespace Feed

/-- A new subscription by itself. -/
def start (late : Bool) : Feed := ⟨.start late, []⟩

/-- What a happening does to a feed whose queue has the given number of places.  Once it is dropped
there is nobody to do anything. -/
def step (places : Nat) (f : Feed) : Happening → Feed
  | .offer event =>
    ⟨f.course.offer event (places ≤ f.queue.length),
      if f.course.isOver then f.queue else enqueue places event f.queue⟩
  | .take => if f.course.dropped then f else ⟨f.course.hear f.queue.head?, f.queue.tail⟩
  | .unsubscribe => if f.course.dropped then f else ⟨f.course.unsubscribe, f.queue⟩
  | .drop => if f.course.dropped then f else ⟨f.course.drop f.queue, []⟩
  | .close => ⟨f.course.close, f.queue⟩

/-- What becomes of a feed if something happens that may concern it. -/
def meet (places : Nat) (f : Feed) : Option Happening → Feed
  | some x => f.step places x
  | none => f

/-- What happenings do, one after the other. -/
def run (places : Nat) (f : Feed) (met : List Happening) : Feed := met.foldl (step places) f

variable {places : Nat} {f : Feed}

@[simp] theorem run_nil : f.run places [] = f := rfl

@[simp] theorem run_cons (x : Happening) (met : List Happening) :
    f.run places (x :: met) = (f.step places x).run places met := rfl

theorem run_filterMap_cons {α : Type} (concern? : α → Option Happening) (a : α) (rest : List α) :
    f.run places ((a :: rest).filterMap concern?) =
      (f.meet places (concern? a)).run places (rest.filterMap concern?) := by
  rw [List.filterMap_cons]
  cases concern? a with
  | none => rfl
  | some x => rfl

/-- Once the receiver is gone its owner does nothing. -/
theorem step_of_dropped (places : Nat) (hd : f.course.dropped = true) {x : Happening}
    (hx : x.isOwn = true) : f.step places x = f := by
  cases x with
  | offer event => cases hx
  | take => exact if_pos hd
  | unsubscribe => exact if_pos hd
  | drop => exact if_pos hd
  | close => cases hx

/-! ## What is kept -/

/-- How the queue of a feed goes with what the subscription has met. -/
structure Sound (places : Nat) (f : Feed) : Prop where
  balance : f.course.received ++ f.queue ++ f.course.lost = f.course.accepted
  bound : f.queue.length ≤ places
  lost : f.course.dropped = false → f.course.lost = []
  emptied : f.course.dropped = true → f.queue = []

theorem sound_start (late : Bool) : (start late).Sound places where
  balance := rfl
  bound := Nat.zero_le _
  lost _ := rfl
  emptied _ := rfl

/-- An event that is offered finds a place at the end of the queue, or the queue is full. -/
theorem Sound.offer (hf : f.Sound places) (event : ChangeEvent) :
    (f.step places (.offer event)).Sound places := by
  cases ho : f.course.isOver with
  | true =>
    simp only [step, ho, if_true, Course.offer_of_isOver ho]
    exact ⟨hf.balance, hf.bound, hf.lost, hf.emptied⟩
  | false =>
    have hd : f.course.dropped = false := Course.dropped_of_not_isOver ho
    have hlost := hf.lost hd
    have hb := hf.balance
    rw [hlost, List.append_nil] at hb
    refine ⟨?_, ?_, fun _ => ?_, fun hd' => ?_⟩
    · -- The queue takes the event if and only if the offer counts as accepted.
      rw [step, Course.accepted_offer, Course.offer_of_not_isOver ho, enqueue, ← hb]
      simp only [ho, hlost, List.append_nil, Bool.false_or, Bool.false_eq_true, if_false,
        decide_eq_true_eq]
      by_cases hfull : places ≤ f.queue.length
      · rw [if_pos hfull, if_neg (Nat.not_lt.2 hfull)]
      · rw [if_neg hfull, if_pos (Nat.not_le.1 hfull), List.append_assoc]
    · simp only [step, ho, Bool.false_eq_true, if_false]
      exact length_enqueue_le hf.bound
    · simp only [step, Course.offer_of_not_isOver ho]
      exact hlost
    · simp only [step, Course.dropped_offer, hd] at hd'
      cases hd'

/-- An event that is taken was waiting. -/
theorem Sound.take (hf : f.Sound places) : (f.step places .take).Sound places := by
  cases hd : f.course.dropped with
  | true =>
    simp only [step, hd, if_true]
    exact hf
  | false =>
    simp only [step, hd, Bool.false_eq_true, if_false]
    have hb := hf.balance
    refine ⟨?_, ?_, hf.lost, fun hd' => ?_⟩
    · cases hq : f.queue with
      | nil => simpa [Course.hear, hq] using hb
      | cons event rest =>
        rw [Course.accepted_hear, ← hb]
        simp [Course.hear, hq]
    · have := hf.bound
      simp only [List.length_tail]
      omega
    · rw [show (f.course.hear f.queue.head?).dropped = f.course.dropped from rfl, hd] at hd'
      cases hd'

/-- What waits is lost if the receiver goes away. -/
theorem Sound.drop (hf : f.Sound places) : (f.step places .drop).Sound places := by
  cases hd : f.course.dropped with
  | true =>
    simp only [step, hd, if_true]
    exact hf
  | false =>
    have hb := hf.balance
    rw [hf.lost hd, List.append_nil] at hb
    simp only [step, hd, Bool.false_eq_true, if_false]
    refine ⟨?_, Nat.zero_le _, nofun, fun _ => rfl⟩
    simp only [List.append_nil]
    exact hb

theorem Sound.step (hf : f.Sound places) (x : Happening) : (f.step places x).Sound places := by
  cases x with
  | offer event => exact hf.offer event
  | take => exact hf.take
  | unsubscribe =>
    simp only [Feed.step]
    split
    · exact hf
    · exact ⟨hf.balance, hf.bound, hf.lost, hf.emptied⟩
  | drop => exact hf.drop
  | close => exact ⟨hf.balance, hf.bound, hf.lost, hf.emptied⟩

theorem Sound.run (hf : f.Sound places) (met : List Happening) :
    (f.run places met).Sound places := by
  induction met generalizing f with
  | nil => exact hf
  | cons x rest ih => exact ih (hf.step x)

/-! ## What is offered -/

/-- A feed is over from the first end on. -/
theorem isOver_step (places : Nat) (f : Feed) (x : Happening) :
    (f.step places x).course.isOver = (f.course.isOver || x.isEnd) := by
  cases x with
  | offer event => simp [step, Happening.isEnd]
  | take =>
    rw [step]
    split <;> simp [Happening.isEnd]
  | unsubscribe =>
    rw [step]
    split
    · next hd => simp [Course.isOver_of_dropped hd]
    · simp [Happening.isEnd]
  | drop =>
    rw [step]
    split
    · next hd => simp [Course.isOver_of_dropped hd]
    · simp [Happening.isEnd]
  | close => simp [step, Happening.isEnd]

theorem late_step (places : Nat) (f : Feed) (x : Happening) :
    (f.step places x).course.late = f.course.late := by
  cases x with
  | offer event => exact Course.late_offer
  | take =>
    rw [step]
    split <;> rfl
  | unsubscribe =>
    rw [step]
    split <;> rfl
  | drop =>
    rw [step]
    split <;> rfl
  | close => rfl

/-- A subscription is late or not from the beginning. -/
theorem late_run (f : Feed) (met : List Happening) :
    (f.run places met).course.late = f.course.late := by
  induction met generalizing f with
  | nil => rfl
  | cons x rest ih => rw [run_cons, ih, late_step]

/-- A broadcast is an offer unless the feed is over. -/
theorem offered_step (places : Nat) (f : Feed) (x : Happening) :
    (f.step places x).course.offered.map (·.event) =
      f.course.offered.map (·.event) ++ if f.course.isOver then [] else x.event?.toList := by
  cases x with
  | offer event =>
    cases ho : f.course.isOver with
    | true => simp [step, Course.offer_of_isOver ho]
    | false => simp [step, Course.offer_of_not_isOver ho, Happening.event?]
  | take =>
    rw [step]
    split <;> simp [Course.hear, Happening.event?]
  | unsubscribe =>
    rw [step]
    split <;> simp [Course.unsubscribe, Happening.event?]
  | drop =>
    rw [step]
    split <;> simp [Course.drop, Happening.event?]
  | close => simp [step, Course.close, Happening.event?]

/-- The events that are offered are those that are broadcast before the first end. -/
theorem offered_run (f : Feed) (met : List Happening) :
    (f.run places met).course.offered.map (·.event) =
      f.course.offered.map (·.event) ++
        if f.course.isOver then [] else (met.takeWhile (!·.isEnd)).filterMap (·.event?) := by
  induction met generalizing f with
  | nil => simp
  | cons x rest ih =>
    rw [run_cons, ih, offered_step, isOver_step, List.append_assoc]
    congr 1
    cases f.course.isOver with
    | true => rfl
    | false =>
      cases x with
      | offer event => simp [Happening.isEnd, Happening.event?]
      | take => simp [Happening.isEnd, Happening.event?]
      | unsubscribe => simp [Happening.isEnd, Happening.event?]
      | drop => simp [Happening.isEnd, Happening.event?]
      | close => simp [Happening.isEnd, Happening.event?]

/-! ## What has happened -/

/-- Which marks a happening sets. -/
theorem marks_step (places : Nat) (f : Feed) (x : Happening) :
    ((f.step places x).course.closed = true ↔ f.course.closed = true ∨ x = .close) ∧
    ((f.step places x).course.dropped = true ↔ f.course.dropped = true ∨ x = .drop) ∧
    ((f.step places x).course.unsubscribed = true ↔
      f.course.unsubscribed = true ∨ x = .unsubscribe ∧ f.course.dropped = false) ∧
    ((f.step places x).course.forgotten = true ↔
      f.course.forgotten = true ∨ (∃ event, x = .offer event) ∧ f.course.dropped = true) := by
  cases x with
  | offer event => simp [step]
  | take => cases hd : f.course.dropped <;> simp [step, hd, Course.hear]
  | unsubscribe => cases hd : f.course.dropped <;> simp [step, hd, Course.unsubscribe]
  | drop => cases hd : f.course.dropped <;> simp [step, hd, Course.drop]
  | close => simp [step, Course.close]

/-- A mark is set after a run if it was set before, or if something on the way has set it. -/
private theorem mark_run {mark : Course → Bool} {sets : Feed → Happening → Prop}
    (hstep : ∀ f x, mark (step places f x).course = true ↔ mark f.course = true ∨ sets f x)
    (f : Feed) (met : List Happening) :
    mark (f.run places met).course = true ↔ mark f.course = true ∨
      ∃ first x rest, met = first ++ x :: rest ∧ sets (f.run places first) x := by
  induction met generalizing f with
  | nil => simp
  | cons x rest ih =>
    rw [run_cons, ih, hstep, or_assoc]
    refine or_congr_right ⟨?_, ?_⟩
    · rintro (hx | ⟨first, y, last, hsplit, hy⟩)
      · exact ⟨[], x, rest, rfl, hx⟩
      · exact ⟨x :: first, y, last, by rw [hsplit]; rfl, hy⟩
    · rintro ⟨first, y, last, hsplit, hy⟩
      cases first with
      | nil =>
        obtain ⟨rfl, rfl⟩ := List.cons.inj hsplit
        exact Or.inl hy
      | cons x' first =>
        obtain ⟨rfl, hrest⟩ := List.cons.inj hsplit
        exact Or.inr ⟨first, y, last, hrest, hy⟩

/-- A mark that one happening sets is set after a run if that is among what has happened. -/
private theorem mark_run_iff_mem {mark : Course → Bool} {y : Happening}
    (hstep : ∀ f x, mark (step places f x).course = true ↔ mark f.course = true ∨ x = y)
    (f : Feed) (met : List Happening) :
    mark (f.run places met).course = true ↔ mark f.course = true ∨ y ∈ met := by
  refine (mark_run hstep f met).trans (or_congr_right ?_)
  rw [List.mem_iff_append]
  constructor
  · rintro ⟨first, x, rest, hsplit, rfl⟩
    exact ⟨first, rest, hsplit⟩
  · rintro ⟨first, rest, hsplit⟩
    exact ⟨first, y, rest, hsplit, rfl⟩

section Marks

variable (places : Nat) (late : Bool) (met : List Happening)

theorem closed_run : ((start late).run places met).course.closed = true ↔ .close ∈ met :=
  (mark_run_iff_mem (fun f x => (marks_step places f x).1) _ met).trans
    (or_iff_right Bool.false_ne_true)

theorem dropped_run : ((start late).run places met).course.dropped = true ↔ .drop ∈ met :=
  (mark_run_iff_mem (fun f x => (marks_step places f x).2.1) _ met).trans
    (or_iff_right Bool.false_ne_true)

/-- Only who has the receiver can unsubscribe. -/
theorem unsubscribed_run :
    ((start late).run places met).course.unsubscribed = true ↔
      ∃ first rest, met = first ++ .unsubscribe :: rest ∧ .drop ∉ first := by
  refine (mark_run (fun f x => (marks_step places f x).2.2.1) _ met).trans
    ((or_iff_right Bool.false_ne_true).trans ?_)
  constructor
  · rintro ⟨first, x, rest, hsplit, rfl, hd⟩
    rw [← Bool.not_eq_true, dropped_run] at hd
    exact ⟨first, rest, hsplit, hd⟩
  · rintro ⟨first, rest, hsplit, hd⟩
    rw [← dropped_run places late, Bool.not_eq_true] at hd
    exact ⟨first, _, rest, hsplit, rfl, hd⟩

/-- A subscription is forgotten with the first event after its receiver is gone. -/
theorem forgotten_run :
    ((start late).run places met).course.forgotten = true ↔
      ∃ first event rest, met = first ++ .offer event :: rest ∧ .drop ∈ first := by
  refine (mark_run (fun f x => (marks_step places f x).2.2.2) _ met).trans
    ((or_iff_right Bool.false_ne_true).trans ?_)
  constructor
  · rintro ⟨first, x, rest, hsplit, ⟨event, rfl⟩, hd⟩
    exact ⟨first, event, rest, hsplit, (dropped_run places late first).1 hd⟩
  · rintro ⟨first, event, rest, hsplit, hd⟩
    exact ⟨first, _, rest, hsplit, ⟨event, rfl⟩, (dropped_run places late first).2 hd⟩

/-- A subscription stands if it is not late and has neither been unsubscribed nor closed, and if no
event has been broadcast since its receiver is gone. -/
theorem stands_run :
    ((start late).run places met).course.stands = true ↔ late = false ∧ .close ∉ met ∧
      (¬∃ first rest, met = first ++ .unsubscribe :: rest ∧ .drop ∉ first) ∧
      ¬∃ first event rest, met = first ++ .offer event :: rest ∧ .drop ∈ first := by
  rw [← unsubscribed_run places late, ← forgotten_run places late, ← closed_run places late,
    Course.stands, late_run]
  simp only [Bool.not_eq_true', Bool.or_eq_false_iff, Bool.not_eq_true]
  rw [show (start late).course.late = late from rfl]
  constructor
  · rintro ⟨⟨⟨hl, hu⟩, hc⟩, hf⟩
    exact ⟨hl, hc, hu, hf⟩
  · rintro ⟨hl, hc, hu, hf⟩
    exact ⟨⟨⟨hl, hu⟩, hc⟩, hf⟩

end Marks

/-! ## After the end -/

/-- A feed that is over stays so. -/
theorem isOver_run (ho : f.course.isOver = true) (met : List Happening) :
    (f.run places met).course.isOver = true := by
  induction met generalizing f with
  | nil => exact ho
  | cons x rest ih => exact ih (by rw [isOver_step, ho, Bool.true_or])

/-- Once the receiver is gone, nothing more is received or lost. -/
theorem settled_run (hd : f.course.dropped = true) (met : List Happening) :
    (f.run places met).course.received = f.course.received ∧
      (f.run places met).course.lost = f.course.lost := by
  induction met generalizing f with
  | nil => exact ⟨rfl, rfl⟩
  | cons x rest ih =>
    cases x with
    | offer event =>
      obtain ⟨hreceived, hlost⟩ :=
        @ih (f.step places (.offer event)) (Course.dropped_offer.trans hd)
      exact ⟨hreceived.trans Course.received_offer, hlost.trans Course.lost_offer⟩
    | close => exact @ih (f.step places .close) hd
    | take | unsubscribe | drop =>
      rw [run_cons, step_of_dropped places hd rfl]
      exact ih hd

/-- What is lost is what waits when the receiver goes away, whatever happens then. -/
theorem lost_run_drop (hd : f.course.dropped = false) (met : List Happening) :
    (f.run places (.drop :: met)).course.received = f.course.received ∧
      (f.run places (.drop :: met)).course.lost = f.queue := by
  have hdrop : f.step places .drop = ⟨f.course.drop f.queue, []⟩ := by
    rw [step, hd, if_neg Bool.false_ne_true]
  rw [run_cons, hdrop]
  exact settled_run rfl met

/-- What becomes of a feed that is over, and keeps its receiver, if a number of events is taken. -/
structure Drained (f : Feed) (taken : Nat) (f' : Feed) : Prop where
  queue : f'.queue = f.queue.drop taken
  received : f'.course.received = f.course.received ++ f.queue.take taken
  dropped : f'.course.dropped = f.course.dropped

/-- A feed that is over gives its queue away from the head, and nothing else happens to it. -/
theorem Sound.drained_step (hf : f.Sound places) (ho : f.course.isOver = true) {x : Happening}
    (hx : x ≠ .drop) : f.Drained (if x.isTake then 1 else 0) (f.step places x) := by
  cases x with
  | offer event =>
    constructor <;> simp [Feed.step, ho, Course.offer_of_isOver ho, Happening.isTake]
  | take =>
    cases hd : f.course.dropped with
    | true => constructor <;> simp [Feed.step, hd, hf.emptied hd]
    | false =>
      cases hq : f.queue with
      | nil => constructor <;> simp [Feed.step, hd, hq, Course.hear]
      | cons event rest =>
        constructor <;> simp [Feed.step, hd, hq, Course.hear, Happening.isTake]
  | unsubscribe =>
    cases hd : f.course.dropped with
    | true => constructor <;> simp [Feed.step, hd, Happening.isTake]
    | false => constructor <;> simp [Feed.step, hd, Course.unsubscribe, Happening.isTake]
  | drop => exact absurd rfl hx
  | close => constructor <;> simp [Feed.step, Course.close, Happening.isTake]

/-- A feed that is over drains in the order of its queue. -/
theorem Sound.drained_run (hf : f.Sound places) (ho : f.course.isOver = true)
    {met : List Happening} (hmet : .drop ∉ met) :
    f.Drained (met.countP (·.isTake)) (f.run places met) := by
  induction met generalizing f with
  | nil => exact ⟨rfl, by simp, rfl⟩
  | cons x rest ih =>
    have hx : x ≠ .drop := fun h => hmet (h ▸ List.mem_cons_self)
    have hrest : .drop ∉ rest := fun h => hmet (List.mem_cons_of_mem x h)
    have ho' : (f.step places x).course.isOver = true := by rw [isOver_step, ho, Bool.true_or]
    have hfirst := hf.drained_step ho hx
    have hlater := ih (hf.step x) ho' hrest
    rw [run_cons, List.countP_cons, Nat.add_comm]
    refine ⟨?_, ?_, hlater.dropped.trans hfirst.dropped⟩
    · rw [hlater.queue, hfirst.queue, List.drop_drop]
    · rw [hlater.received, hfirst.received, hfirst.queue, List.append_assoc, List.take_add]

end Feed

end FeatureFlags.Hub
