import FeatureFlags.Proofs.Stream.Step

/-!
# What a stream carries

A session is a stream on a hub with all that goes on around it: others do something to the hub, the
sink becomes ready or fails, and the stream is asked to end.  It is left open what is ready, and
with which of the things that are ready the stream goes on.

* `Session.step` is what an action does.  The stream owns its subscription, so nobody else receives
  from it or ends it.
* `Session.Sound` compares what the sink has accepted with the course of the subscription, and says
  how a stream that is over has left it.  `Session.Sound.exists_step` says that each action keeps
  this, one lemma for what others do, one for the ends, and one for the steps in between.
* `Session.carried_run` puts it together for every run.
-/

namespace FeatureFlags

/-- The event that a message is about. -/
def StreamMessage.change? : StreamMessage → Option ChangeEvent
  | .change e => some e
  | .heartbeat _ => none

/-- What a stream does, on its way to a phase, as the owner of the subscription at a place. -/
def StreamPhase.hubActions (place : Nat) : StreamPhase → List Hub.Action
  | .sending (.change _) => [.await place]
  | .waiting | .sending (.heartbeat _) => []
  | .ended _ => [.unsubscribe place, .drop place]

theorem StreamPhase.owner?_hubActions (place : Nat) (phase : StreamPhase) :
    ∀ a ∈ phase.hubActions place, a.owner? = some place := by
  cases phase with
  | waiting => nofun
  | ended reason => simp [hubActions, Hub.Action.owner?]
  | sending m =>
    cases m with
    | heartbeat data => nofun
    | change e => simp [hubActions, Hub.Action.owner?]

/-- A stream on a hub. -/
structure Session where
  /-- The hub with all of its subscriptions. -/
  history : Hub.History
  /-- The place of the subscription of the stream. -/
  place : Nat
  stream : Stream
  /-- What the sink has accepted. -/
  accepted : List StreamMessage
  /-- The messages whose sends have failed. -/
  failed : List StreamMessage
  /-- The message that is being sent, or that was being sent when the stream ended. -/
  unsent : Option StreamMessage

namespace Session

/-- A stream that starts now, for a subscription that is at a place of a hub. -/
def start (h : Hub.History) (place : Nat) (p : Hub.Subscriber) (interval : Nat) (cancelled : Bool)
    (sink : Sink) (clock : Clock) : Session :=
  let (stream, hub) := Stream.start p.subscription interval cancelled sink clock h.hub
  { history := ⟨hub, (h.run (stream.phase.hubActions place)).subscribers⟩
    place
    stream
    accepted := []
    failed := []
    unsent := none }

/-- What may happen to a stream. -/
inductive Action where
  /-- Something is done to the hub. -/
  | others (a : Hub.Action)
  /-- The sink changes: it has room or not, or it fails. -/
  | sink (sink : Sink)
  | cancel
  /-- The stream goes on in some way, if that is ready. -/
  | go (clock : Clock) (branch : StreamBranch)

/-- The stream has taken a step that leads to the given stream and hub.  What the sink has got is
what it has accepted. -/
def after (x : Session) (branch : StreamBranch) (r : Stream × Hub) : Session :=
  { x with
    history := ⟨r.2, (x.history.run (r.1.phase.hubActions x.place)).subscribers⟩
    stream := r.1
    accepted := x.accepted ++ r.1.sink.messages.drop x.stream.sink.messages.length
    failed :=
      if branch = .send ∧ x.stream.sink.isOpen = false then
        x.failed ++ x.stream.phase.inHand?.toList
      else x.failed
    unsent := if r.1.phase.isEnded then x.stream.phase.inHand? else r.1.phase.inHand? }

/-- The stream goes on. -/
def go (x : Session) (clock : Clock) (branch : StreamBranch) : Session :=
  match x.stream.take? clock x.history.hub branch with
  | none => x
  | some r => x.after branch r

/-- What an action does.  Nobody but the stream acts as the owner of its subscription. -/
def step (x : Session) : Action → Session
  | .others a =>
    if a.owner? = some x.place then x else { x with history := x.history.step a }
  | .sink sink => { x with stream := { x.stream with sink } }
  | .cancel => { x with stream := { x.stream with cancelled := true } }
  | .go clock branch => x.go clock branch

/-- What actions do, one after the other. -/
def run (x : Session) (actions : List Action) : Session := actions.foldl step x

variable {capacity : Nat} {p q : Hub.Subscriber} {x : Session} {clock : Clock}
  {branch : StreamBranch} {reason : StreamEnd}

/-- The events of messages. -/
def changes (messages : List StreamMessage) : List ChangeEvent :=
  messages.filterMap StreamMessage.change?

theorem changes_append (first second : List StreamMessage) :
    changes (first ++ second) = changes first ++ changes second := List.filterMap_append ..

/-! ## What is kept -/

/-- A stream that is not over still owns its subscription, and has the message that it is sending
in hand. -/
structure Running (p : Hub.Subscriber) (x : Session) (q : Hub.Subscriber) : Prop where
  unsent : x.unsent = x.stream.phase.inHand?
  failed : x.failed = []
  dropped : q.course.dropped = false
  unsubscribed : q.course.unsubscribed = p.course.unsubscribed

/-- A stream that is over has given its subscription up. -/
structure Ended (p : Hub.Subscriber) (x : Session) (q : Hub.Subscriber) (reason : StreamEnd) :
    Prop where
  unsubscribed : q.course.unsubscribed = true
  failed : x.failed ≠ [] ↔ reason = .sinkClosed
  cancelled : reason = .cancelled → x.stream.cancelled = true
  unsent : ∀ m, x.unsent = some m → reason = .cancelled ∨ reason = .sinkClosed
  /-- The hub was closed, unless the subscription had been given up before the stream. -/
  closed : reason = .hubClosed → p.course.unsubscribed = false → x.history.hub.closed = true
  drained : reason = .hubClosed → q.course.accepted = q.course.received

/-- What the stream has done with the events of its subscription, which was `p` when the stream
started and is `q` now. -/
structure Sound (capacity : Nat) (p : Hub.Subscriber) (x : Session) (q : Hub.Subscriber) :
    Prop where
  hub : Hub.Inv capacity x.history
  endsWithHub : x.history.EndsWithHub
  place : x.history.subscribers[x.place]? = some q
  subscription : q.subscription = p.subscription
  stream : x.stream.subscription = p.subscription
  feed : (x.history.feed q).Sound (Queue.places capacity)
  received : q.course.received =
    p.course.received ++ changes x.accepted ++ changes x.unsent.toList
  running : x.stream.phase.isEnded = false → Running p x q
  ended : ∀ reason, x.stream.phase = .ended reason → Ended p x q reason

namespace Sound

theorem subscription_eq (hx : Sound capacity p x q) : x.stream.subscription = q.subscription :=
  hx.stream.trans hx.subscription.symm

/-- What others do to the hub. -/
theorem exists_others (hx : Sound capacity p x q) {a : Hub.Action}
    (ha : a.owner? ≠ some x.place) :
    ∃ q', Sound capacity p { x with history := x.history.step a } q' := by
  obtain ⟨q', hq', hsub, hfeed⟩ := hx.hub.feed_step hx.place a
  have hoffered : (x.history.feed q).Follows ((x.history.step a).feed q') := by
    rw [hfeed]
    exact Hub.Feed.follows_meet _ _ fun _ => Hub.Action.isOwn_of_concern? ha
  refine ⟨q', hx.hub.step a, hx.hub.endsWithHub_step hx.endsWithHub a, hq',
    hsub.trans hx.subscription, hx.stream, ?feed, hoffered.received.trans hx.received, ?running,
    ?ended⟩
  case feed =>
    rw [hfeed]
    exact hx.feed.meet _
  case running =>
    intro hphase
    have hr := hx.running hphase
    exact ⟨hr.unsent, hr.failed, hoffered.dropped.trans hr.dropped,
      hoffered.unsubscribed.trans hr.unsubscribed⟩
  case ended =>
    intro reason hphase
    have ho := hx.ended reason hphase
    have hover : q.course.isOver = true := by simp [Hub.Course.isOver, ho.unsubscribed]
    refine ⟨hoffered.unsubscribed.trans ho.unsubscribed, ho.failed, ho.cancelled, ho.unsent, ?_, ?_⟩
    · intro hreason hp
      exact (hx.hub.closed_step a).2 (.inl (ho.closed hreason hp))
    · intro hreason
      calc q'.course.accepted = q.course.accepted := hoffered.accepted hover
        _ = q.course.received := ho.drained hreason
        _ = q'.course.received := hoffered.received.symm

/-- The stream ends, and gives its subscription up. -/
theorem exists_ended (hx : Sound capacity p x q) (hr : Running p x q)
    {failed : List StreamMessage} (hfailed : failed ≠ [] ↔ reason = .sinkClosed)
    (hcancelled : reason = .cancelled → x.stream.cancelled = true)
    (hunsent : ∀ m, x.unsent = some m → reason = .cancelled ∨ reason = .sinkClosed)
    (hclosed : reason = .hubClosed →
      q.course.isOver = true ∧ x.history.hub.waiting q.subscription = []) :
    ∃ q', Sound capacity p { x with
      history := x.history.run [.unsubscribe x.place, .drop x.place]
      stream := { x.stream with phase := .ended reason }
      failed } q' := by
  have hd : (x.history.feed q).course.dropped = false := hr.dropped
  have hmet : ([.unsubscribe x.place, .drop x.place] : List Hub.Action).filterMap
      (·.concern? x.place q.scope) = [.unsubscribe, .drop] := by simp [Hub.Action.concern?]
  obtain ⟨q', hq', hsub, hfeed⟩ :=
    hx.hub.feed_run hx.place [.unsubscribe x.place, .drop x.place]
  have hcourse : q'.course =
      q.course.unsubscribe.drop (x.history.hub.waiting q.subscription) := by
    rw [hmet, Hub.Feed.run_unsubscribe_drop _ hd] at hfeed
    exact congrArg Hub.Feed.course hfeed
  refine ⟨q', hx.hub.run _, hx.hub.endsWithHub_run hx.endsWithHub _, hq',
    hsub.trans hx.subscription, hx.stream, ?feed, ?received, nofun, ?ended⟩
  case feed =>
    rw [hfeed]
    exact hx.feed.run _
  case received =>
    rw [hcourse]
    exact hx.received
  case ended =>
    rintro _ ⟨⟩
    refine ⟨?_, hfailed, hcancelled, hunsent, fun hreason hp => ?_, fun hreason => ?_⟩
    · rw [hcourse]
      rfl
    · -- Of the things that end a subscription only the end of the hub is left.
      have hover := (hclosed hreason).1
      have hq : q.course.unsubscribed = false := hr.unsubscribed.trans hp
      simp only [Hub.Course.isOver, hq, hr.dropped, Bool.or_false, Bool.or_eq_true] at hover
      exact (hx.hub.closed_run _).2 (.inl (hx.endsWithHub q (List.mem_of_getElem? hx.place) hover))
    · have hempty : (x.history.feed q).queue = [] := (hclosed hreason).2
      have hbalance := hx.feed.balance
      rw [hempty, hx.feed.lost hd, List.append_nil, List.append_nil] at hbalance
      rw [hcourse]
      exact hbalance.symm

/-- The stream does something without the hub. -/
theorem of_history_eq (hx : Sound capacity p x q) (hr : Running p x q) {x' : Session}
    (hhistory : x'.history = x.history) (hplace : x'.place = x.place)
    (hstream : x'.stream.subscription = p.subscription) (hphase : x'.stream.phase.isEnded = false)
    (hfailed : x'.failed = []) (hunsent : x'.unsent = x'.stream.phase.inHand?)
    (hchanges : changes x'.accepted ++ changes x'.unsent.toList =
      changes x.accepted ++ changes x.unsent.toList) : Sound capacity p x' q := by
  refine ⟨?_, ?_, ?_, hx.subscription, hstream, ?_, ?_, fun _ => ?_, fun reason hended => ?_⟩
  · exact hhistory ▸ hx.hub
  · exact hhistory ▸ hx.endsWithHub
  · rw [hhistory, hplace]
    exact hx.place
  · exact hhistory ▸ hx.feed
  · rw [List.append_assoc, hchanges, ← List.append_assoc]
    exact hx.received
  · exact ⟨hunsent, hfailed, hr.dropped, hr.unsubscribed⟩
  · rw [hended] at hphase
    cases hphase

theorem after_finish (hx : Sound capacity p x q) (hr : Running p x q) (branch : StreamBranch)
    (reason : StreamEnd) :
    x.after branch (x.stream.finish x.history.hub reason) = { x with
      history := x.history.run [.unsubscribe x.place, .drop x.place]
      stream := { x.stream with phase := .ended reason }
      failed :=
        if branch = .send ∧ x.stream.sink.isOpen = false then x.stream.phase.inHand?.toList
        else [] } := by
  have hhub := Hub.History.hub_run_unsubscribe_drop hx.place hr.dropped
  rw [← hx.subscription_eq] at hhub
  simp only [after, Stream.finish, StreamPhase.hubActions, StreamPhase.isEnded, ← hhub,
    List.drop_length, List.append_nil, hr.failed, List.nil_append, ← hr.unsent, if_true]

/-- The stream takes an event from its subscription. -/
theorem exists_taken (hx : Sound capacity p x q) (hphase : x.stream.phase = .waiting)
    {e : ChangeEvent} (hevent : (x.history.hub.await x.stream.subscription).1 = .event e) :
    ∃ q', Sound capacity p (x.after .receive ({ x.stream with phase := .sending (.change e) },
      (x.history.hub.await x.stream.subscription).2)) q' := by
  have hr := hx.running (by rw [hphase]; rfl)
  have hd : (x.history.feed q).course.dropped = false := hr.dropped
  obtain ⟨q', hq', hsub, hfeed⟩ := hx.hub.feed_step hx.place (.await x.place)
  have hhead : (x.history.feed q).queue.head? = some e :=
    Hub.head?_waiting_of_await (hx.subscription_eq ▸ hevent)
  have hcourse : q'.course = q.course.hear (some e) := by
    have htake := congrArg Hub.Feed.course hfeed
    rwa [Hub.Action.concern?, if_pos rfl, Hub.Feed.meet, Hub.Feed.step, if_neg (by simp [hd]),
      hhead] at htake
  have hhistory : (x.after .receive ({ x.stream with phase := .sending (.change e) },
      (x.history.hub.await x.stream.subscription).2)).history =
        x.history.step (.await x.place) := by
    rw [hx.subscription_eq, ← Hub.History.hub_step_await hx.place hr.dropped]
    rfl
  refine ⟨q', ?_, ?_, ?_, hsub.trans hx.subscription, hx.stream, ?feed, ?received,
    fun _ => ?running, fun reason hended => ?ended⟩
  · exact hhistory ▸ hx.hub.step _
  · exact hhistory ▸ hx.hub.endsWithHub_step hx.endsWithHub _
  · exact hhistory ▸ hq'
  case feed =>
    rw [hhistory, hfeed]
    exact hx.feed.meet _
  case received =>
    have hnone : x.unsent = none := by rw [hr.unsent, hphase]; rfl
    have hreceived : q.course.received = p.course.received ++ changes x.accepted := by
      have hbefore := hx.received
      rw [hnone] at hbefore
      exact hbefore.trans (List.append_nil _)
    rw [hcourse, Hub.Course.hear, hreceived]
    simp only [after, List.drop_length, List.append_nil]
    rfl
  case running =>
    refine ⟨rfl, ?_, ?_, ?_⟩
    · simp [after, hr.failed]
    · rw [hcourse]
      exact hr.dropped
    · rw [hcourse]
      exact hr.unsubscribed
  case ended => cases hended

/-- The stream goes on. -/
theorem exists_after (hx : Sound capacity p x q) {r : Stream × Hub}
    (hstep : x.stream.Step clock x.history.hub branch r) :
    ∃ q', Sound capacity p (x.after branch r) q' := by
  cases hstep with
  | cancelled hphase hcancelled =>
    have hr := hx.running hphase
    rw [hx.after_finish hr]
    refine hx.exists_ended hr ?_ (fun _ => hcancelled) (fun _ _ => .inl rfl) nofun
    simp
  | hubClosed hphase hended =>
    have hr := hx.running (by rw [hphase]; rfl)
    rw [hx.after_finish hr]
    refine hx.exists_ended hr ?_ nofun ?_ fun _ => ?_
    · simp
    · rw [hr.unsent, hphase]
      nofun
    · rw [hx.subscription_eq] at hended
      exact hx.hub.isOver_of_await_ended (List.mem_of_getElem? hx.place) hr.dropped hended
  | failed hphase hclosed =>
    have hr := hx.running (by rw [hphase]; rfl)
    rw [hx.after_finish hr]
    refine hx.exists_ended hr ?_ nofun (fun _ _ => .inr rfl) nofun
    simp [hphase, hclosed, StreamPhase.inHand?]
  | heartbeat hphase hdue =>
    have hr := hx.running (by rw [hphase]; rfl)
    refine ⟨q, hx.of_history_eq hr rfl rfl hx.stream rfl hr.failed rfl ?_⟩
    rw [hr.unsent, hphase]
    simp only [after, List.drop_length, List.append_nil]
    rfl
  | taken hphase hevent => exact hx.exists_taken hphase hevent
  | sent hphase hopen hroom =>
    have hr := hx.running (by rw [hphase]; rfl)
    refine ⟨q, hx.of_history_eq hr rfl rfl hx.stream rfl ?_ rfl ?_⟩
    · simp [after, hopen, hr.failed]
    · rw [hr.unsent, hphase]
      simp only [after, Sink.push, List.drop_left, changes_append]
      exact List.append_nil _

/-- The sink changes, or the stream is asked to end. -/
theorem of_stream (hx : Sound capacity p x q) {s : Stream}
    (hsub : s.subscription = x.stream.subscription) (hphase : s.phase = x.stream.phase)
    (hcancelled : x.stream.cancelled = true → s.cancelled = true) :
    Sound capacity p { x with stream := s } q := by
  refine ⟨hx.hub, hx.endsWithHub, hx.place, hx.subscription, hsub.trans hx.stream, hx.feed,
    hx.received, fun hrunning => ?_, fun reason hended => ?_⟩
  · have hr := hx.running (hphase ▸ hrunning)
    exact ⟨hr.unsent.trans (congrArg _ hphase.symm), hr.failed, hr.dropped, hr.unsubscribed⟩
  · have ho := hx.ended reason (hphase ▸ hended)
    exact ⟨ho.unsubscribed, ho.failed, fun hreason => hcancelled (ho.cancelled hreason), ho.unsent,
      ho.closed, ho.drained⟩

/-- Every action keeps what is known of a stream. -/
theorem exists_step (hx : Sound capacity p x q) (a : Action) :
    ∃ q', Sound capacity p (x.step a) q' := by
  cases a with
  | others a =>
    rw [step]
    split
    · exact ⟨q, hx⟩
    · next ha => exact hx.exists_others ha
  | sink sink => exact ⟨q, hx.of_stream rfl rfl id⟩
  | cancel => exact ⟨q, hx.of_stream rfl rfl fun _ => rfl⟩
  | go clock branch =>
    rw [step, go]
    split
    · exact ⟨q, hx⟩
    · next r htake => exact hx.exists_after (Stream.step_of_take? htake)

theorem exists_run (hx : Sound capacity p x q) (actions : List Action) :
    ∃ q', Sound capacity p (x.run actions) q' := by
  induction actions generalizing x q with
  | nil => exact ⟨q, hx⟩
  | cons a rest ih =>
    obtain ⟨q', hx'⟩ := hx.exists_step a
    exact ih hx'

end Sound

/-! ## The start -/

section

variable {h : Hub.History} {place interval : Nat} {cancelled : Bool} {sink : Sink}

/-- A stream that has started and waits for its first message. -/
def ready (h : Hub.History) (place : Nat) (p : Hub.Subscriber) (interval : Nat) (cancelled : Bool)
    (sink : Sink) (clock : Clock) : Session where
  history := h
  place
  stream := {
    subscription := p.subscription
    interval
    due := clock.time + interval
    cancelled
    sink
    phase := .waiting }
  accepted := []
  failed := []
  unsent := none

theorem start_eq_ready (hinterval : interval ≠ 0) :
    start h place p interval cancelled sink clock =
      ready h place p interval cancelled sink clock := by
  simp only [start, Stream.start, hinterval, if_false]
  rfl

/-- Without a pause between heartbeats the stream ends at once. -/
theorem start_eq_after (hinterval : interval = 0) :
    start h place p interval cancelled sink clock =
      (ready h place p interval cancelled sink clock).after .cancel
        ((ready h place p interval cancelled sink clock).stream.finish
          (ready h place p interval cancelled sink clock).history.hub .noInterval) := by
  simp only [start, Stream.start, hinterval, if_true, after, Stream.finish, ready, List.drop_length]
  rfl

theorem running_ready (hd : p.course.dropped = false) :
    Running p (ready h place p interval cancelled sink clock) p := ⟨rfl, rfl, hd, rfl⟩

theorem sound_ready {before : List Hub.Action}
    (hp : ((Hub.History.start capacity).run before).subscribers[place]? = some p)
    (hd : p.course.dropped = false) :
    Sound capacity p (ready ((Hub.History.start capacity).run before) place p interval cancelled
      sink clock) p where
  hub := Hub.inv_run capacity before
  endsWithHub := Hub.endsWithHub_run capacity before
  place := hp
  subscription := rfl
  stream := rfl
  feed := (Hub.inv_start capacity).sound_feed_run nofun before p (List.mem_of_getElem? hp)
  received := (List.append_nil _).symm.trans (List.append_nil _).symm
  running _ := running_ready hd
  ended _ hended := by cases hended

/-- A stream that starts on a subscription with its receiver. -/
theorem exists_sound_start {before : List Hub.Action}
    (hp : ((Hub.History.start capacity).run before).subscribers[place]? = some p)
    (hd : p.course.dropped = false) :
    ∃ q, Sound capacity p (start ((Hub.History.start capacity).run before) place p interval
      cancelled sink clock) q := by
  have hready : Sound capacity p (ready ((Hub.History.start capacity).run before) place p interval
      cancelled sink clock) p := sound_ready hp hd
  by_cases hinterval : interval = 0
  · rw [start_eq_after hinterval, hready.after_finish (running_ready hd)]
    refine hready.exists_ended (running_ready hd) ?_ nofun nofun nofun
    simp
  · rw [start_eq_ready hinterval]
    exact ⟨p, hready⟩

/-- A stream that is asked for heartbeats without a pause ends at once. -/
theorem noInterval_start (h : Hub.History) (place : Nat) (p : Hub.Subscriber) (interval : Nat)
    (cancelled : Bool) (sink : Sink) (clock : Clock) :
    (start h place p interval cancelled sink clock).stream.phase = .ended .noInterval ↔
      interval = 0 := by
  by_cases hinterval : interval = 0
  · rw [start_eq_after hinterval]
    exact iff_of_true rfl hinterval
  · rw [start_eq_ready hinterval]
    exact iff_of_false nofun hinterval

end

/-- A stream that has started does not end that way. -/
theorem noInterval_step (x : Session) (a : Action) :
    (x.step a).stream.phase = .ended .noInterval ↔ x.stream.phase = .ended .noInterval := by
  cases a with
  | others a =>
    rw [step]
    split <;> rfl
  | sink | cancel => rfl
  | go clock branch =>
    rw [step, go]
    split
    · rfl
    · next r htake =>
      obtain ⟨hrunning, hne⟩ := (Stream.step_of_take? htake).phase
      refine iff_of_false hne fun hended => ?_
      rw [hended] at hrunning
      cases hrunning

theorem noInterval_run (x : Session) (actions : List Action) :
    (x.run actions).stream.phase = .ended .noInterval ↔
      x.stream.phase = .ended .noInterval := by
  induction actions generalizing x with
  | nil => rfl
  | cons a rest ih => exact (ih (x.step a)).trans (noInterval_step x a)

@[simp] theorem place_step (x : Session) (a : Action) : (x.step a).place = x.place := by
  cases a with
  | others a =>
    rw [step]
    split <;> rfl
  | go clock branch =>
    rw [step, go]
    split <;> rfl
  | sink | cancel => rfl

theorem place_run (x : Session) (actions : List Action) : (x.run actions).place = x.place := by
  induction actions generalizing x with
  | nil => rfl
  | cons a rest ih => exact (ih (x.step a)).trans (place_step x a)

/-! ## Main result -/

/-- What a stream has carried from its subscription to its sink, and how it has ended. -/
structure Carried (p : Hub.Subscriber) (x : Session) (q : Hub.Subscriber) : Prop where
  /-- The changes that the sink has accepted are the events that the stream has taken, each once and
  in their order, but for the last of them if that is unsent. -/
  taken : q.course.received = p.course.received ++ changes x.accepted ++ changes x.unsent.toList
  /-- An unsent message is being sent, or was being sent when the stream ended. -/
  unsent : ∀ m, x.unsent = some m → x.stream.phase = .sending m ∨
    x.stream.phase = .ended .cancelled ∨ x.stream.phase = .ended .sinkClosed
  /-- The stream ends by itself only after the hub was closed, if it had a subscription that its
  owner had not given up, and after the sink has accepted every event that was queued for it. -/
  hubClosed : x.stream.phase = .ended .hubClosed →
    (p.course.unsubscribed = false → x.history.hub.closed = true) ∧
    q.course.accepted = p.course.received ++ changes x.accepted
  /-- It ends with an error exactly if a send has failed. -/
  failed : x.stream.phase = .ended .sinkClosed ↔ x.failed ≠ []
  cancelled : x.stream.phase = .ended .cancelled → x.stream.cancelled = true
  /-- However it ends, its subscription is not registered any more. -/
  unregistered : ∀ reason, x.stream.phase = .ended reason →
    ∀ scope, p.id ∉ x.history.hub.members scope

theorem Sound.carried (hx : Sound capacity p x q) : Carried p x q where
  taken := hx.received
  unsent m hm := by
    cases hphase : x.stream.phase with
    | ended reason =>
      rcases (hx.ended reason hphase).unsent m hm with rfl | rfl
      · exact .inr (.inl rfl)
      · exact .inr (.inr rfl)
    | waiting =>
      rw [(hx.running (by rw [hphase]; rfl)).unsent, hphase] at hm
      cases hm
    | sending m' =>
      rw [(hx.running (by rw [hphase]; rfl)).unsent, hphase] at hm
      exact .inl (congrArg _ (Option.some.inj hm))
  hubClosed hended := by
    have ho := hx.ended _ hended
    refine ⟨ho.closed rfl, (ho.drained rfl).trans ?_⟩
    have hnone : x.unsent = none :=
      Option.eq_none_iff_forall_ne_some.2 fun m hm => by simpa using ho.unsent m hm
    have hreceived := hx.received
    rw [hnone] at hreceived
    exact hreceived.trans (List.append_nil _)
  failed := by
    cases hphase : x.stream.phase with
    | ended reason =>
      rw [(hx.ended reason hphase).failed]
      simp
    | waiting | sending =>
      have hr := hx.running (by rw [hphase]; rfl)
      exact iff_of_false nofun fun hne => hne hr.failed
  cancelled hended := (hx.ended _ hended).cancelled rfl
  unregistered reason hended scope hmem := by
    have hid : p.id = q.id := congrArg Subscription.id hx.subscription.symm
    rw [hid, hx.hub.mem_members_iff (List.mem_of_getElem? hx.place)] at hmem
    simp [Hub.Subscriber.standsIn, Hub.Course.stands, (hx.ended reason hended).unsubscribed] at hmem

/-- Whatever happens around a stream, and whichever of the things that are ready it goes on with, it
carries the events of its subscription as `Carried` says.  None of its steps touches anything of
the hub but its own subscription.  It does not start if it is asked for heartbeats without a
pause. -/
theorem carried_run (capacity : Nat) (before : List Hub.Action) (place : Nat) (p : Hub.Subscriber)
    (hp : ((Hub.History.start capacity).run before).subscribers[place]? = some p)
    (hd : p.course.dropped = false) (interval : Nat) (cancelled : Bool) (sink : Sink)
    (clock : Clock) (actions : List Action) :
    let x := (start ((Hub.History.start capacity).run before) place p interval cancelled sink
      clock).run actions
    ∃ q, x.history.subscribers[place]? = some q ∧ q.subscription = p.subscription ∧
      Carried p x q ∧
      (x.stream.phase = .ended .noInterval ↔ interval = 0) ∧
      ∀ clock branch, Hub.Untouched p.id x.history.hub (x.go clock branch).history.hub ∧
        ∀ other, other ≠ place →
          (x.go clock branch).history.subscribers[other]? = x.history.subscribers[other]? := by
  intro x
  obtain ⟨_, hstart⟩ : ∃ q, Sound capacity p _ q := exists_sound_start hp hd
  obtain ⟨q, hx⟩ := hstart.exists_run actions
  have hplace : x.place = place := place_run _ actions
  refine ⟨q, hplace ▸ hx.place, hx.subscription, hx.carried, ?_, fun clock branch => ?_⟩
  · exact (noInterval_run _ actions).trans (noInterval_start ..)
  · rw [go]
    split
    · exact ⟨.refl _ _, fun _ _ => rfl⟩
    · next r htake =>
      constructor
      · have huntouched := (Stream.step_of_take? htake).untouched hx.hub.tidy
        rwa [hx.stream] at huntouched
      · intro other hne
        exact Hub.History.getElem?_run_of_owner (r.1.phase.owner?_hubActions x.place)
          (hplace ▸ hne)

/-- A subscription that has just been made. -/
def firstSubscriber : Hub.Subscriber := ⟨⟨⟨1⟩, ⟨"shop", "live"⟩⟩, .start false⟩

/-- Nobody reads from the sink, which has room for one message, and so the second event waits for
it when the stream is asked to end. -/
def cancelledWhileFull : List Action :=
  [.others (.broadcast ⟨"shop", "live"⟩ (.deleted "a")),
    .others (.broadcast ⟨"shop", "live"⟩ (.deleted "b")),
    .others (.broadcast ⟨"shop", "live"⟩ (.deleted "c")),
    .go default .receive, .go default .send, .go default .receive, .go default .send, .cancel,
    .others .close, .go default .cancel]

/-- The stream after that. -/
def endedWhileFull : Session :=
  (start ((Hub.History.start 4).run [.subscribe ⟨"shop", "live"⟩]) 0 firstSubscriber 30 false
    (.empty 1) default).run cancelledWhileFull

theorem carried_run_endedWhileFull :
    ((Hub.History.start 4).run [.subscribe ⟨"shop", "live"⟩]).subscribers[0]? =
      some firstSubscriber ∧
    firstSubscriber.course.dropped = false ∧
    endedWhileFull.stream.phase = .ended .cancelled ∧
    endedWhileFull.accepted = [.change (.deleted "a")] ∧
    ∃ q, endedWhileFull.history.subscribers[0]? = some q ∧
      Carried firstSubscriber endedWhileFull q ∧
      q.course.received = [.deleted "a", .deleted "b"] ∧ q.course.lost = [.deleted "c"] := by
  have hp : ((Hub.History.start 4).run [.subscribe ⟨"shop", "live"⟩]).subscribers[0]? =
      some firstSubscriber := by rfl
  have hphase : endedWhileFull.stream.phase = .ended .cancelled := by rfl
  have haccepted : endedWhileFull.accepted = [.change (.deleted "a")] := by rfl
  obtain ⟨q, hq, _, hcarried, _⟩ := carried_run 4 [.subscribe ⟨"shop", "live"⟩] 0 firstSubscriber
    hp rfl 30 false (.empty 1) default cancelledWhileFull
  refine ⟨hp, rfl, hphase, haccepted, q, hq, hcarried, ?_, ?_⟩
  · obtain rfl := Option.some.inj hq
    rfl
  · obtain rfl := Option.some.inj hq
    rfl

end Session

end FeatureFlags
