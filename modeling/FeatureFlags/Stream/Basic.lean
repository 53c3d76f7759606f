import FeatureFlags.Hub
import FeatureFlags.Stream.Message

/-!
# Streams

A stream carries the events of a subscription, and heartbeats, to a client.  It takes one
message at a time: it waits for an event, for the next heartbeat or to be cancelled, and then
for the sink of the client to take the message, or to be cancelled.  When it ends, its
subscription ends with it.

`Stream.take?` is one step, with the choice among the things that are ready left open, and
`Stream.settle` takes steps until nothing is ready.
-/

namespace FeatureFlags

/-- What a client has been sent and has not read. -/
structure Sink where
  /-- How many messages may wait; zero counts as one. -/
  capacity : Nat
  /-- Whether the client is still there. -/
  isOpen : Bool
  /-- The messages that wait, the oldest first. -/
  messages : List StreamMessage

namespace Sink

/-- A sink without messages. -/
def empty (capacity : Nat) : Sink := ⟨capacity, true, []⟩

/-- Whether another message may wait. -/
def hasRoom (s : Sink) : Bool := s.messages.length < Queue.places s.capacity

/-- Appends a message. -/
def push (s : Sink) (m : StreamMessage) : Sink := { s with messages := s.messages ++ [m] }

/-- The client goes away. -/
def close (s : Sink) : Sink := { s with isOpen := false, messages := [] }

/-- Takes the oldest message out. -/
def read (s : Sink) : Option StreamMessage × Sink :=
  match s.messages with
  | [] => (none, s)
  | m :: rest => (some m, { s with messages := rest })

end Sink

/-- Why a stream ended. -/
inductive StreamEnd where
  | cancelled
  | hubClosed
  /-- The client went away. -/
  | sinkClosed
  /-- It never started, since it was asked for heartbeats without a pause. -/
  | noInterval
deriving DecidableEq, Inhabited, Repr

/-- What a stream is doing. -/
inductive StreamPhase where
  /-- It waits for a message. -/
  | waiting
  /-- It waits for its sink to take a message. -/
  | sending (m : StreamMessage)
  | ended (reason : StreamEnd)

/-- A stream to a client.  Times are in milliseconds. -/
structure Stream where
  subscription : Subscription
  /-- The time from one heartbeat to the next. -/
  interval : Nat
  /-- When the next heartbeat is due. -/
  due : Nat
  cancelled : Bool
  sink : Sink
  phase : StreamPhase

/-- What a stream can go on with. -/
inductive StreamBranch where
  | cancel
  | heartbeat
  | receive
  | send
deriving DecidableEq, Inhabited, Repr

/-- The present, on the clock for heartbeats and on the wall. -/
structure Clock where
  time : Nat
  wall : Timestamp
deriving Inhabited

namespace Stream

/-- How late a heartbeat may be without putting off the next one. -/
def tolerance : Nat := 5

/-- When the heartbeat after the one that was due is due.  After a late one a whole interval
passes. -/
def nextDue (s : Stream) (now : Nat) : Nat :=
  if s.due + tolerance < now then now + s.interval else s.due + s.interval

/-- Ends a stream and its subscription. -/
def finish (s : Stream) (h : Hub) (reason : StreamEnd) : Stream × Hub :=
  ({ s with phase := .ended reason }, (h.unsubscribe s.subscription).dropReceiver s.subscription)

/-- A stream that starts now. -/
def start (subscription : Subscription) (interval : Nat) (cancelled : Bool) (sink : Sink)
    (clock : Clock) (h : Hub) : Stream × Hub :=
  let s : Stream := {
    subscription
    interval
    due := clock.time + interval
    cancelled
    sink
    phase := .waiting }
  if interval = 0 then s.finish h .noInterval else (s, h)

/-- Takes a step; none if it is not ready. -/
def take? (s : Stream) (clock : Clock) (h : Hub) (branch : StreamBranch) : Option (Stream × Hub) :=
  match s.phase, branch with
  | .ended _, _ => none
  | _, .cancel => if s.cancelled then some (s.finish h .cancelled) else none
  | .waiting, .heartbeat =>
    if s.due ≤ clock.time then
      some ({ s with due := s.nextDue clock.time, phase := .sending (.heartbeat ⟨clock.wall⟩) }, h)
    else none
  | .waiting, .receive =>
    match h.await s.subscription with
    | (.event e, h) => some ({ s with phase := .sending (.change e) }, h)
    | (.ended, h) => some (s.finish h .hubClosed)
    | (.pending, _) => none
  | .sending m, .send =>
    if !s.sink.isOpen then some (s.finish h .sinkClosed)
    else if s.sink.hasRoom then some ({ s with sink := s.sink.push m, phase := .waiting }, h)
    else none
  | _, _ => none

/-- Takes the first step that is ready, if one is. -/
def next? (s : Stream) (clock : Clock) (h : Hub) : Option (Stream × Hub) :=
  [StreamBranch.cancel, .heartbeat, .receive, .send].findSome? (s.take? clock h)

/-- Takes steps until nothing is ready, or the given number of steps. -/
def settleWithin (clock : Clock) : Nat → Stream → Hub → Stream × Hub
  | 0, s, h => (s, h)
  | n + 1, s, h =>
    match s.next? clock h with
    | some (s, h) => settleWithin clock n s h
    | none => (s, h)

/-- Takes steps until nothing is ready.  Every message takes two steps, and besides the queued
events there are the heartbeats that are due within the tolerance, and the end. -/
def settle (s : Stream) (clock : Clock) (h : Hub) : Stream × Hub :=
  let queued := ((h.queues.get? s.subscription.id).getD []).length
  settleWithin clock (2 * (queued + tolerance + 1) + 2) s h

/-- Lets the streams of a hub take steps until nothing is ready, one after the other. -/
def settleEach (clock : Clock) (h : Hub) : List Stream → List Stream × Hub
  | [] => ([], h)
  | s :: rest =>
    let (s, h) := s.settle clock h
    let (others, h) := settleEach clock h rest
    (s :: others, h)

end Stream

end FeatureFlags
