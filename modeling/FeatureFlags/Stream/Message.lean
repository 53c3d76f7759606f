import FeatureFlags.Calendar.Rfc3339
import FeatureFlags.Event

/-!
# Stream messages

What a streaming client is sent: changes, and heartbeats that show that the stream is alive.
On the wire a message has the fields `event`, its kind, and `data`, in any order, or it is
the list of the two.
-/

namespace FeatureFlags

/-- What a heartbeat says. -/
structure Heartbeat where
  timestamp : Timestamp
deriving DecidableEq, Inhabited

instance : Wire Heartbeat where
  encode h := .object [("timestamp", encode h.timestamp)]
  decode? d := do
    let [timestamp] ← d.record? [("timestamp", .required)] | none
    return { timestamp := ← Document.field? timestamp }

/-- A message to a streaming client. -/
inductive StreamMessage where
  | change (event : ChangeEvent)
  | heartbeat (data : Heartbeat)

namespace StreamMessage

/-- The two parts of a message.  The data is read as it is if the kind stands before it; else all
of it has to be readable. -/
def parts? : Document → Option (Document × Document)
  | .array [kind, data] => some (kind, data)
  | .object fields =>
    match fields.filter fun f => f.1 = "event" ∨ f.1 = "data" with
    | [("event", kind), ("data", data)] => some (kind, data)
    | [("data", data), ("event", kind)] => if data.isReadable then some (kind, data) else none
    | _ => none
  | _ => none

instance : Wire StreamMessage where
  encode
    | .change e => .object [("event", .string "change"), ("data", encode e)]
    | .heartbeat h => .object [("event", .string "heartbeat"), ("data", encode h)]
  decode? d := do
    let (kind, data) ← parts? d
    match ← kind.choice? with
    | "change" => (decode? data).map .change
    | "heartbeat" => (decode? data).map .heartbeat
    | _ => none

end StreamMessage

end FeatureFlags
