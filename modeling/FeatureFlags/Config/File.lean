import FeatureFlags.Config.Error
import FeatureFlags.Config.Layer
import FeatureFlags.Toml.Reader

/-!
# Configuration files as layers

A configuration file is a TOML document with the sections `flags`, `store` and `logging`, all of
which may be missing, and so may their fields.  Other fields have no meaning.

A section may also be written as the list of its fields in their order.  A log format is a
name, or a table with the name as its only field, which holds nothing.
-/

namespace FeatureFlags.Config

open Toml (Value)

/-- The content of a configuration file. -/
inductive FileContent where
  /-- There is no such file. -/
  | missing
  /-- The file cannot be read. -/
  | unreadable
  | bytes (content : ByteArray)

namespace File

/-- The fields of a section in the order of their names; none if the section is no section.  A list
has to be as long as `needed`.  A date stands for a section without fields. -/
def fields? (needed : Nat) (names : List String) : Value → Option (List (Option Value))
  | .table fields => some (names.map fun name => fields.lookup name)
  | .array items =>
    if items.length < needed then none
    else some ((List.range names.length).map fun i => items[i]?)
  | .dateTime => some (names.map fun _ => none)
  | _ => none

/-- Reads a field that may be missing. -/
def optional? {α : Type} (read? : Value → Option α) : Option Value → Option (Option α)
  | none => some none
  | some v => (read? v).map some

/-- A whole number below a bound. -/
def number? (bound : Nat) : Value → Option Nat
  | .integer (.ofNat n) => if n < bound then some n else none
  | _ => none

/-- A text. -/
def text? : Value → Option String
  | .string s => some s
  | _ => none

/-- A log format. -/
def logFormat? : Value → Option LogFormat
  | .string s => LogFormat.ofName? s
  | .table [(name, .table [])] | .table [(name, .array [])] => LogFormat.ofName? name
  | _ => none

/-- The section for serving flags. -/
def flags? (v : Value) : Option FlagsLayer := do
  let [subscriberCapacity, heartbeatSeconds, usageQueueCapacity, staleAfterDays] ← fields? 0
    ["subscriber_capacity", "heartbeat_interval_secs", "usage_queue_capacity", "stale_after_days"]
    v | none
  return {
    subscriberCapacity := ← optional? (number? UInt64.size) subscriberCapacity
    heartbeatSeconds := ← optional? (number? UInt64.size) heartbeatSeconds
    usageQueueCapacity := ← optional? (number? UInt64.size) usageQueueCapacity
    staleAfterDays := ← optional? (number? UInt32.size) staleAfterDays }

/-- The section for the store. -/
def store? (v : Value) : Option StoreLayer := do
  let [snapshotPath] ← fields? 0 ["snapshot_path"] v | none
  return { snapshotPath := ← optional? text? snapshotPath }

/-- The section for log lines; as a list it has both fields. -/
def logging? (v : Value) : Option LoggingLayer := do
  let [level, format] ← fields? 2 ["level", "format"] v | none
  return { level := ← optional? text? level, format := ← optional? logFormat? format }

/-- The layer that a document sets. -/
def layer? (v : Value) : Option Layer := do
  let [flags, store, logging] ← fields? 0 ["flags", "store", "logging"] v | none
  return {
    flags := ← optional? flags? flags
    store := ← optional? store? store
    logging := ← optional? logging? logging }

end File

/-- The layer that a configuration file sets; a missing file sets nothing. -/
def FileContent.layer : FileContent → Except Error Layer
  | missing => .ok {}
  | unreadable => .error .unreadableFile
  | bytes content =>
    match String.fromUTF8? content with
    | none => .error .unreadableFile
    | some text =>
      match Toml.read? text >>= File.layer? with
      | some l => .ok l
      | none => .error .malformedFile

end FeatureFlags.Config
