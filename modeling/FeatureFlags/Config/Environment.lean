import FeatureFlags.Config.Error
import FeatureFlags.Config.Layer
import FeatureFlags.Text.Digit

/-!
# The environment as a layer

Every setting has a variable of its own.  A variable that is empty counts as not set.
-/

namespace FeatureFlags.Config

/-- The values of variables. -/
abbrev Environment := String → Option String

/-- A kind of whole numbers without a sign. -/
structure NumberKind where
  name : String
  /-- All numbers are below it. -/
  bound : Nat

namespace NumberKind

/-- Numbers of places. -/
def size : NumberKind := ⟨"usize", UInt64.size⟩

/-- Numbers of 64 bits. -/
def word64 : NumberKind := ⟨"u64", UInt64.size⟩

/-- Numbers of 32 bits. -/
def word32 : NumberKind := ⟨"u32", UInt32.size⟩

/-- Reads a number: decimal digits, perhaps after a plus. -/
def parse? (k : NumberKind) (text : String) : Option Nat :=
  let ds := match text.toList with
    | '+' :: rest => rest
    | cs => cs
  if ds.isEmpty ∨ !ds.all Char.isDigit then none
  else
    let n := Text.digitsValue ds
    if n < k.bound then some n else none

end NumberKind

namespace Environment

/-- The value of a variable, unless it is empty. -/
def value? (env : Environment) (name : String) : Option String :=
  (env name).filter (!·.isEmpty)

/-- The number in a variable, if the variable is set. -/
def number (env : Environment) (name : String) (kind : NumberKind) :
    Except Error (Option Nat) :=
  match env.value? name with
  | none => .ok none
  | some text =>
    match kind.parse? text with
    | some n => .ok (some n)
    | none => .error (.invalidValue name ("invalid " ++ kind.name ++ " value '" ++ text ++ "'"))

/-- The log format in a variable, if the variable is set. -/
def logFormat (env : Environment) (name : String) : Except Error (Option LogFormat) :=
  match env.value? name with
  | none => .ok none
  | some text =>
    match LogFormat.parse text with
    | .ok f => .ok (some f)
    | .error reason => .error (.invalidValue name reason)

/-- The names of the variables with settings. -/
def names : List String :=
  ["BEACON_SERVER_FLAGS_SUBSCRIBER_CAPACITY", "BEACON_SERVER_FLAGS_HEARTBEAT_INTERVAL_SECS",
    "BEACON_SERVER_FLAGS_USAGE_QUEUE_CAPACITY", "BEACON_SERVER_FLAGS_STALE_AFTER_DAYS",
    "BEACON_SERVER_LOG_FORMAT", "BEACON_SERVER_STORE_SNAPSHOT_PATH", "BEACON_SERVER_LOG_LEVEL"]

/-- The variables with the given names and values, of which the last counts for its name. -/
def ofList (values : List (String × String)) : Environment := fun name =>
  values.reverse.lookup name

/-- The layer that the environment sets. -/
def layer (env : Environment) : Except Error Layer := do
  let subscriberCapacity ← env.number "BEACON_SERVER_FLAGS_SUBSCRIBER_CAPACITY" .size
  let heartbeatSeconds ← env.number "BEACON_SERVER_FLAGS_HEARTBEAT_INTERVAL_SECS" .word64
  let usageQueueCapacity ← env.number "BEACON_SERVER_FLAGS_USAGE_QUEUE_CAPACITY" .size
  let staleAfterDays ← env.number "BEACON_SERVER_FLAGS_STALE_AFTER_DAYS" .word32
  let format ← env.logFormat "BEACON_SERVER_LOG_FORMAT"
  return {
    flags := some { subscriberCapacity, heartbeatSeconds, usageQueueCapacity, staleAfterDays }
    store := some { snapshotPath := env.value? "BEACON_SERVER_STORE_SNAPSHOT_PATH" }
    logging := some { level := env.value? "BEACON_SERVER_LOG_LEVEL", format } }

end Environment

end FeatureFlags.Config
