import FeatureFlags.Config.Error
import FeatureFlags.Config.Layer
import FeatureFlags.Service

/-!
# Resolving configurations

Sources are loaded in the order of their precedence, and each layer is laid over those before.
What no layer sets has its standard value.  A queue without places and a heartbeat without a
pause are refused.
-/

namespace FeatureFlags

/-- A configuration with all settings. -/
structure Settings where
  service : ServiceSettings
  snapshotPath : String
  /-- What is logged, as a filter. -/
  logLevel : String
  logFormat : LogFormat
deriving DecidableEq, Inhabited, Repr

namespace Settings

/-- The settings that are used unless others are given. -/
def standard : Settings where
  service := .standard
  snapshotPath := "/var/lib/beacon/flags.json"
  logLevel := "info"
  logFormat := .pretty

end Settings

namespace Config

/-- Which of two sources counts; the upper ones come later. -/
inductive Precedence where
  | defaults
  | file
  | environment
deriving DecidableEq, Inhabited, Repr

/-- The place of a precedence among the others. -/
def Precedence.rank : Precedence → Nat
  | defaults => 10
  | file => 20
  | environment => 50

/-- Something that settings come from. -/
structure LayerSource where
  precedence : Precedence
  load : Except Error Layer

namespace Layer

/-- The settings of a layer for serving flags, with standard values for the others. -/
def serviceSettings (l : Layer) : ServiceSettings :=
  let flags := l.flags.getD {}
  let standard := ServiceSettings.standard
  { subscriberCapacity := flags.subscriberCapacity.getD standard.subscriberCapacity
    usageQueueCapacity := flags.usageQueueCapacity.getD standard.usageQueueCapacity
    staleAfterDays := flags.staleAfterDays.getD standard.staleAfterDays
    heartbeatSeconds := flags.heartbeatSeconds.getD standard.heartbeatSeconds }

/-- The settings that must not be zero, in the order in which they are checked. -/
def checked (s : ServiceSettings) : List (String × Nat) :=
  [("flags.subscriber_capacity", s.subscriberCapacity),
    ("flags.usage_queue_capacity", s.usageQueueCapacity),
    ("flags.heartbeat_interval_secs", s.heartbeatSeconds)]

/-- The settings of a layer, with standard values for what it does not set. -/
def finalize (l : Layer) : Except Error Settings :=
  let service := l.serviceSettings
  let logging := l.logging.getD {}
  match (checked service).find? (·.2 == 0) with
  | some (key, _) => .error (.zero key)
  | none => .ok {
      service
      snapshotPath := (l.store.getD {}).snapshotPath.getD Settings.standard.snapshotPath
      logLevel := logging.level.getD Settings.standard.logLevel
      logFormat := logging.format.getD Settings.standard.logFormat }

end Layer

/-- Loads sources one after the other and lays each over the layer so far. -/
def loadOver (lower : Layer) : List LayerSource → Except Error Layer
  | [] => .ok lower
  | s :: rest => do loadOver ((← s.load).laidOver lower) rest

/-- The sources in the order of their precedence; equal ones stay in their order. -/
def inOrder (sources : List LayerSource) : List LayerSource :=
  sources.mergeSort fun a b => a.precedence.rank ≤ b.precedence.rank

/-- The settings that some sources give together. -/
def resolve (sources : List LayerSource) : Except Error Settings := do
  (← loadOver {} (inOrder sources)).finalize

end Config

end FeatureFlags
