import FeatureFlags.Unicode.LowerCase

/-!
# Configuration layers

A layer sets some of the settings.  Layers are laid over each other, field by field: what the
upper layer sets counts.
-/

namespace FeatureFlags

/-- How log lines are written. -/
inductive LogFormat where
  | pretty
  | json
deriving DecidableEq, Inhabited, Repr

namespace LogFormat

/-- The name of a format. -/
def name : LogFormat → String
  | pretty => "pretty"
  | json => "json"

/-- The formats and their names. -/
def names : List (LogFormat × String) := [(pretty, "pretty"), (json, "json")]

/-- The format with the given name. -/
def ofName? (name : String) : Option LogFormat := (names.find? (·.2 = name)).map (·.1)

/-- Reads the name of a format in any case; a name of no format is an error, with its wording. -/
def parse (text : String) : Except String LogFormat :=
  let lower := Unicode.lowerCase text
  match ofName? lower with
  | some f => .ok f
  | none => .error ("unknown log format '" ++ lower ++ "', expected pretty or json")

end LogFormat

namespace Config

/-- Settings for serving flags. -/
structure FlagsLayer where
  subscriberCapacity : Option Nat := none
  heartbeatSeconds : Option Nat := none
  usageQueueCapacity : Option Nat := none
  staleAfterDays : Option Nat := none
deriving DecidableEq, Inhabited, Repr

/-- Settings for the store. -/
structure StoreLayer where
  snapshotPath : Option String := none
deriving DecidableEq, Inhabited, Repr

/-- Settings for log lines. -/
structure LoggingLayer where
  level : Option String := none
  format : Option LogFormat := none
deriving DecidableEq, Inhabited, Repr

/-- The sections of a configuration, each of which may be missing. -/
structure Layer where
  flags : Option FlagsLayer := none
  store : Option StoreLayer := none
  logging : Option LoggingLayer := none
deriving DecidableEq, Inhabited, Repr

namespace FlagsLayer

/-- Lays one section over another. -/
def laidOver (upper lower : FlagsLayer) : FlagsLayer where
  subscriberCapacity := upper.subscriberCapacity <|> lower.subscriberCapacity
  heartbeatSeconds := upper.heartbeatSeconds <|> lower.heartbeatSeconds
  usageQueueCapacity := upper.usageQueueCapacity <|> lower.usageQueueCapacity
  staleAfterDays := upper.staleAfterDays <|> lower.staleAfterDays

end FlagsLayer

namespace StoreLayer

/-- Lays one section over another. -/
def laidOver (upper lower : StoreLayer) : StoreLayer where
  snapshotPath := upper.snapshotPath <|> lower.snapshotPath

end StoreLayer

namespace LoggingLayer

/-- Lays one section over another. -/
def laidOver (upper lower : LoggingLayer) : LoggingLayer where
  level := upper.level <|> lower.level
  format := upper.format <|> lower.format

end LoggingLayer

/-- Lays a section that may be missing over another. -/
def sectionLaidOver {α : Type} (lay : α → α → α) : Option α → Option α → Option α
  | some upper, some lower => some (lay upper lower)
  | some upper, none => some upper
  | none, lower => lower

namespace Layer

/-- Lays one layer over another. -/
def laidOver (upper lower : Layer) : Layer where
  flags := sectionLaidOver FlagsLayer.laidOver upper.flags lower.flags
  store := sectionLaidOver StoreLayer.laidOver upper.store lower.store
  logging := sectionLaidOver LoggingLayer.laidOver upper.logging lower.logging

end Layer

end Config

end FeatureFlags
