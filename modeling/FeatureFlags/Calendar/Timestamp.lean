import FeatureFlags.Calendar.Date

/-!
# Timestamps

An instant in UTC: a day, a second of the day and a nanosecond.  A leap second is
the second before it with a nanosecond of a thousand million or more.  Instants compare by
day, then second, then nanosecond.
-/

namespace FeatureFlags

/-- An instant in UTC. -/
structure Timestamp where
  /-- Days since the first of January 1970. -/
  day : Int
  /-- Seconds since the start of the day. -/
  second : Nat
  /-- Nanoseconds since the start of the second. -/
  nanosecond : Nat
deriving DecidableEq, Inhabited, Repr

namespace Timestamp

/-- The nanoseconds of a second. -/
def nanosPerSecond : Nat := 1000000000

/-- The nanoseconds of a day. -/
def nanosPerDay : Nat := 86400 * nanosPerSecond

/-- Whether an instant is before another. -/
def before (a b : Timestamp) : Bool :=
  a.day < b.day ∨ (a.day = b.day ∧
    (a.second < b.second ∨ (a.second = b.second ∧ a.nanosecond < b.nanosecond)))

/-- The later of two instants. -/
def latest (a b : Timestamp) : Timestamp := if a.before b then b else a

/-- Whether the day of the instant is in the range of the calendar. -/
def inCalendar (t : Timestamp) : Bool := Calendar.firstDay ≤ t.day ∧ t.day ≤ Calendar.lastDay

/-- The instant without a leap second: a leap second counts as the second after it. -/
def withoutLeapSecond (t : Timestamp) : Timestamp :=
  if t.nanosecond < nanosPerSecond then t
  else if t.second + 1 < 86400 then ⟨t.day, t.second + 1, t.nanosecond - nanosPerSecond⟩
  else ⟨t.day + 1, 0, t.nanosecond - nanosPerSecond⟩

/-- The instant a number of days earlier; none if that is before the calendar. -/
def minusDays? (t : Timestamp) (days : Nat) : Option Timestamp :=
  let t := if days = 0 then t else t.withoutLeapSecond
  let earlier : Timestamp := { t with day := t.day - days }
  if earlier.inCalendar then some earlier else none

/-- The instant some days and nanoseconds later. -/
def plus (t : Timestamp) (days nanoseconds : Int) : Timestamp :=
  let t := t.withoutLeapSecond
  let total : Int := (t.second * nanosPerSecond + t.nanosecond : Nat) + nanoseconds
  let ofDay := (total % nanosPerDay).toNat
  ⟨t.day + days + total / nanosPerDay, ofDay / nanosPerSecond, ofDay % nanosPerSecond⟩

end Timestamp

end FeatureFlags
