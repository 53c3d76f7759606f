import FeatureFlags.Calendar.Rfc3339
import FeatureFlags.Queue
import FeatureFlags.Scope

/-!
# Usage

How often flags are evaluated, and when last.  Evaluations are queued and added up later, one
after the other; each is also handed to a sink, which may refuse it.  An evaluation that finds
the queue full is dropped.

A flag is stale if it was never evaluated or its last evaluation lies further back than a
number of days.
-/

namespace FeatureFlags

/-- An evaluation of a flag. -/
structure UsageEvent where
  scope : Scope
  flagKey : String
  evaluatedAt : Timestamp
deriving DecidableEq, Inhabited

instance : Wire UsageEvent where
  encode e := .object [("scope", encode e.scope), ("flag_key", encode e.flagKey),
    ("evaluated_at", encode e.evaluatedAt)]
  decode? d := do
    let [scope, flagKey, evaluatedAt] ← d.record?
      [("scope", .required), ("flag_key", .required), ("evaluated_at", .required)] | none
    return {
      scope := ← Document.field? scope
      flagKey := ← Document.field? flagKey
      evaluatedAt := ← Document.field? evaluatedAt }

/-- The evaluations of a flag in a scope. -/
structure FlagUsage where
  evaluations : Nat
  lastEvaluatedAt : Timestamp
deriving DecidableEq, Inhabited

namespace FlagUsage

/-- Adds an evaluation at the given instant to what there is. -/
def add (u : Option FlagUsage) (at_ : Timestamp) : FlagUsage :=
  match u with
  | none => ⟨1, at_⟩
  | some u => ⟨u.evaluations + 1, u.lastEvaluatedAt.latest at_⟩

instance : Wire FlagUsage where
  encode u := .object [("evaluations", encode u.evaluations),
    ("last_evaluated_at", encode u.lastEvaluatedAt)]
  decode? d := do
    let [evaluations, last] ← d.record?
      [("evaluations", .required), ("last_evaluated_at", .required)] | none
    return {
      evaluations := ← Document.field? evaluations
      lastEvaluatedAt := ← Document.field? last }

end FlagUsage

/-- A flag that has not been evaluated for long. -/
structure StaleFlag where
  flagKey : String
  /-- None if it was never evaluated. -/
  lastEvaluatedAt : Option Timestamp
deriving DecidableEq, Inhabited

namespace StaleFlag

/-- Whether a flag is listed before or with another: flags that were never evaluated come first,
then those with older evaluations, and then the key decides. -/
def notAfter (a b : StaleFlag) : Bool :=
  match a.lastEvaluatedAt, b.lastEvaluatedAt with
  | none, none => a.flagKey ≤ b.flagKey
  | none, some _ => true
  | some _, none => false
  | some s, some t => s.before t || (!t.before s && a.flagKey ≤ b.flagKey)

instance : Wire StaleFlag where
  encode s := .object [("flag_key", encode s.flagKey),
    ("last_evaluated_at", encode s.lastEvaluatedAt)]
  decode? d := do
    let [flagKey, last] ← d.record?
      [("flag_key", .required), ("last_evaluated_at", .nullable)] | none
    return {
      flagKey := ← Document.field? flagKey
      lastEvaluatedAt := ← Document.fieldOr? none last }

end StaleFlag

/-- The queued and the added-up evaluations. -/
structure UsageTracker where
  /-- How many evaluations the queue may hold; zero counts as one. -/
  capacity : Nat
  /-- A flag that was not evaluated for so many days is stale. -/
  staleAfterDays : Nat
  /-- Whether evaluations are no longer accepted. -/
  stopped : Bool
  /-- Evaluations that wait to be added up, the oldest first. -/
  queue : List UsageEvent
  totals : Table Scope (Table String FlagUsage)
  dropped : Nat
  /-- The evaluations handed to the sink, the latest first. -/
  sunk : List UsageEvent

namespace UsageTracker

/-- A tracker without evaluations. -/
def empty (capacity staleAfterDays : Nat) : UsageTracker where
  capacity
  staleAfterDays
  stopped := false
  queue := []
  totals := .empty
  dropped := 0
  sunk := []

/-- The added-up evaluations of a flag in a scope. -/
def usage? (u : UsageTracker) (scope : Scope) (key : String) : Option FlagUsage := do
  (← u.totals.get? scope).get? key

/-- Records an evaluation. -/
def record (u : UsageTracker) (scope : Scope) (key : String) (now : Timestamp) : UsageTracker :=
  if !u.stopped ∧ u.queue.length < Queue.places u.capacity then
    { u with queue := u.queue ++ [⟨scope, key, now⟩] }
  else { u with dropped := u.dropped + 1 }

/-- Adds an evaluation to the totals. -/
def count (totals : Table Scope (Table String FlagUsage)) (e : UsageEvent) :
    Table Scope (Table String FlagUsage) :=
  let flags := (totals.get? e.scope).getD .empty
  let usage := FlagUsage.add (flags.get? e.flagKey) e.evaluatedAt
  totals.insert e.scope (flags.insert e.flagKey usage)

/-- Adds up the oldest evaluation that waits, and hands it to the sink. -/
def step (u : UsageTracker) : UsageTracker :=
  match u.queue with
  | [] => u
  | e :: rest => { u with queue := rest, totals := count u.totals e, sunk := e :: u.sunk }

/-- Adds up all evaluations that wait. -/
def settle (u : UsageTracker) : UsageTracker :=
  { u with
    queue := []
    totals := u.queue.foldl count u.totals
    sunk := u.queue.reverse ++ u.sunk }

/-- Adds up all evaluations that wait, and accepts no more. -/
def shutdown (u : UsageTracker) : UsageTracker := { u.settle with stopped := true }

/-- The given flags that are stale at an instant, in the order of `StaleFlag.notAfter`; none if the
instant that many days before is not in the calendar. -/
def staleFlags? (u : UsageTracker) (scope : Scope) (keys : List String) (now : Timestamp) :
    Option (List StaleFlag) :=
  (now.minusDays? u.staleAfterDays).map fun threshold =>
    let flags := keys.map fun key => ⟨key, (u.usage? scope key).map (·.lastEvaluatedAt)⟩
    (flags.filter fun f : StaleFlag => f.lastEvaluatedAt.all (·.before threshold)).mergeSort
      StaleFlag.notAfter

end UsageTracker

end FeatureFlags
