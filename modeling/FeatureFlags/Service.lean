import FeatureFlags.Cache.Basic
import FeatureFlags.Hub
import FeatureFlags.Usage

/-!
# The service

The cache, the hub and the usage tracker together.  Evaluations are recorded.  A change is
published by reading the scopes that it affects again and then telling their subscribers, so a
subscriber that evaluates a flag when it is told gets the new value.  A publication is the service
and what has come of the steps so far, for others look at the service while it goes on.
-/

namespace FeatureFlags

/-- The settings of a service. -/
structure ServiceSettings where
  subscriberCapacity : Nat
  usageQueueCapacity : Nat
  staleAfterDays : Nat
  /-- The seconds from one heartbeat of a stream to the next. -/
  heartbeatSeconds : Nat
deriving DecidableEq, Inhabited, Repr

namespace ServiceSettings

/-- The settings that are used unless others are given. -/
def standard : ServiceSettings := ⟨16, 1024, 30, 30⟩

end ServiceSettings

/-- Serves flags to clients. -/
structure Service where
  cache : Cache
  hub : Hub
  usage : UsageTracker
  heartbeatSeconds : Nat

/-- No flag with the key is served in the scope. -/
structure FlagNotFound where
  scope : Scope
  flagKey : String
deriving DecidableEq, Inhabited, Repr

/-- The wording of the error. -/
def FlagNotFound.message (e : FlagNotFound) : String :=
  "flag not found: " ++ e.flagKey ++ " in " ++ e.scope.key

namespace Service

/-- A service that has not loaded any flags; none if the queue for evaluations cannot be made. -/
def create? (s : ServiceSettings) : Option Service :=
  if !Queue.canHave s.usageQueueCapacity then none
  else some {
    cache := .empty
    hub := .empty s.subscriberCapacity
    usage := .empty s.usageQueueCapacity s.staleAfterDays
    heartbeatSeconds := s.heartbeatSeconds }

/-- Loads all scopes of a source. -/
def loadAll (s : Service) (source : Source) (now : Timestamp) :
    Except ReadError Unit × Service :=
  let (result, cache) := s.cache.loadAll source now
  (result, { s with cache })

/-- Evaluates a flag and records that. -/
def evaluate (s : Service) (scope : Scope) (key : String) (context : Context) (now : Timestamp) :
    Except FlagNotFound Evaluation × Service :=
  match s.cache.flag? scope key with
  | none => (.error ⟨scope, key⟩, s)
  | some e => (.ok (e.evaluate context), { s with usage := s.usage.record scope key now })

/-- Evaluates all flags of a scope and records each. -/
def evaluateAll (s : Service) (scope : Scope) (context : Context) (now : Timestamp) :
    BulkEvaluation × Service :=
  let results := FeatureFlags.evaluateAll (s.cache.flags scope).values context
  (results, { s with usage := results.keys.foldl (fun u key => u.record scope key now) s.usage })

end Service

/-- A step of publishing a change. -/
inductive PublishStep where
  /-- A scope is read again. -/
  | refresh (scope : Scope)
  /-- The subscribers of a scope are told. -/
  | broadcast (scope : Scope)
deriving DecidableEq, Inhabited

/-- A change that is being published. -/
structure Publication where
  service : Service
  /-- The error of the first read that has failed. -/
  firstError : Option ReadError
  /-- What the broadcasts have come to together. -/
  outcome : BroadcastOutcome

namespace Publication

/-- A publication that has just begun. -/
def start (s : Service) : Publication := ⟨s, none, .zero⟩

/-- The steps of publishing a change that affects some scopes.  All of them are read again before
the first subscriber is told. -/
def steps (scopes : List Scope) : List PublishStep :=
  scopes.map .refresh ++ scopes.map .broadcast

/-- What a step does.  A read that fails does not keep the publication from going on. -/
def step (source : Source) (event : ChangeEvent) (now : Timestamp) (p : Publication) :
    PublishStep → Publication
  | .refresh scope =>
    let (result, cache) := p.service.cache.refresh source scope now
    let error := match result with
      | .ok () => none
      | .error e => some e
    { p with service := { p.service with cache }, firstError := p.firstError.or error }
  | .broadcast scope =>
    let (outcome, hub) := p.service.hub.broadcast scope event
    { p with service := { p.service with hub }, outcome := p.outcome.add outcome }

/-- What is given back in the end. -/
def result (p : Publication) : Except ReadError BroadcastOutcome :=
  match p.firstError with
  | some e => .error e
  | none => .ok p.outcome

end Publication

namespace Service

/-- Reads all of the scopes again and then tells their subscribers of the change.  They are told
even if a read failed. -/
def publish (s : Service) (source : Source) (scopes : List Scope) (event : ChangeEvent)
    (now : Timestamp) : Except ReadError BroadcastOutcome × Service :=
  let p := (Publication.steps scopes).foldl (Publication.step source event now) (.start s)
  (p.result, p.service)

/-- Subscribes to the events of a scope; none if the queue for them cannot be made. -/
def openStream? (s : Service) (scope : Scope) : Option (Subscription × Service) :=
  (s.hub.subscribe? scope).map fun (subscription, hub) => (subscription, { s with hub })

/-- Ends a subscription whose owner goes away. -/
def closeStream (s : Service) (subscription : Subscription) : Service :=
  { s with hub := (s.hub.unsubscribe subscription).dropReceiver subscription }

/-- The flags of a scope that are not archived and have not been evaluated for long; none if that
far back is not in the calendar. -/
def staleFlags? (s : Service) (scope : Scope) (now : Timestamp) : Option (List StaleFlag) :=
  let served := (s.cache.flags scope).values.filter fun e => !e.flag.isArchived
  s.usage.staleFlags? scope (served.map Entry.key) now

/-- Ends all subscriptions and the counting of evaluations. -/
def shutdown (s : Service) : Service :=
  { s with hub := s.hub.close, usage := s.usage.shutdown }

end Service

end FeatureFlags
