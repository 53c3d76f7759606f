import FeatureFlags.Config.Load
import FeatureFlags.Log.Filter
import FeatureFlags.Service
import FeatureFlags.Store.Snapshot

/-!
# The daemon

How the server comes up and goes down.  Coming up, it resolves its configuration, makes the
store of the snapshot and loads the cache; each of these may fail, which ends the server.  What
it reports on the way is a list of log lines, less those that the filter holds back.

* `Daemon.check` goes as far as the store, and says how many scopes there are.
* `Daemon.start` goes all the way; `Daemon.stop` is what is reported afterwards.
-/

namespace FeatureFlags

/-- What the server finds when it comes up. -/
structure Surroundings where
  environment : Config.Environment
  configFile : Config.FileContent
  /-- The content of the file with a path, if it can be read. -/
  file : String → Option ByteArray

/-- Why the server does not come up. -/
inductive StartError where
  | config (e : Config.Error)
  | snapshot (path : String) (e : SnapshotError)
  | load (e : ReadError)
  /-- The queue for evaluations cannot be made. -/
  | queue

namespace StartError

/-- The wording of an error. -/
def message : StartError → String
  | config e => "failed to load configuration: " ++ e.message
  | snapshot path _ => "failed to load flag snapshot " ++ path
  | load e => "initial flag cache load failed: " ++ e.message
  | queue => "the queue for evaluations would be too long"

/-- The number that the process ends with. -/
def exitCode : StartError → UInt8
  | queue => 101
  | _ => 1

end StartError

namespace Daemon

open Log (Level Line)

/-! ## What is reported -/

/-- A number in the data of a line. -/
def count (n : Nat) : Json := .number (.integer n)

/-- The configuration is resolved. -/
def configured (s : Settings) : Line where
  level := .info
  target := "beacon_server"
  message := "Server configuration loaded"
  data := [("subscriber_capacity", count s.service.subscriberCapacity),
    ("heartbeat_interval_secs", count s.service.heartbeatSeconds),
    ("snapshot_path", .string s.snapshotPath), ("log_format", .string s.logFormat.name)]

/-- A flag of the snapshot gets into the store. -/
def upserting (scope : Scope) (key : String) : Line where
  level := .debug
  target := "beacon_server_flags::store"
  message := "Upserting flag"
  data := [("scope", .string scope.key), ("flag_key", .string key)]

/-- The store is made. -/
def stored (s : Store) : Line where
  level := .info
  target := "beacon_server_flags::store"
  message := "Loaded flag snapshot"
  data := [("scopes", count s.listScopes.length)]

/-- Evaluations are counted from now on. -/
def counting : Line where
  level := .debug
  target := "beacon_server_flags::usage"
  message := "Usage aggregator started"
  data := []

/-- The cache is loaded. -/
def cached (scopes : List ScopeFlags) : Line where
  level := .info
  target := "beacon_server_flags::cache"
  message := "Flag cache loaded"
  data := [("scope_count", count scopes.length),
    ("flag_count", count ((scopes.map Table.size).foldr (· + ·) 0))]

/-- The server is up. -/
def ready (s : Settings) (service : Service) : Line where
  level := .info
  target := "beacon_server"
  message := "beacon-server ready"
  data := [("scopes", count service.cache.scopeCount), ("snapshot", .string s.snapshotPath)]

/-- What is reported while the server goes down. -/
def stopping (hub : HubStats) : List Line :=
  [⟨.info, "beacon_server", "Received shutdown signal", []⟩,
    ⟨.info, "beacon_server_flags::hub", "Closed change notification hub",
      [("scope_count", count hub.scopeCount), ("subscriptions", count hub.subscriberCount)]⟩,
    ⟨.info, "beacon_server_flags::usage", "Usage aggregator stopped", []⟩,
    ⟨.info, "beacon_server_flags::service", "Flags service shut down", []⟩,
    ⟨.info, "beacon_server", "Server shutdown complete", []⟩]

/-! ## Coming up -/

/-- The settings that the surroundings give. -/
def settings (w : Surroundings) : Except StartError Settings :=
  (Config.load w.configFile w.environment).mapError .config

/-- The name of the variable with the filter. -/
def filterVariable : String := "RUST_LOG"

/-- Which lines are reported: a filter in the variable for it counts before the settings. -/
def filter (w : Surroundings) (s : Settings) : Log.Filter :=
  match w.environment filterVariable >>= Log.Filter.parse? with
  | some f => f
  | none => .ofText s.logLevel

/-- What is reported while flags are put into an empty store. -/
def upsertLines (content : Option ByteArray) : List Line :=
  match Snapshot.ofFile content with
  | .error _ => []
  | .ok snapshot => (Store.empty.accepted snapshot.entries).map fun (scope, e) =>
      upserting scope e.key

/-- Makes the store of a snapshot file. -/
def openStore (path : String) (content : Option ByteArray) : List Line × Except StartError Store :=
  match Store.ofSnapshotFile content with
  | .error e => (upsertLines content, .error (.snapshot path e))
  | .ok store => (upsertLines content ++ [stored store], .ok store)

/-- Makes the service that serves a store. -/
def openService (s : Settings) (store : Store) (now : Timestamp) :
    List Line × Except StartError Service :=
  match Service.create? s.service with
  | none => ([], .error .queue)
  | some service =>
    match service.loadAll store.source now with
    | (.error e, _) => ([counting], .error (.load e))
    | (.ok (), service) =>
      ([counting, cached (service.cache.slots.values.map Slot.flags), ready s service],
        .ok service)

/-! ## Runs -/

/-- How far a server has come, and what it reported on the way. -/
structure Progress (α : Type) where
  /-- The settings, if there are any. -/
  settings : Option Settings
  lines : List Line
  result : Except StartError α

/-- Makes the store of a server with the given settings. -/
def prepare (w : Surroundings) (s : Settings) : List Line × Except StartError Store :=
  let (lines, result) := openStore s.snapshotPath (w.file s.snapshotPath)
  ((configured s :: lines).filter (filter w s).allows, result)

/-- Makes the store of the server, and gives the number of its scopes. -/
def check (w : Surroundings) : Progress Nat :=
  match settings w with
  | .error e => ⟨none, [], .error e⟩
  | .ok s =>
    let (lines, result) := prepare w s
    ⟨some s, lines, result.map fun store => store.listScopes.length⟩

/-- What a successful check says. -/
def checkText (scopes : Nat) : String :=
  "configuration ok, snapshot has " ++ toString scopes ++ " scope(s)\n"

/-- Makes the service of the server. -/
def start (w : Surroundings) (now : Timestamp) : Progress Service :=
  match settings w with
  | .error e => ⟨none, [], .error e⟩
  | .ok s =>
    match prepare w s with
    | (lines, .error e) => ⟨some s, lines, .error e⟩
    | (lines, .ok store) =>
      let (more, result) := openService s store now
      ⟨some s, lines ++ more.filter (filter w s).allows, result⟩

/-- What a server with the given settings reports while it goes down. -/
def stop (w : Surroundings) (s : Settings) (service : Service) : List Line :=
  (stopping service.hub.stats).filter (filter w s).allows

end Daemon

end FeatureFlags
