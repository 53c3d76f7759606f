import FeatureFlags.CommandLine
import FeatureFlags.Daemon

/-!
# The program

Reads the arguments, the environment and the files, and does what is asked for.  A server that has
come up goes down when the standard input ends.
-/

namespace FeatureFlags.Program

/-- The content of a file, if it can be read. -/
def readFile? (path : String) : IO (Option ByteArray) := do
  try return some (← IO.FS.readBinFile path) catch _ => return none

/-- The content of the configuration file. -/
def readConfig (path : String) : IO Config.FileContent := do
  try return .bytes (← IO.FS.readBinFile path)
  catch
    | .noFileOrDirectory .. => return .missing
    | _ => return .unreadable

/-- The variables that have a meaning for the server. -/
def readEnvironment : IO Config.Environment := do
  let names := Daemon.filterVariable :: Config.Environment.names
  let values ← names.filterMapM fun name => return (← IO.getEnv name).map (name, ·)
  return .ofList values

/-- What the server finds when it comes up with the given configuration file. -/
def readSurroundings (configPath : Option String) : IO Surroundings := do
  let environment ← readEnvironment
  let configFile ← readConfig (configPath.getD Command.standardPath)
  let nowhere : Surroundings := ⟨environment, configFile, fun _ => none⟩
  let path := (Daemon.settings nowhere).toOption.map Settings.snapshotPath
  let content ← match path with
    | some path => readFile? path
    | none => pure none
  return { nowhere with file := fun _ => content }

/-- Reports an error, and gives the number that the process ends with. -/
def fail (e : StartError) : IO UInt32 := do
  IO.eprintln ("Error: " ++ e.message)
  return e.exitCode.toUInt32

/-- Writes the log lines of a server with the given settings. -/
def report (settings : Option Settings) (lines : List Log.Line) : IO Unit :=
  let format := (settings.map Settings.logFormat).getD .pretty
  lines.forM fun line => IO.println (line.text format)

/-- Looks whether the configuration and the snapshot are fine. -/
def check (configPath : Option String) : IO UInt32 := do
  let progress := Daemon.check (← readSurroundings configPath)
  report progress.settings progress.lines
  match progress.result with
  | .error e => fail e
  | .ok scopes =>
    IO.print (Daemon.checkText scopes)
    return 0

/-- Waits until the standard input ends. -/
partial def waitForEnd (input : IO.FS.Stream) : IO Unit := do
  unless (← input.getLine).isEmpty do waitForEnd input

/-- The instant at which flags count as loaded; nothing that the program writes depends on it. -/
def epoch : Timestamp := ⟨0, 0, 0⟩

/-- Serves flags. -/
def serve (configPath : Option String) : IO UInt32 := do
  let w ← readSurroundings configPath
  let progress := Daemon.start w epoch
  report progress.settings progress.lines
  match progress.result with
  | .error e => fail e
  | .ok service =>
    (← IO.getStdout).flush
    waitForEnd (← IO.getStdin)
    if let some settings := progress.settings then
      report settings (Daemon.stop w settings service)
    return 0

end FeatureFlags.Program

open FeatureFlags in
/-- Does what the arguments ask for. -/
def main (arguments : List String) : IO UInt32 := do
  match Command.parse (← IO.getEnv Command.pathVariable) arguments with
  | .error e =>
    IO.eprintln ("error: " ++ e.message)
    return 2
  | .ok .help =>
    IO.print Command.helpText
    return 0
  | .ok .version =>
    IO.print Command.versionText
    return 0
  | .ok (.check configPath) => Program.check configPath
  | .ok (.serve configPath) => Program.serve configPath
