/-!
# The command line

What the arguments of the program ask for.  Arguments are read from left to right.  A request for
help or for the version ends the reading, and so does the first argument that has no place.
-/

namespace FeatureFlags

/-- What the program is asked to do. -/
inductive Command where
  /-- Serve flags. -/
  | serve (configPath : Option String)
  /-- Look whether the configuration and the snapshot are fine. -/
  | check (configPath : Option String)
  | help
  | version
deriving DecidableEq, Repr

/-- Why the program does not know what to do. -/
inductive UsageError where
  /-- The argument is not expected where it stands. -/
  | unexpected (argument : String)
  /-- The argument names no command. -/
  | unknownCommand (name : String)
  /-- The path of the configuration file is missing or empty. -/
  | noPath
  /-- The path of the configuration file is given twice. -/
  | repeatedPath
deriving DecidableEq, Repr

namespace UsageError

/-- The wording of an error. -/
def message : UsageError → String
  | unexpected argument => "unexpected argument '" ++ argument ++ "' found"
  | unknownCommand name => "unrecognized subcommand '" ++ name ++ "'"
  | noPath => "a value is required for '--config <CONFIG>' but none was supplied"
  | repeatedPath => "the argument '--config <CONFIG>' cannot be used multiple times"

end UsageError

namespace Command

/-- What the program says about its version. -/
def versionText : String := "beacon-server 0.1.0\n"

/-- What the program says about its use. -/
def helpText : String :=
  String.intercalate "\n" [
    "Beacon feature flag server", "", "Usage: beacon-server [OPTIONS] [COMMAND]", "", "Commands:",
    "  check  Validate configuration and the flag snapshot, then exit",
    "  help   Print this message", "", "Options:",
    "      --config <CONFIG>  Path to a TOML config file",
    "  -h, --help             Print help",
    "  -V, --version          Print version", ""]

/-- The name of the variable with the path of the configuration file. -/
def pathVariable : String := "BEACON_SERVER_CONFIG"

/-- The path of the configuration file unless another is given. -/
def standardPath : String := "/etc/beacon/server.toml"

/-- Whether an argument is an option or ends the options, and so is no value of an option. -/
def isOption (argument : String) : Bool :=
  argument.startsWith "-" && argument ≠ "-"

/-- The path after `--config=`. -/
def attachedPath? (argument : String) : Option String :=
  let start := "--config=".toList
  if start.isPrefixOf argument.toList then
    some (String.ofList (argument.toList.drop start.length))
  else none

/-- Whether an argument starts with a short option that asks for help or for the version. -/
def shortRequest? (argument : String) : Option Command :=
  match argument.toList with
  | '-' :: 'h' :: _ => some .help
  | '-' :: 'V' :: _ => some .version
  | _ => none

/-- Takes over the path of the configuration file, which has to be the first one. -/
def takePath (path : Option String) (new : String) : Except UsageError (Option String) :=
  if path.isSome then .error .repeatedPath
  else if new.isEmpty then .error .noPath
  else .ok (some new)

/-- The path of the configuration file: the one that was given, or that of the variable. -/
def finalPath (environment : Option String) (path : Option String) :
    Except UsageError (Option String) :=
  match path, environment with
  | some path, _ => .ok (some path)
  | none, some path => takePath none path
  | none, none => .ok none

/-- Reads the arguments after `check`. -/
def parseCheck : List String → Except UsageError (Option Command)
  | [] | ["--"] => .ok none
  | argument :: _ =>
    if argument = "--help" ∨ shortRequest? argument = some .help then .ok (some .help)
    else .error (.unexpected argument)

/-- Reads the arguments after `help`, which may name a command. -/
def parseHelp : List String → Except UsageError Command
  | [] | ["check"] | ["help"] => .ok .help
  | [name] | _ :: name :: _ => .error (.unknownCommand name)

/-- Reads arguments when `path` has been given already. -/
def parseFrom (environment path : Option String) : List String → Except UsageError Command
  | [] => return .serve (← finalPath environment path)
  | "--help" :: _ => .ok .help
  | "--version" :: _ => .ok .version
  | "help" :: rest => parseHelp rest
  | "check" :: rest => do
    match ← parseCheck rest with
    | some command => return command
    | none => return .check (← finalPath environment path)
  | ["--config"] => .error .noPath
  | "--config" :: new :: rest => do
    if isOption new then .error .noPath
    else parseFrom environment (← takePath path new) rest
  | ["--"] => return .serve (← finalPath environment path)
  | argument :: rest =>
    match attachedPath? argument, shortRequest? argument with
    | some new, _ => do parseFrom environment (← takePath path new) rest
    | none, some command => .ok command
    | none, none =>
      if isOption argument then .error (.unexpected argument)
      else .error (.unknownCommand argument)

/-- Reads the arguments of the program. -/
def parse (environment : Option String) (arguments : List String) : Except UsageError Command :=
  parseFrom environment none arguments

end Command

end FeatureFlags
