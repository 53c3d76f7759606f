import FeatureFlags.Config.Layer
import FeatureFlags.Json.Wire

/-!
# Log lines

What is reported while the server runs: how important it is, which part of the server reports
it, and the message with its data.
-/

namespace FeatureFlags.Log

/-- How important a line is. -/
inductive Level where
  | error
  | warn
  | info
  | debug
  | trace
deriving DecidableEq, Inhabited, Repr

namespace Level

/-- The number of a level; the more important, the smaller. -/
def rank : Level → Nat
  | error => 1
  | warn => 2
  | info => 3
  | debug => 4
  | trace => 5

/-- The name of a level in lines. -/
def name : Level → String
  | error => "ERROR"
  | warn => "WARN"
  | info => "INFO"
  | debug => "DEBUG"
  | trace => "TRACE"

end Level

/-- A line of the log. -/
structure Line where
  level : Level
  /-- The part of the server that reports. -/
  target : String
  message : String
  data : List (String × Json)
deriving Inhabited

namespace Line

/-- The message and the data of a line. -/
def fields (l : Line) : Json := .ofFields (("message", .string l.message) :: l.data)

/-- The text of a datum outside JSON. -/
def plainText : Json → String
  | .string s => s
  | v => v.text

/-- The text of a line. -/
def text (l : Line) : LogFormat → String
  | .json =>
    (Json.ofFields [("level", .string l.level.name), ("target", .string l.target),
      ("fields", l.fields)]).text
  | .pretty =>
    let data := l.data.map fun (name, v) => " " ++ name ++ "=" ++ plainText v
    l.level.name ++ " " ++ l.target ++ ": " ++ l.message ++ String.join data

end Line

end FeatureFlags.Log
