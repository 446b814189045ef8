import ReviewChannel.Config
import ReviewChannel.Json

/-!
The effective configuration as it is shown: for a reader, and as JSON. Both name the file that the
configuration comes from. In JSON a log path that is no text cannot be written (`jsonText?`).
-/

namespace ReviewChannel.Config

def sourceLabel (source : Option Path) : String :=
  match source with
  | some path => path.display
  | none => "(defaults; no .grader/config.toml found)"

/-- A key, padded to its column, and its value. -/
def row (key value : String) : String :=
  let padded := key.pushn ' ' (14 - key.length)
  s!"  {padded} {value}\n"

/-- The configuration for a reader. -/
def human (config : Config) (source : Option Path) : String :=
  let command := match config.saveCommand with
    | some words => " ".intercalate words
    | none => "(none)"
  let path := match config.logPath with
    | some path => path.display
    | none => "(disabled)"
  "Endpoint\n" ++ row "workdir_env" config.workdirEnv ++ row "socket_name" config.socketName ++
    "\nSave\n" ++ row "command" command ++ "\nLog\n" ++ row "path" path ++
    s!"\nSource: {sourceLabel source}\n"

def commandJson : Option (List String) → Json
  | some words => .array (words.map .text)
  | none => .null

def pathJson : Option Path → Json
  | some path => .text path.display
  | none => .null

/-- The configuration as a JSON value, names in order. -/
def json (config : Config) (source : Option Path) : Json :=
  .object [
    ("endpoint", .object [("socket_name", .text config.socketName),
      ("workdir_env", .text config.workdirEnv)]),
    ("log", .object [("path", pathJson config.logPath)]),
    ("save", .object [("command", commandJson config.saveCommand)]),
    ("source_path", .text (sourceLabel source))]

/-- Whether the configuration can be written in JSON: the log path, if there is one, is a text. -/
def isWritable (config : Config) : Bool :=
  config.logPath.all fun path => (Utf8.decode? path.octets).isSome

def jsonText? (config : Config) (source : Option Path) : Option String :=
  if config.isWritable then some (config.json source).pretty else none

end ReviewChannel.Config
