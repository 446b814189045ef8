import ReviewChannel.Config
import ReviewChannel.Json.Reader

/-!
Reading a configuration back from the JSON in which it is shown.
-/

namespace ReviewChannel.Config

/-- The save command of a value: `null` is no command, an array the words of one. -/
def saveCommandOf? : Json → Option (Option (List String))
  | .null => some none
  | .array items => (items.mapM Json.text?).map some
  | .boolean _ | .text _ | .object _ => none

/-- The log path of a value: `null` is no path, a text the spelling of one. -/
def logPathOf? : Json → Option (Option Path)
  | .null => some none
  | .text s => some (some (.ofText s))
  | .boolean _ | .array _ | .object _ => none

/-- The configuration of a value, and the label of its source. -/
def ofJson? (shown : Json) : Option (Config × String) := do
  let endpoint ← shown.member? "endpoint"
  let workdirEnv ← (← endpoint.member? "workdir_env").text?
  let socketName ← (← endpoint.member? "socket_name").text?
  let saveCommand ← saveCommandOf? (← (← shown.member? "save").member? "command")
  let logPath ← logPathOf? (← (← shown.member? "log").member? "path")
  let label ← (← shown.member? "source_path").text?
  return ({ workdirEnv, socketName, saveCommand, logPath }, label)

/-- The configuration of a text in JSON, and the label of its source. -/
def ofJsonText? (text : String) : Option (Config × String) := do
  ofJson? (← Json.parse text)

end ReviewChannel.Config
