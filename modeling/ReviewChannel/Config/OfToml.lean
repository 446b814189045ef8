import ReviewChannel.Config
import ReviewChannel.Toml.Document

/-!
The configuration that a TOML document gives. It has three sections, `endpoint`, `save` and `log`,
and each of their keys has a default. Other keys and sections do not matter, as long as their values
can be read.

A section may be a table or an array of its values in order. In an array, values at the end may be
missing, and what comes after the known ones is not looked at. A date or a time stands for a section
without keys. Anything else of a wrong type makes the whole document no configuration.
-/

namespace ReviewChannel.Config

open Toml (Value Entries)

/-- The values of the known keys in a section, in order; `none` in the list is a missing value. -/
def sectionValues? (keys : List String) : Value → Option (List (Option Value))
  | .table _ entries =>
      if Toml.entriesReadable (entries.filter fun e => !keys.contains e.1) then
        some (keys.map fun key => entries.lookup key)
      else none
  | .array _ items => some ((List.range keys.length).map fun i => items[i]?)
  | .moment _ => some (keys.map fun _ => none)
  | _ => none

def text? : Value → Option String
  | .text s => some s
  | _ => none

/-- The texts of a value that must be an array of them. -/
def texts? : Value → Option (List String)
  | .array _ items => items.mapM text?
  | _ => none

/-- What a value gives, or the default if it is missing. A value of a wrong type gives nothing. -/
def orDefault {α : Type} (read : Value → Option α) (default : α) : Option Value → Option α
  | none => some default
  | some v => read v

/-- Takes over the section `endpoint`. -/
def withEndpoint (v : Value) (config : Config) : Option Config := do
  let values ← sectionValues? ["workdir_env", "socket_name"] v
  let workdirEnv ← orDefault text? config.workdirEnv (values[0]?.join)
  let socketName ← orDefault text? config.socketName (values[1]?.join)
  return { config with workdirEnv, socketName }

/-- Takes over the section `save`. -/
def withSave (v : Value) (config : Config) : Option Config := do
  let values ← sectionValues? ["command"] v
  let saveCommand ← orDefault (fun v => (texts? v).map some) config.saveCommand (values[0]?.join)
  return { config with saveCommand }

/-- Takes over the section `log`. -/
def withLog (v : Value) (config : Config) : Option Config := do
  let values ← sectionValues? ["path"] v
  let logPath ← orDefault (fun v => (text? v).map fun s => some (Path.ofText s)) config.logPath
    (values[0]?.join)
  return { config with logPath }

def withSection (take : Value → Config → Option Config) (v : Option Value) (config : Config) :
    Option Config :=
  match v with
  | none => some config
  | some v => take v config

def sections : List String := ["endpoint", "save", "log"]

/-- The configuration that the entries of a document give. -/
def ofEntries? (entries : Entries) : Option Config := do
  if Toml.entriesReadable (entries.filter fun e => !sections.contains e.1) then
    let config ← withSection withEndpoint (entries.lookup "endpoint") {}
    let config ← withSection withSave (entries.lookup "save") config
    withSection withLog (entries.lookup "log") config
  else none

/-- The configuration that a document gives. -/
def ofToml? (text : String) : Option Config := do
  ofEntries? (← Toml.document text)

end ReviewChannel.Config
