import ReviewChannel.Json.Reader
import ReviewChannel.Log.Line
import ReviewChannel.Text.Utf8

/-!
Reading the entries of the protocol log back.
-/

namespace ReviewChannel

def Command.ofLabel? (label : String) : Option Command :=
  [Command.start, .review, .stop].find? fun command => command.label = label

def Message.ofJson? (json : Json) : Option Message := do
  let kind ← (← json.member? "kind").text?
  let text := (json.member? "text").bind Json.text?
  match kind, text with
  | "identifier", some text => return .identifier text
  | "stop_directive", none => return .stopDirective
  | "malformed_command", some text => return .malformed text
  | _, _ => none

namespace LogEvent

def ofData? (name : String) (data : Option Json) : Option LogEvent :=
  let part? (key : String) : Option Json := data.bind (Json.member? key)
  let text? (key : String) : Option String := (part? key).bind Json.text?
  let command? : Option Command := (text? "command").bind Command.ofLabel?
  match name with
  | "connected" => connected <$> text? "endpoint"
  | "command_sent" => commandSent <$> command?
  | "command_failed" => commandFailed <$> command? <*> text? "reason"
  | "save_failed" => some saveFailed
  | "message_received" => messageReceived <$> (part? "message").bind Message.ofJson?
  | "disconnected" => some disconnected
  | "transport_error" => transportError <$> text? "message"
  | "session_ended" => sessionEnded <$> (part? "stop_sent").bind Json.boolean?
  | _ => none

/-- The event of an entry, and when it happened. -/
def ofJson? (entry : Json) : Option (String × LogEvent) := do
  let stamp ← (← entry.member? "timestamp").text?
  let name ← (← entry.member? "event").text?
  let event ← ofData? name (entry.member? "data")
  return (stamp, event)

/-- The event of a line of the log, and when it happened. -/
def ofLine? (line : List UInt8) : Option (String × LogEvent) := do
  ofJson? (← Json.parse (← Utf8.decode? line))

end LogEvent

end ReviewChannel
