import ReviewChannel.Json
import ReviewChannel.Log.Event

/-!
The lines of the protocol log. Each event is one JSON object on one line: when it happened, its
name, and its data, if it has any.
-/

namespace ReviewChannel.LogEvent

def commandJson (command : Command) : Json :=
  .text command.label

def messageJson : Message → Json
  | .stopDirective => .object [("kind", .text Message.stopDirective.kind)]
  | message => .object [("kind", .text message.kind), ("text", .text message.text)]

def data? : LogEvent → Option Json
  | connected endpoint => some (.object [("endpoint", .text endpoint)])
  | commandSent command => some (.object [("command", commandJson command)])
  | commandFailed command reason =>
      some (.object [("command", commandJson command), ("reason", .text reason)])
  | messageReceived message => some (.object [("message", messageJson message)])
  | transportError detail => some (.object [("message", .text detail)])
  | sessionEnded stopSent => some (.object [("stop_sent", .boolean stopSent)])
  | saveFailed | disconnected => none

/-- The entry of an event that happened at a time. -/
def entry (stamp : String) (event : LogEvent) : Json :=
  .object ([("timestamp", .text stamp), ("event", .text event.name)] ++
    (event.data?.map fun d => ("data", d)).toList)

/-- The line of an event that happened at a time, without its end. -/
def line (stamp : String) (event : LogEvent) : String :=
  (event.entry stamp).compact

end ReviewChannel.LogEvent
