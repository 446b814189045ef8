import ReviewChannel.Command
import ReviewChannel.Message

/-!
The events that the protocol log records: what the connection did, every command that was written or
refused, and every message of the grader.
-/

namespace ReviewChannel

inductive LogEvent where
  | connected (endpoint : String)
  | commandSent (command : Command)
  | commandFailed (command : Command) (reason : String)
  /-- A review was dropped because not everything could be saved. -/
  | saveFailed
  | messageReceived (message : Message)
  | disconnected
  | transportError (detail : String)
  | sessionEnded (stopSent : Bool)
deriving DecidableEq, Repr

def LogEvent.name : LogEvent → String
  | connected _ => "connected"
  | commandSent _ => "command_sent"
  | commandFailed .. => "command_failed"
  | saveFailed => "save_failed"
  | messageReceived _ => "message_received"
  | disconnected => "disconnected"
  | transportError _ => "transport_error"
  | sessionEnded _ => "session_ended"

end ReviewChannel
