import ReviewChannel.Failure
import ReviewChannel.Message
import ReviewChannel.Stream

/-!
The grader's end of the stream to its client: commands come in octet by octet, identifiers and the
stop directive go out in one write each, which the stream takes as a whole.
-/

namespace ReviewChannel

/-- What waiting for a command comes to. -/
inductive Received (α : Type) where
  | got (value : α)
  | failed (failure : Failure)
  /-- No octet is there yet, and the client may still write. -/
  | waiting
deriving DecidableEq, Repr

namespace Peer

/-- Takes one octet from the client; `none` is the end of the stream. -/
def receiveCommand (s : Stream) : Received (Option Command) × Stream :=
  match s.read .grader 1 with
  | (.octets (b :: _), s) =>
      (match Command.decode b with
        | .ok command => .got (some command)
        | .error failure => .failed failure, s)
  | (.octets [], s) | (.ended, s) => (.got none, s)
  | (.failed cause, s) => (.failed (.transport cause.message), s)
  | (.waiting, s) | (.interrupted, s) => (.waiting, s)

/-- Takes one octet from the client, which must be the expected command. -/
def expectCommand (expected : Command) (s : Stream) : Received Unit × Stream :=
  match receiveCommand s with
  | (.got (some command), s) =>
      if command = expected then (.got (), s)
      else (.failed (.transport
        s!"expected {expected.label} command, got {command.label}"), s)
  | (.got none, s) =>
      (.failed (.transport
        s!"client disconnected while waiting for {expected.label} command"), s)
  | (.failed failure, s) => (.failed failure, s)
  | (.waiting, s) => (.waiting, s)

/-- Writes a text to the client in one piece. -/
def sendText (text : String) (s : Stream) : Except Failure Unit × Stream :=
  match s.write .grader (Utf8.encode text) with
  | (.ok (), s) => (.ok (), s)
  | (.error cause, s) => (.error (.transport cause.message), s)

/-- Sends the identifier of a student, unless it could be taken for a directive. -/
def sendIdentifier (id : String) (s : Stream) : Except Failure Unit × Stream :=
  if Message.isReserved id then (.error (.invalidIdentifier id), s)
  else sendText id s

/-- Asks the client's host to end. -/
def sendStop (s : Stream) : Except Failure Unit × Stream :=
  sendText Message.stopText s

end Peer

end ReviewChannel
