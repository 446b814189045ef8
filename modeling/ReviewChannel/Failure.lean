import ReviewChannel.Command
import ReviewChannel.Path
import ReviewChannel.SystemError
import ReviewChannel.Text.Quoted

/-!
Failures of the control channel and their texts. Each ends the operation that met it and nothing
else, but for a missing endpoint, without which no client starts.
-/

namespace ReviewChannel

inductive Failure where
  /-- No work directory is configured; the named variable is not set. -/
  | configurationMissing (variableName : String)
  | connect (endpoint : Path) (cause : SystemError)
  | write (command : Command) (cause : SystemError)
  /-- A message began as a directive and is none. -/
  | malformedCommand (text : String)
  | transport (detail : String)
  | unknownCommand (octet : UInt8)
  /-- An identifier began as only a directive may. -/
  | invalidIdentifier (text : String)
  | bind (endpoint : Path) (cause : SystemError)
deriving DecidableEq, Repr

namespace Failure

/-- Two hexadecimal digits for an octet, in lower case. -/
def hexOctet (b : UInt8) : String :=
  String.ofList [(b.toNat / 16).digitChar, (b.toNat % 16).digitChar]

/-- The text of a failure. -/
def message : Failure → String
  | configurationMissing name => s!"{name} environment variable is not defined"
  | connect endpoint cause =>
      s!"failed to connect to grader at {endpoint.display}: {cause.message}"
  | write command cause => s!"failed to send {command.label} command: {cause.message}"
  | malformedCommand text => s!"invalid command received: {text}"
  | transport detail => s!"grader connection failed: {detail}"
  | unknownCommand octet => s!"unknown command byte 0x{hexOctet octet}"
  | invalidIdentifier text => s!"identifier {Quoted.quote text} uses the reserved prefix"
  | bind endpoint cause => s!"failed to bind grader socket at {endpoint.display}: {cause.message}"

/-- The failure of the system behind a failure, if there is one. -/
def cause? : Failure → Option SystemError
  | connect _ cause | write _ cause | bind _ cause => some cause
  | _ => none

/-- The texts of a failure and of what is behind it, outermost first. -/
def chain (f : Failure) : List String :=
  f.message :: f.cause?.toList.map (·.message)

end Failure

/-- The command of an octet, or the failure that it is none. -/
def Command.decode (b : UInt8) : Except Failure Command :=
  match ofOctet? b with
  | some c => .ok c
  | none => .error (.unknownCommand b)

end ReviewChannel
