import ReviewChannel.Config
import ReviewChannel.Desk
import ReviewChannel.Launcher

/-!
The host of a client at a terminal. It finds the endpoint in its configuration, the environment and
the work directory that it was given, and saves by running a command.
-/

namespace ReviewChannel

/-- The host of a client at a terminal. -/
structure TerminalHost where
  config : Config
  /-- A work directory that goes before the environment. -/
  workdir : Option Path := none
  /-- Whether the grader has asked the host to end. -/
  terminated : Bool := false

namespace TerminalHost

def terminate (host : TerminalHost) : TerminalHost :=
  { host with terminated := true }

/-- The work directory. A variable that is set to nothing does not count. -/
def workdir? (host : TerminalHost) (env : Environment) : Option Path :=
  match host.workdir with
  | some dir => some dir
  | none => (env.value? host.config.workdirEnv).filter fun dir => !dir.octets.isEmpty

/-- The socket of the grader. -/
def endpoint (host : TerminalHost) (env : Environment) : Except Failure Path :=
  match host.workdir? env with
  | some dir => .ok (dir.socketIn host.config.socketName)
  | none => .error (.configurationMissing host.config.workdirEnv)

/-- Runs the command that saves everything: the outcome, the files after it, and what it has
written. Without a command there is nothing to save. -/
def saveAll (host : TerminalHost) (launch : Launcher) (cwd : Place) (env : Environment)
    (tree : FileTree) : Except SaveFailure Unit × FileTree × Writings :=
  match host.config.saveCommand with
  | none | some [] => (.ok (), tree, {})
  | some (program :: arguments) =>
      match launch (program :: arguments) cwd env tree with
      | .error e => (.error ⟨s!"failed to run save command '{program}'", [e.message]⟩, tree, {})
      | .ok ran =>
          (if ran.status.isSuccess then .ok ()
            else .error ⟨s!"save command '{program}' exited with {ran.status.message}", []⟩,
            ran.tree, ran.writings)

end TerminalHost

end ReviewChannel
