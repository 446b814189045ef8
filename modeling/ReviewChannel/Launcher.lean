import ReviewChannel.Environment
import ReviewChannel.ExitStatus
import ReviewChannel.FileTree

/-!
The commands that a host runs. What the programs of a machine do is not known here: a `Launcher`
stands for the system that runs them, and a host only learns how it ended.
-/

namespace ReviewChannel

/-- What a command has written, to its output and of failures. -/
structure Writings where
  output : List UInt8 := []
  complaints : List UInt8 := []
deriving DecidableEq, Repr

/-- What a command leaves that was run to its end. -/
structure Ran where
  status : ExitStatus
  tree : FileTree
  writings : Writings := {}

/-- How the system runs a command with its arguments, in a working directory and with an
environment, on a tree of files. It fails if there is no program for the command. -/
abbrev Launcher :=
  List String → Place → Environment → FileTree → Except SystemError Ran

/-- A system without programs. -/
def Launcher.bare : Launcher :=
  fun _ _ _ _ => .error (.code 2)

end ReviewChannel
