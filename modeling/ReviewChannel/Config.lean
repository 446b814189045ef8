import ReviewChannel.Path

/-!
The configuration of a client: where the socket of its grader is, how everything is saved, and where
the protocol log goes.
-/

namespace ReviewChannel

/-- The configuration of a client. -/
structure Config where
  /-- The environment variable that names the work directory. -/
  workdirEnv : String := "GRADER_WORKDIR"
  /-- The name of the socket in the work directory. -/
  socketName : String := Path.defaultSocketName
  /-- The command that saves everything before a review, with its arguments. -/
  saveCommand : Option (List String) := none
  /-- The file of the protocol log. -/
  logPath : Option Path := none
deriving DecidableEq, Repr

/-- The configuration without a file. -/
instance : Inhabited Config := ⟨{}⟩

end ReviewChannel
