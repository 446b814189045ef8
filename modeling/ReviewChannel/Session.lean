import ReviewChannel.Desk

/-!
The session of a client with its grader. One action of the reviewer drives it: the first trigger
starts to grade, each later one saves everything and posts a review, and teardown sends `stop`
wherever the session stands.

* `transition` is the whole table.
* `Phase.trigger` and `Phase.teardown` carry out its effects. A failed write still moves the session
  on; a failed save leaves it where it was, so that the reviewer can try again.
-/

namespace ReviewChannel

/-- How far a session has come. -/
inductive Phase where
  | notStarted
  | started
deriving DecidableEq, Repr, Inhabited

/-- What can happen to a session. -/
inductive Action where
  | trigger
  | teardown
deriving DecidableEq, Repr

/-- What a transition asks for. -/
inductive Effect where
  | send (command : Command)
  /-- Save everything, and send only if that succeeds. -/
  | saveThenSend (command : Command)
deriving DecidableEq, Repr

/-- The command that an effect sends. -/
def Effect.command : Effect → Command
  | send command | saveThenSend command => command

/-- A row of the table. -/
structure Transition where
  effect : Effect
  /-- The phase afterwards, or `none` when the session has ended. -/
  next : Option Phase
deriving DecidableEq, Repr

/-- The table of the session. -/
def transition : Phase → Action → Transition
  | .notStarted, .trigger => ⟨.send .start, some .started⟩
  | .started, .trigger => ⟨.saveThenSend .review, some .started⟩
  | _, .teardown => ⟨.send .stop, none⟩

inductive TriggerOutcome where
  | sent (command : Command)
  /-- The write failed, and the reviewer was told. -/
  | sendFailed (command : Command) (cause : SystemError)
  /-- Not everything could be saved: nothing was sent and the phase is what it was. -/
  | saveFailed
deriving DecidableEq, Repr

/-- Why a command could not be sent, as the reviewer is told. -/
def writeReason (command : Command) (cause : SystemError) : String :=
  (Failure.write command cause).message

namespace Phase

variable {σ : Type} [Surroundings σ]

/-- The phase that a transition leads to from this one. -/
def after (phase : Phase) (t : Transition) : Phase :=
  t.next.getD phase

/-- Hands the command of a trigger to the connection and moves on, whatever the answer. -/
def submit (next : Phase) (command : Command) (desk : Desk σ) :
    TriggerOutcome × Phase × Desk σ :=
  match desk.transmit command with
  | (.ok (), desk) => (.sent command, next, desk)
  | (.error cause, desk) =>
      (.sendFailed command cause, next, desk.complain (writeReason command cause))

def trigger (phase : Phase) (desk : Desk σ) : TriggerOutcome × Phase × Desk σ :=
  let t := transition phase .trigger
  match t.effect with
  | .send command =>
      submit (phase.after t) command (desk.inform s!"Sending {command.label} command")
  | .saveThenSend command =>
      match desk.saveAll with
      | (.ok (), desk) => submit (phase.after t) command (desk.inform "Posting review")
      | (.error failure, desk) =>
          (.saveFailed, phase,
            desk.complain s!"Unable to save all files: {failure.message}")

/-- Ends the session: sends `stop`, whatever the phase. -/
def teardown (phase : Phase) (desk : Desk σ) : Except Failure Unit × Desk σ :=
  let command := (transition phase .teardown).effect.command
  match desk.transmit command with
  | (.ok (), desk) => (.ok (), desk)
  | (.error cause, desk) => (.error (.write command cause), desk)

end Phase

end ReviewChannel
