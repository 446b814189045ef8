import ReviewChannel.Failure
import ReviewChannel.Log.Event

/-!
The reviewer's desk: what a client can do to the world around it, and the record of what it did.

A client asks its host to save everything, hands commands to the connection, offers events to the
protocol log, and tells the reviewer what happened. The first two can fail, so how they answer is
left to the surroundings, a type with one operation for each (`Surroundings`). Every act goes on
record in the order in which it happened (`Desk.acts`), and all that can be observed of a client is
a view of that record: the texts told, the saves, the commands that were tried and those that were
accepted.
-/

namespace ReviewChannel

/-- Why not everything could be saved: what went wrong, and what is behind it, outermost first. -/
structure SaveFailure where
  summary : String
  causes : List String := []
deriving DecidableEq, Repr

/-- The whole failure in one text. -/
def SaveFailure.message (f : SaveFailure) : String :=
  ": ".intercalate (f.summary :: f.causes)

/-- The world around a client. -/
class Surroundings (σ : Type) where
  /-- Asks the host to save everything. -/
  saveAll : σ → Except SaveFailure Unit × σ
  /-- Hands a command to the connection. -/
  transmit : Command → σ → Except SystemError Unit × σ
  /-- Offers an event to the protocol log, if there is one. What becomes of it stays there. -/
  record : LogEvent → σ → σ

/-- Something that a client did. -/
inductive Act where
  /-- The reviewer was told how things stand. -/
  | informed (text : String)
  /-- The reviewer was told of a failure. -/
  | complained (text : String)
  /-- The host was asked to save everything, and answered. -/
  | saved (failure : Option SaveFailure)
  /-- A command was handed to the connection, which answered. -/
  | tried (command : Command) (failure : Option SystemError)
  /-- The host was given the trigger that drives the client. -/
  | wired
  /-- The host was asked to end. -/
  | ended
  /-- An event was offered to the protocol log. -/
  | recorded (event : LogEvent)
deriving DecidableEq, Repr

namespace Act

/-- The text that the act told the reviewer, if it is no failure. -/
def info? : Act → Option String
  | informed text => some text
  | _ => none

def error? : Act → Option String
  | complained text => some text
  | _ => none

def save? : Act → Option (Option SaveFailure)
  | saved failure => some failure
  | _ => none

def tried? : Act → Option Command
  | tried command _ => some command
  | _ => none

def sent? : Act → Option Command
  | tried command none => some command
  | _ => none

def event? : Act → Option LogEvent
  | recorded event => some event
  | _ => none

end Act

def failure? {ε α : Type} : Except ε α → Option ε
  | .ok _ => none
  | .error e => some e

/-- The world around a client with the record of what the client did. -/
structure Desk (σ : Type) where
  surroundings : σ
  /-- What was done, first act first. -/
  acts : List Act := []
deriving Repr

namespace Desk

variable {σ : Type}

/-- Puts an act on record. -/
def note (act : Act) (desk : Desk σ) : Desk σ :=
  { desk with acts := desk.acts ++ [act] }

@[simp] theorem acts_note (act : Act) (desk : Desk σ) :
    (desk.note act).acts = desk.acts ++ [act] :=
  rfl

@[simp] theorem surroundings_note (act : Act) (desk : Desk σ) :
    (desk.note act).surroundings = desk.surroundings :=
  rfl

/-- Tells the reviewer how things stand. -/
def inform (text : String) (desk : Desk σ) : Desk σ :=
  desk.note (.informed text)

def complain (text : String) (desk : Desk σ) : Desk σ :=
  desk.note (.complained text)

/-- Gives the host the trigger that drives the client. -/
def wireHost (desk : Desk σ) : Desk σ :=
  desk.note .wired

def endHost (desk : Desk σ) : Desk σ :=
  desk.note .ended

/-! ### Views of the record -/

/-- The texts told to the reviewer that are no failures. -/
def infos (desk : Desk σ) : List String :=
  desk.acts.filterMap Act.info?

def errors (desk : Desk σ) : List String :=
  desk.acts.filterMap Act.error?

/-- The answers to the requests to save everything. -/
def saves (desk : Desk σ) : List (Option SaveFailure) :=
  desk.acts.filterMap Act.save?

/-- How often the host was given the trigger. -/
def wirings (desk : Desk σ) : Nat :=
  desk.acts.count .wired

/-- How often the host was asked to end. -/
def endings (desk : Desk σ) : Nat :=
  desk.acts.count .ended

def attempts (desk : Desk σ) : List Command :=
  desk.acts.filterMap Act.tried?

def sent (desk : Desk σ) : List Command :=
  desk.acts.filterMap Act.sent?

/-- The events offered to the protocol log. -/
def events (desk : Desk σ) : List LogEvent :=
  desk.acts.filterMap Act.event?

/-! ### Acts that the surroundings answer -/

variable [Surroundings σ]

def saveAll (desk : Desk σ) : Except SaveFailure Unit × Desk σ :=
  let (answer, surroundings) := Surroundings.saveAll desk.surroundings
  (answer, { desk with surroundings }.note (.saved (failure? answer)))

/-- Hands a command to the connection. -/
def transmit (command : Command) (desk : Desk σ) : Except SystemError Unit × Desk σ :=
  let (answer, surroundings) := Surroundings.transmit command desk.surroundings
  (answer, { desk with surroundings }.note (.tried command (failure? answer)))

/-- Offers an event to the protocol log. -/
def record (event : LogEvent) (desk : Desk σ) : Desk σ :=
  { desk with surroundings := Surroundings.record event desk.surroundings }.note (.recorded event)

end Desk

end ReviewChannel
