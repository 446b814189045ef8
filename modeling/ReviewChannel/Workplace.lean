import ReviewChannel.Connection
import ReviewChannel.Diagnostic
import ReviewChannel.Log.File
import ReviewChannel.Machine
import ReviewChannel.TerminalHost

/-!
The place where a program runs: the machine, a working directory, an environment, a clock and the
system that runs commands, and for a client its host, the stream to its grader and its protocol log.

A workplace is the surroundings of a client: saving runs the host's command, a command goes out on
the stream, and an event goes into the log, if there is one.
-/

namespace ReviewChannel

/-- A protocol log that is open. -/
structure OpenLog where
  entry : Entry
  /-- The octets that wait to be written. -/
  pending : List UInt8 := []
deriving DecidableEq, Repr

/-- The place where a program runs. -/
structure Workplace where
  machine : Machine
  cwd : Place := []
  environment : Environment := []
  /-- What the clock shows. -/
  stamp : String
  /-- How the system runs commands. -/
  launcher : Launcher := .bare
  host : TerminalHost := { config := {} }
  /-- The stream to the grader, once there is one. -/
  stream : Option Nat := none
  /-- Whether the reader of the stream has stopped. -/
  deaf : Bool := false
  log : Option OpenLog := none
  /-- The level of the diagnostics that are written. -/
  verbosity : Level := .notice
  /-- What the command that saves has written, run by run. -/
  writings : List Writings := []
  /-- What became of the events that were offered to the log: why they are not there, if so. -/
  unlogged : List (Option LogFailure) := []

namespace Workplace

def connect (path : Path) (w : Workplace) : Except Failure Unit × Workplace :=
  match w.machine.connect w.cwd path with
  | (.ok stream, machine) => (.ok (), { w with machine, stream := some stream })
  | (.error e, machine) => (.error (.connect path e), { w with machine })

/-- Runs the host's command. -/
def saveAll (w : Workplace) : Except SaveFailure Unit × Workplace :=
  let (result, tree, writings) :=
    w.host.saveAll w.launcher w.cwd w.environment w.machine.tree
  (result, { w with
    machine := { w.machine with tree }
    writings := w.writings ++ [writings] })

/-- Writes a command to the stream. -/
def transmit (command : Command) (w : Workplace) : Except SystemError Unit × Workplace :=
  match w.stream with
  | none => (.error .brokenPipe, w)
  | some stream =>
      let (result, machine) := w.machine.onStream stream (Connection.transmit command)
      (result, { w with machine })

/-- Writes an event to the log. A failure has no consequence. -/
def record (event : LogEvent) (w : Workplace) : Workplace :=
  match w.log with
  | none => { w with unlogged := w.unlogged ++ [none] }
  | some log =>
      let (result, writer) := ProtocolLog.append w.stamp event
        { file := { tree := w.machine.tree, entry := log.entry : OpenFile },
          pending := log.pending }
      { w with
        machine := { w.machine with tree := writer.file.tree }
        log := some { log with pending := writer.pending }
        unlogged := w.unlogged ++ [failure? result] }

instance : Surroundings Workplace := ⟨saveAll, transmit, record⟩

/-- Opens the protocol log at the path. -/
def openLog (path : Path) (w : Workplace) : Except LogFailure Unit × Workplace :=
  match ProtocolLog.openAt w.cwd path w.machine.tree with
  | (.ok entry, tree) =>
      (.ok (), { w with machine := { w.machine with tree }, log := some { entry } })
  | (.error e, tree) => (.error e, { w with machine := { w.machine with tree } })

/-- Reads what has come in on the stream: its events. A reader that has stopped reads no more. -/
def arrivals (w : Workplace) : List ConnectionEvent × Workplace :=
  match w.stream with
  | none => ([], w)
  | some stream =>
      if w.deaf then ([], w)
      else
        let (events, deaf, s) := Connection.drain (w.machine.streamAt stream)
        (events, { w with machine := w.machine.setStream stream s, deaf })

/-- Hangs up: stops both directions of the stream. The reader takes what is still there, and then
the stream is closed. -/
def hangUp (w : Workplace) : Workplace :=
  match w.stream with
  | none => w
  | some stream =>
      let s := (w.machine.streamAt stream).shutDown .client
      let (_, w) := { w with machine := w.machine.setStream stream s }.arrivals
      { w with machine := w.machine.closeEnd .client stream, stream := none }

end Workplace

end ReviewChannel
