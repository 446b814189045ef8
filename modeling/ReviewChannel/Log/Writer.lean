import ReviewChannel.Log.Line
import ReviewChannel.SystemError
import ReviewChannel.Text.Lines
import ReviewChannel.Text.Utf8

/-!
A buffered writer in front of a file, and the protocol log that writes through it.

Octets wait in a buffer of fixed size. A piece that does not fit makes the writer empty the buffer
first; a piece as large as the buffer goes straight to the file. The file may take less than it is
given, or fail. What a failed attempt to empty the buffer left there stays for the next one.

* `Writer.put` writes one piece, `Writer.flush` empties the buffer.
* `ProtocolLog.append` writes an event: its line, the end of the line, and then all that waits.
-/

namespace ReviewChannel

/-- A file that can be written at its end. -/
class Sink (σ : Type) where
  /-- Offers octets to the file, which says how many it took. -/
  offer : List UInt8 → σ → Except SystemError Nat × σ

structure Writer (σ : Type) where
  file : σ
  /-- The octets that wait. -/
  pending : List UInt8 := []
deriving Repr

namespace Writer

variable {σ : Type} [Sink σ]

def capacity : Nat := 8192

/-- Offers octets until the file has taken all of them: the failure, if there is one, and what the
file has not taken. `stalled` is the failure of a file that takes nothing. -/
def offerAll (stalled : SystemError) (octets : List UInt8) (file : σ) :
    Except SystemError Unit × List UInt8 × σ :=
  match octets with
  | [] => (.ok (), [], file)
  | b :: rest =>
      match Sink.offer (b :: rest) file with
      | (.error e, file) => (.error e, b :: rest, file)
      | (.ok 0, file) => (.error stalled, b :: rest, file)
      | (.ok (taken + 1), file) => offerAll stalled (rest.drop taken) file
termination_by octets.length
decreasing_by
  have := List.length_drop (i := taken) (l := rest)
  simp only [List.length_cons]
  omega

def flush (w : Writer σ) : Except SystemError Unit × Writer σ :=
  let (result, pending, file) :=
    offerAll (.custom "failed to write the buffered data") w.pending w.file
  (result, { file, pending })

/-- Writes a piece that is sure to fit, or straight to the file. -/
def putFitting (piece : List UInt8) (w : Writer σ) : Except SystemError Unit × Writer σ :=
  if capacity ≤ piece.length then
    let (result, _, file) := offerAll (.custom "failed to write whole buffer") piece w.file
    (result, { w with file })
  else (.ok (), { w with pending := w.pending ++ piece })

def put (piece : List UInt8) (w : Writer σ) : Except SystemError Unit × Writer σ :=
  if piece.length < capacity - w.pending.length then
    (.ok (), { w with pending := w.pending ++ piece })
  else if capacity - w.pending.length < piece.length then
    match w.flush with
    | (.error e, w) => (.error e, w)
    | (.ok (), w) => putFitting piece w
  else putFitting piece w

end Writer

/-- Why an event is not in the log. -/
inductive LogFailure where
  | noDirectory (parent : String) (cause : SystemError)
  | notOpened (path : String) (cause : SystemError)
  | notWritten (cause : SystemError)
  | notFlushed (cause : SystemError)
deriving DecidableEq, Repr

def LogFailure.message : LogFailure → String
  | noDirectory parent _ => s!"failed to create log directory: {parent}"
  | notOpened path _ => s!"failed to open log file: {path}"
  | notWritten _ => "failed to write log entry"
  | notFlushed _ => "failed to flush log"

def LogFailure.cause : LogFailure → SystemError
  | noDirectory _ cause | notOpened _ cause | notWritten cause | notFlushed cause => cause

/-- The texts of a failure and of what is behind it, outermost first. -/
def LogFailure.chain (f : LogFailure) : List String :=
  [f.message, f.cause.message]

namespace ProtocolLog

variable {σ : Type} [Sink σ]

/-- Writes an event that happened at a time. -/
def append (stamp : String) (event : LogEvent) (w : Writer σ) :
    Except LogFailure Unit × Writer σ :=
  match w.put (Utf8.encode (event.line stamp)) with
  | (.error e, w) => (.error (.notWritten e), w)
  | (.ok (), w) =>
      match w.put [lineFeed] with
      | (.error e, w) => (.error (.notWritten e), w)
      | (.ok (), w) =>
          match w.flush with
          | (.error e, w) => (.error (.notFlushed e), w)
          | (.ok (), w) => (.ok (), w)

end ProtocolLog

end ReviewChannel
