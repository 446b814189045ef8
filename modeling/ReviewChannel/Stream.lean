import ReviewChannel.SystemError

/-!
A stream between a client and a grader: two queues of octets, one for each direction.

A read takes what is in the queue of its end, up to a limit. Once the queue is empty it waits, or
finds the end of the stream if the other end has stopped writing. Writing to an end that no longer
listens fails. An end that closes with unread octets in its queue resets the stream: the first read
of the other end that finds its own queue empty fails, and later ones find the end of the stream.

Two things are simpler than in the system. A queue has no bound, so a write never waits. And a write
arrives as one piece, as short ones do; longer ones the system takes in pieces of its own choice,
and the other end may read in between (`Trickle` in `Proofs.Pieces`).
-/

namespace ReviewChannel

/-- The two ends of a stream. -/
inductive Side where
  | client
  | grader
deriving DecidableEq, Repr

def Side.other : Side → Side
  | client => grader
  | grader => client

structure StreamEnd where
  /-- The octets written to this end that it has not read. -/
  inbox : List UInt8 := []
  /-- Whether this end may still write. -/
  speaks : Bool := true
  /-- Whether octets written to this end are still taken. -/
  listens : Bool := true
  /-- Whether the other end went away with octets unread, and this end has not noticed yet. -/
  reset : Bool := false
deriving DecidableEq, Repr

/-- A stream between a client and a grader. -/
structure Stream where
  client : StreamEnd := {}
  grader : StreamEnd := {}
deriving DecidableEq, Repr

inductive ReadResult where
  /-- Octets from the queue; there is at least one. -/
  | octets (bytes : List UInt8)
  /-- The end of the stream. -/
  | ended
  | failed (cause : SystemError)
  /-- Nothing is there yet, and the other end may still write. -/
  | waiting
  /-- A signal came before anything was read. -/
  | interrupted
deriving DecidableEq, Repr

namespace Stream

def endAt (s : Stream) : Side → StreamEnd
  | .client => s.client
  | .grader => s.grader

def modify (s : Stream) (side : Side) (f : StreamEnd → StreamEnd) : Stream :=
  match side with
  | .client => { s with client := f s.client }
  | .grader => { s with grader := f s.grader }

/-- Writes octets at one end, all in one piece. Writing nothing always succeeds. -/
def write (side : Side) (bytes : List UInt8) (s : Stream) : Except SystemError Unit × Stream :=
  if bytes.isEmpty then (.ok (), s)
  else if (s.endAt side).speaks && (s.endAt side.other).listens then
    (.ok (), s.modify side.other fun e => { e with inbox := e.inbox ++ bytes })
  else (.error .brokenPipe, s)

/-- Reads at one end, at most `limit` octets. -/
def read (side : Side) (limit : Nat) (s : Stream) : ReadResult × Stream :=
  match (s.endAt side).inbox with
  | b :: rest =>
      (.octets ((b :: rest).take limit),
        s.modify side fun e => { e with inbox := (b :: rest).drop limit })
  | [] =>
      if (s.endAt side).reset then
        (.failed .connectionReset, s.modify side fun e => { e with reset := false })
      else if (s.endAt side.other).speaks && (s.endAt side).listens then (.waiting, s)
      else (.ended, s)

def endWriting (side : Side) (s : Stream) : Stream :=
  s.modify side fun e => { e with speaks := false }

/-- Stops both directions at one end. What is in its queue can still be read. -/
def shutDown (side : Side) (s : Stream) : Stream :=
  s.modify side fun e => { e with speaks := false, listens := false }

/-- Closes one end. Octets that it has not read are lost, which resets the stream. -/
def close (side : Side) (s : Stream) : Stream :=
  let unread := !(s.endAt side).inbox.isEmpty
  (s.modify side fun e => { e with inbox := [], speaks := false, listens := false }).modify
    side.other fun e => { e with reset := e.reset || unread }

end Stream

end ReviewChannel
