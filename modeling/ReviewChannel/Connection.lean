import ReviewChannel.Client
import ReviewChannel.Stream

/-!
The client's end of the stream. Commands are written as they come; a reader turns each read into one
event, in order, and stops at the end of the stream or at the first failure. Reads are not put
together again: a message of the grader is whatever one read returns.
-/

namespace ReviewChannel.Connection

def readSize : Nat := 4096

/-- What the reader does after a read. -/
inductive Delivery where
  /-- Deliver the event and read again. -/
  | more (event : ConnectionEvent)
  /-- Deliver the event and stop. -/
  | last (event : ConnectionEvent)
  /-- Read again. -/
  | again
deriving DecidableEq, Repr

def deliver : ReadResult → Delivery
  | .octets bytes => .more (.payload bytes)
  | .ended => .last .disconnected
  | .failed cause => .last (.transportError cause.message)
  | .waiting | .interrupted => .again

/-- Reads once at the client's end. -/
def readOnce (s : Stream) : Delivery × Stream :=
  let (result, s) := s.read .client readSize
  (deliver result, s)

/-- Reads until nothing more is there, at most `reads` times: the events, and whether the reader has
stopped. -/
def readAll : Nat → Stream → List ConnectionEvent × Bool × Stream
  | 0, s => ([], false, s)
  | reads + 1, s =>
      match readOnce s with
      | (.more event, s) =>
          let (events, stopped, s) := readAll reads s
          (event :: events, stopped, s)
      | (.last event, s) => ([event], true, s)
      | (.again, s) => ([], false, s)

/-- The events of all that is there to read. Each read takes at least one octet or is the last but
for a failure, so there are at most two more reads than octets. -/
def drain (s : Stream) : List ConnectionEvent × Bool × Stream :=
  readAll (s.client.inbox.length + 2) s

/-- Writes a command. -/
def transmit (command : Command) (s : Stream) : Except SystemError Unit × Stream :=
  s.write .client command.encode

end ReviewChannel.Connection
