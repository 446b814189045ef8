import ReviewChannel.Client

/-!
The queue of events in front of a client. Several senders share it; each learns whether the client
still takes events.
-/

namespace ReviewChannel

/-- The events that wait for a client. -/
structure Mailbox where
  /-- The events that were taken in, first one first. -/
  events : List Event := []
  /-- How many more events are taken in before the client stops listening; `none` if it goes on. -/
  room : Option Nat := none
deriving DecidableEq, Repr

namespace Mailbox

/-- Whether the client still takes events. -/
def attended (m : Mailbox) : Bool :=
  m.room != some 0

/-- Puts an event into the queue and says whether the client still took it. -/
def post (event : Event) (m : Mailbox) : Bool × Mailbox :=
  if m.attended then (true, { events := m.events ++ [event], room := m.room.map (· - 1) })
  else (false, m)

end Mailbox

end ReviewChannel
