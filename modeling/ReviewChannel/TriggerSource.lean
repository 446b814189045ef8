import ReviewChannel.Mailbox
import ReviewChannel.Text.Blank
import ReviewChannel.Text.Lines

/-!
Triggers from lines of text. Each line fires the trigger; a line that says `q` or `quit`, a line
that is no text, or the end of the input asks to shut down. A source stops at once when a trigger
cannot be delivered any more.
-/

namespace ReviewChannel.TriggerSource

/-- Whether a line asks to shut down: it is no text, or it says so between blanks. -/
def isLast (line : List UInt8) : Bool :=
  match Utf8.decode? line with
  | none => true
  | some text =>
      let word := String.ofList (trimBlank text.toList)
      word = "q" || word = "quit"

def eventOf (line : List UInt8) : Event :=
  if isLast line then .shutdown else .trigger

/-- Sends the events of the lines to a receiver, which says of each event whether it took it. -/
def pumpLines {Receiver : Type} (post : Event → Receiver → Bool × Receiver) :
    List (List UInt8) → Receiver → Receiver
  | [], receiver => (post .shutdown receiver).2
  | line :: rest, receiver =>
      if isLast line then (post .shutdown receiver).2
      else match post .trigger receiver with
        | (true, receiver) => pumpLines post rest receiver
        | (false, receiver) => receiver

/-- Delivers the events of the input. -/
def pump (octets : List UInt8) (m : Mailbox) : Mailbox :=
  pumpLines Mailbox.post (linesOf octets) m

end ReviewChannel.TriggerSource
