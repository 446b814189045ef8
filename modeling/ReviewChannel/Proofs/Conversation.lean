import ReviewChannel.Proofs.Endings
import ReviewChannel.Proofs.Grading
import ReviewChannel.Proofs.Line

/-!
A client and a grader on one stream, in any order of their steps.

The client handles what its reader has put on its channel, and gets triggers; its reader reads; the
grader goes through its session. `Conversation.step` is one step of one of them and
`Conversation.run` is any number of steps.

* `Conversation.Proceeds` — all that a step can come to, with what lets it be taken
  (`step_proceeds`).
* `Conversation.run_answered` — the client asks its host to end once it has handled a stop
  directive, and only once.
-/

namespace ReviewChannel

/-- A client and a grader on one stream. -/
structure Conversation (η : Type) where
  client : Client (Line η)
  /-- What the reader has put on the client's channel, first event first. -/
  delivered : List ConnectionEvent
  /-- How many of these events the client has handled. -/
  handled : Nat := 0
  /-- Whether the reader has stopped. -/
  deaf : Bool := false
  /-- Whether the client has left. -/
  gone : Bool := false
  loop : ReviewLoop

/-- A step of a conversation. -/
inductive Move where
  /-- The reviewer asks to start, or to post a review. -/
  | trigger
  /-- The reader reads once. -/
  | read
  /-- The client handles the next event on its channel. -/
  | handle
  /-- The client ends its session and hangs up. -/
  | leave
  /-- The grader takes a step of its session. -/
  | grade
  /-- The grader closes its end, once its session has finished. -/
  | graderLeaves
deriving DecidableEq, Repr

namespace Conversation

variable {η : Type}

def stream (c : Conversation η) : Stream :=
  c.client.desk.surroundings.stream

/-- What the client can still read. -/
def inbox (c : Conversation η) : List UInt8 :=
  c.stream.client.inbox

/-- What the reads of the client have returned. -/
def reads (c : Conversation η) : List (List UInt8) :=
  c.delivered.filterMap ConnectionEvent.payload?

/-- The reads that the client has handled. -/
def heard (c : Conversation η) : List (List UInt8) :=
  (c.delivered.take c.handled).filterMap ConnectionEvent.payload?

def onStream (c : Conversation η) (s : Stream) : Conversation η :=
  { c with client.desk.surroundings.stream := s }

/-- A client has connected to a grader that is about to review these students. -/
def start (around : η) (endpoint : Path) (ids : List String) : Conversation η where
  client := { desk := { surroundings := { around } } }
  delivered := [.connected endpoint]
  loop := .new ids

variable [Surroundings η]

/-- One step. A step that cannot be taken changes nothing. -/
def step (c : Conversation η) : Move → Conversation η
  | .trigger => if c.gone then c else { c with client := c.client.trigger.2 }
  | .read =>
      if c.deaf then c
      else
        { c.onStream (Connection.readOnce c.stream).2 with
          delivered := c.delivered ++ (Connection.readOnce c.stream).1.event?.toList
          deaf := (Connection.readOnce c.stream).1.stops }
  | .handle =>
      if c.gone then c
      else
        match c.delivered[c.handled]? with
        | some event =>
            { c with
              client := (c.client.handle (.connection event)).2
              handled := c.handled + 1 }
        | none => c
  | .leave =>
      if c.gone then c
      else
        let left := { c with client.desk := c.client.teardown, gone := true }
        left.onStream (left.stream.shutDown .client)
  | .grade =>
      { c.onStream (c.loop.step c.stream).2 with loop := (c.loop.step c.stream).1 }
  | .graderLeaves =>
      if c.loop.result?.isSome then c.onStream (c.stream.close .grader) else c

/-- Several steps, one after the other. -/
def run (c : Conversation η) (moves : List Move) : Conversation η :=
  moves.foldl step c

theorem run_append (c : Conversation η) (before after : List Move) :
    c.run (before ++ after) = (c.run before).run after :=
  List.foldl_append

theorem run_concat (c : Conversation η) (moves : List Move) (move : Move) :
    c.run (moves ++ [move]) = (c.run moves).step move :=
  c.run_append moves [move]

/-! ### What a step comes to -/

/-- A step that cannot be taken. -/
def Blocked (c : Conversation η) : Move → Prop
  | .trigger | .leave => c.gone = true
  | .read => c.deaf = true
  | .handle => c.gone = true ∨ c.delivered[c.handled]? = none
  | .grade => False
  | .graderLeaves => c.loop.result? = none

/-- What the steps of a conversation come to, with what lets each be taken. -/
inductive Proceeds (c : Conversation η) : Move → Conversation η → Prop where
  | blocked {move : Move} (blocked : c.Blocked move) : c.Proceeds move c
  | triggers (present : c.gone = false) :
      c.Proceeds .trigger { c with client := c.client.trigger.2 }
  | reads (going : c.deaf = false) :
      c.Proceeds .read { c.onStream (Connection.readOnce c.stream).2 with
        delivered := c.delivered ++ (Connection.readOnce c.stream).1.event?.toList
        deaf := (Connection.readOnce c.stream).1.stops }
  | handles (present : c.gone = false) {event : ConnectionEvent}
      (there : c.delivered[c.handled]? = some event) :
      c.Proceeds .handle { c with
        client := (c.client.handle (.connection event)).2
        handled := c.handled + 1 }
  | leaves (present : c.gone = false) :
      c.Proceeds .leave (onStream { c with client.desk := c.client.teardown, gone := true }
        (c.client.teardown.surroundings.stream.shutDown .client))
  | grades :
      c.Proceeds .grade { c.onStream (c.loop.step c.stream).2 with
        loop := (c.loop.step c.stream).1 }
  | graderLeaves {result : Except Failure Nat} (finished : c.loop.result? = some result) :
      c.Proceeds .graderLeaves (c.onStream (c.stream.close .grader))

/-- Every step is one of these. -/
theorem step_proceeds (c : Conversation η) (move : Move) : c.Proceeds move (c.step move) := by
  cases move with
  | trigger =>
      rw [step]
      split
      · rename_i gone
        exact .blocked gone
      · rename_i present
        exact .triggers (Bool.eq_false_iff.mpr present)
  | read =>
      rw [step]
      split
      · rename_i deaf
        exact .blocked deaf
      · rename_i going
        exact .reads (Bool.eq_false_iff.mpr going)
  | handle =>
      rw [step]
      split
      · rename_i gone
        exact .blocked (Or.inl gone)
      · rename_i present
        split
        · rename_i event there
          exact .handles (Bool.eq_false_iff.mpr present) there
        · rename_i none
          exact .blocked (Or.inr none)
  | leave =>
      rw [step]
      split
      · rename_i gone
        exact .blocked gone
      · rename_i present
        exact .leaves (Bool.eq_false_iff.mpr present)
  | grade => exact .grades
  | graderLeaves =>
      rw [step]
      cases finished : c.loop.result? with
      | none => exact .blocked finished
      | some result => exact .graderLeaves finished

end Conversation

/-- No act of a client changes its own end of the stream, or what the grader may do. -/
theorem Desk.clientEnd_kept {η : Type} [Surroundings η] (ours : StreamEnd) (speaks : Bool) :
    Desk.Kept fun desk : Desk (Line η) =>
      desk.surroundings.stream.client = ours ∧ desk.surroundings.stream.grader.speaks = speaks where
  note _ _ _ kept := kept
  saveAll kept := kept
  record _ kept := kept
  transmit {desk} command kept := by
    have self := desk.surroundings.stream.endAt_write .client command.encode
    have other := desk.surroundings.stream.speaks_write .client command.encode
    exact ⟨self.trans kept.1, other.trans kept.2⟩

namespace Conversation

variable {η : Type}

/-! ### What the client leaves alone -/

/-- The same is on its way to the client, and its reader and the grader stand where they stood. -/
structure SameWire (c c' : Conversation η) : Prop where
  client_eq : c'.stream.client = c.stream.client
  speaks_eq : c'.stream.grader.speaks = c.stream.grader.speaks
  delivered_eq : c'.delivered = c.delivered
  deaf_eq : c'.deaf = c.deaf
  loop_eq : c'.loop = c.loop

theorem SameWire.refl (c : Conversation η) : c.SameWire c :=
  ⟨rfl, rfl, rfl, rfl, rfl⟩

/-- What was read and what is still to be read are the same, and the grader stands where it
stood. -/
structure SameQueue (c c' : Conversation η) : Prop where
  inbox_eq : c'.inbox = c.inbox
  reads_eq : c'.reads = c.reads
  loop_eq : c'.loop = c.loop

theorem SameWire.sameQueue {c c' : Conversation η} (h : c.SameWire c') : c.SameQueue c' where
  inbox_eq := congrArg StreamEnd.inbox h.client_eq
  reads_eq := congrArg (List.filterMap _) h.delivered_eq
  loop_eq := h.loop_eq

/-- The stream of a conversation is the one at the client's desk. -/
theorem wire_eq (c : Conversation η) :
    c.client.desk.surroundings.stream.client = c.stream.client ∧
      c.client.desk.surroundings.stream.grader.speaks = c.stream.grader.speaks :=
  ⟨rfl, rfl⟩

/-- What a read delivers is added to the reads. -/
theorem reads_append (c : Conversation η) (delivery : Connection.Delivery) :
    (c.delivered ++ delivery.event?.toList).filterMap ConnectionEvent.payload? =
      c.reads ++ delivery.payload?.toList := by
  rw [List.filterMap_append]
  cases delivery with
  | more event => cases event <;> rfl
  | last event => cases event <;> rfl
  | again => rfl

variable [Surroundings η]

theorem sameWire_trigger (c : Conversation η) : c.SameWire (c.step .trigger) := by
  rw [step]
  split
  · exact .refl c
  · have wire := Client.trigger_kept (Desk.clientEnd_kept _ _) c.wire_eq
    exact ⟨wire.1, wire.2, rfl, rfl, rfl⟩

theorem sameWire_handle (c : Conversation η) : c.SameWire (c.step .handle) := by
  rw [step]
  split
  · exact .refl c
  · split
    · rename_i event _
      have wire := Client.handle_kept (Desk.clientEnd_kept _ _) (.connection event) c.wire_eq
      exact ⟨wire.1, wire.2, rfl, rfl, rfl⟩
    · exact .refl c

/-- Only the reader and the grader change what is to be read. -/
theorem sameQueue_step (c : Conversation η) {move : Move} (notRead : move ≠ .read)
    (notGrade : move ≠ .grade) : c.SameQueue (c.step move) := by
  cases move with
  | trigger => exact c.sameWire_trigger.sameQueue
  | handle => exact c.sameWire_handle.sameQueue
  | read => exact absurd rfl notRead
  | grade => exact absurd rfl notGrade
  | leave =>
      rw [step]
      split
      · exact (SameWire.refl c).sameQueue
      · have wire := Client.teardown_kept (Desk.clientEnd_kept _ _) c.wire_eq
        have unread : c.client.teardown.surroundings.stream.client.inbox = c.inbox :=
          congrArg StreamEnd.inbox wire.1
        exact ⟨unread, rfl, rfl⟩
  | graderLeaves =>
      rw [step]
      split
      · exact ⟨rfl, rfl, rfl⟩
      · exact (SameWire.refl c).sameQueue

/-! ### What was heard -/

section Heard

omit [Surroundings η]

variable {c : Conversation η}

/-- What was heard begins what was read. -/
theorem heard_begins (c : Conversation η) : c.heard <+: c.reads :=
  (List.take_prefix _ _).filterMap _

/-- What a read adds to the queue of a client is not heard yet. -/
theorem heard_deliver (within : c.handled ≤ c.delivered.length) (events : List ConnectionEvent) :
    ((c.delivered ++ events).take c.handled).filterMap ConnectionEvent.payload? = c.heard :=
  congrArg (List.filterMap _) (List.take_append_of_le_length within)

/-- The next event that is handled is heard. -/
theorem heard_next {event : ConnectionEvent} (there : c.delivered[c.handled]? = some event) :
    (c.delivered.take (c.handled + 1)).filterMap ConnectionEvent.payload? =
      c.heard ++ event.payload?.toList := by
  obtain ⟨inside, rfl⟩ := List.getElem?_eq_some_iff.mp there
  rw [List.take_succ_eq_append_getElem inside, List.filterMap_append, List.filterMap_cons,
    List.filterMap_nil]
  cases c.delivered[c.handled].payload? <;> rfl

end Heard

/-- What was heard stays heard. -/
theorem heard_step (c : Conversation η) (move : Move) : c.heard <+: (c.step move).heard := by
  have proceeds := c.step_proceeds move
  generalize c.step move = next at proceeds
  cases proceeds with
  | reads =>
      rw [heard, heard, List.take_append, List.filterMap_append]
      exact List.prefix_append _ _
  | handles _ there => exact ⟨_, (heard_next there).symm⟩
  | blocked | triggers | leaves | grades | graderLeaves => exact List.prefix_rfl

/-! ### The client's answers -/

/-- The client has handled events in order, and answered the stop directives among them. -/
structure Answered (c : Conversation η) : Prop where
  handled_le : c.handled ≤ c.delivered.length
  answers : c.client.Answers c.heard

theorem Answered.step {c : Conversation η} (h : c.Answered) (move : Move) :
    (c.step move).Answered := by
  obtain ⟨handled, answers⟩ := h
  have proceeds := c.step_proceeds move
  generalize c.step move = next at proceeds
  cases proceeds with
  | blocked => exact ⟨handled, answers⟩
  | triggers => exact ⟨handled, answers.trigger⟩
  | reads =>
      refine ⟨Nat.le_trans handled (by simp), answers.congr rfl rfl ?_⟩
      exact heard_deliver handled _
  | handles _ there =>
      obtain ⟨inside, -⟩ := List.getElem?_eq_some_iff.mp there
      exact ⟨inside, (answers.handleConnection _).congr rfl rfl (heard_next there)⟩
  | leaves => exact ⟨handled, answers.congr c.client.endings_teardown rfl rfl⟩
  | grades | graderLeaves => exact ⟨handled, answers.congr rfl rfl rfl⟩

theorem Answered.run {c : Conversation η} (h : c.Answered) (moves : List Move) :
    (c.run moves).Answered :=
  List.foldlRecOn moves Conversation.step h fun _ answered move _ => answered.step move

/-- However the steps are mixed, the client asks its host to end once it has handled a stop
directive, and only once. -/
theorem run_answered (around : η) (endpoint : Path) (ids : List String) (moves : List Move) :
    ((start around endpoint ids).run moves).Answered := by
  have fresh : (start around endpoint ids).Answered :=
    ⟨Nat.zero_le _, ⟨rfl, by simp [start, heard]⟩⟩
  exact fresh.run moves

end Conversation

end ReviewChannel
