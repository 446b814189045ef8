import ReviewChannel.Proofs.Conversation
import ReviewChannel.Proofs.WireLanguage

/-!
What a reviewer is shown of the students.

A client tells its reviewer of each identifier that it is given, in a line of its own form
(`studentLine`); nothing else that it tells has that form. So the lines that were shown are those of
the payloads that were handled, one by one and in order (`Conversation.run_shows`).
-/

namespace ReviewChannel

def studentLine (id : String) : String :=
  s!"Student id: {id}"

/-- Whether a text has the form of a line of a student. -/
def isStudentLine (text : String) : Bool :=
  "Student id: ".toList.isPrefixOf text.toList

@[simp] theorem isStudentLine_studentLine (id : String) :
    isStudentLine (studentLine id) = true := by
  rw [isStudentLine, List.isPrefixOf_iff_prefix]
  simp only [studentLine, String.toList_append]
  exact List.prefix_append _ _

theorem studentLine_injective {id other : String} (same : studentLine id = studentLine other) :
    id = other := by
  have chars := congrArg String.toList same
  simp only [studentLine, String.toList_append] at chars
  exact String.toList_injective (List.append_cancel_left chars)

/-- The line of a student that an act told. -/
def Act.shown? (act : Act) : Option String :=
  act.info?.filter isStudentLine

/-- The lines of students that the reviewer was told. -/
def Desk.shown {σ : Type} (desk : Desk σ) : List String :=
  desk.acts.filterMap Act.shown?

/-- The line that a message makes a client tell. -/
def Message.line? : Message → Option String
  | identifier id => some (studentLine id)
  | stopDirective | malformed _ => none

/-- The lines that some payloads make a client tell. -/
def studentLines (payloads : List (List UInt8)) : List String :=
  payloads.filterMap fun octets => (Message.classify octets).line?

theorem studentLines_append (xs ys : List (List UInt8)) :
    studentLines (xs ++ ys) = studentLines xs ++ studentLines ys :=
  List.filterMap_append

/-- No reply to a trigger shows a student. -/
theorem Reply.shown_acts (reply : Reply) : reply.acts.filterMap Act.shown? = [] := by
  have posting : isStudentLine "Posting review" = false := by decide
  cases reply with
  | atOnce command write =>
      have sending : isStudentLine s!"Sending {command.label} command" = false := by
        cases command <;> decide
      cases write <;> simp [acts, writeActs, Act.shown?, Act.info?, sending]
  | unsaved failure => rfl
  | afterSave command write =>
      cases write <;> simp [acts, writeActs, Act.shown?, Act.info?, posting]

namespace Desk

variable {σ : Type}

theorem shown_note (act : Act) (desk : Desk σ) :
    (desk.note act).shown = desk.shown ++ act.shown?.toList := by
  rw [shown, acts_note, List.filterMap_append]
  cases shown : act.shown? with
  | none => rw [List.filterMap_cons_none shown]; rfl
  | some line => rw [List.filterMap_cons_some shown]; rfl

theorem shown_inform_of_not {text : String} (other : isStudentLine text = false)
    (desk : Desk σ) : (desk.inform text).shown = desk.shown := by
  rw [inform, shown_note]
  simp [Act.shown?, Act.info?, other]

@[simp] theorem shown_inform_studentLine (id : String) (desk : Desk σ) :
    (desk.inform s!"Student id: {id}").shown = desk.shown ++ [studentLine id] := by
  have line := isStudentLine_studentLine id
  rw [inform, shown_note]
  simp only [Act.shown?, Act.info?]
  rw [← studentLine, Option.filter_some_pos line]
  rfl

@[simp] theorem shown_complain (text : String) (desk : Desk σ) :
    (desk.complain text).shown = desk.shown :=
  (desk.shown_note _).trans (List.append_nil _)

@[simp] theorem shown_endHost (desk : Desk σ) : desk.endHost.shown = desk.shown :=
  (desk.shown_note _).trans (List.append_nil _)

@[simp] theorem shown_record [Surroundings σ] (event : LogEvent) (desk : Desk σ) :
    (desk.record event).shown = desk.shown :=
  (Desk.shown_note _ _).trans (List.append_nil _)

end Desk

namespace Client

variable {σ : Type} [Surroundings σ] (client : Client σ)

theorem shown_trigger : client.trigger.2.desk.shown = client.desk.shown := by
  simp only [trigger, Phase.trigger_eq, Desk.shown_record]
  rw [Desk.shown, List.filterMap_append, Reply.shown_acts, List.append_nil, Desk.shown]

theorem shown_teardown : client.teardown.shown = client.desk.shown := by
  unfold teardown
  rw [Phase.teardown_eq]
  split <;>
    (rename_i eq
     obtain ⟨-, rfl⟩ := Prod.mk.inj eq
     simp [Desk.shown, Desk.record, List.filterMap_cons, Act.shown?, Act.info?])

theorem shown_handlePayload (octets : List UInt8) :
    (client.handlePayload octets).2.desk.shown = client.desk.shown ++ studentLines [octets] := by
  have stopping : isStudentLine "Stop command received" = false := by decide
  unfold handlePayload
  rw [studentLines, List.filterMap_cons]
  generalize Message.classify octets = message
  cases message with
  | identifier id => simp [Message.line?]
  | malformed text => simp [Message.line?]
  | stopDirective =>
      simp only
      split <;> simp [Message.line?, Desk.shown_inform_of_not stopping]

theorem shown_handleConnection (event : ConnectionEvent) :
    (client.handleConnection event).2.desk.shown =
      client.desk.shown ++ studentLines event.payload?.toList := by
  have connected : isStudentLine "Connected to grader" = false := by decide
  cases event with
  | payload octets => exact client.shown_handlePayload octets
  | connected endpoint =>
      simp [handleConnection, ConnectionEvent.payload?, studentLines,
        Desk.shown_inform_of_not connected]
  | disconnected => simp [handleConnection, ConnectionEvent.payload?, studentLines]
  | transportError detail => simp [handleConnection, ConnectionEvent.payload?, studentLines]

end Client

namespace Conversation

variable {η : Type} {c : Conversation η}

/-- The reviewer was shown the students of the payloads that were handled. -/
structure Shows (c : Conversation η) : Prop where
  handled_le : c.handled ≤ c.delivered.length
  shown_eq : c.client.desk.shown = studentLines c.heard

variable [Surroundings η]

theorem Shows.step (h : c.Shows) (move : Move) : (c.step move).Shows := by
  obtain ⟨handled, shown⟩ := h
  have proceeds := c.step_proceeds move
  generalize c.step move = next at proceeds
  cases proceeds with
  | triggers => exact ⟨handled, c.client.shown_trigger.trans shown⟩
  | reads =>
      refine ⟨Nat.le_trans handled (by simp), shown.trans (congrArg studentLines ?_)⟩
      exact (heard_deliver handled _).symm
  | @handles _ event there =>
      obtain ⟨inside, -⟩ := List.getElem?_eq_some_iff.mp there
      refine ⟨inside, (c.client.shown_handleConnection event).trans ?_⟩
      rw [shown, ← studentLines_append, ← heard_next there]
      rfl
  | leaves => exact ⟨handled, c.client.shown_teardown.trans shown⟩
  | blocked | grades | graderLeaves => exact ⟨handled, shown⟩

/-- However the steps are mixed, the reviewer was shown the students of the payloads that were
handled, in order. -/
theorem run_shows (around : η) (endpoint : Path) (ids : List String) (moves : List Move) :
    ((start around endpoint ids).run moves).Shows :=
  List.foldlRecOn moves step ⟨Nat.zero_le _, rfl⟩ fun _ shows move _ => shows.step move

end Conversation

end ReviewChannel
