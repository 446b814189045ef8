import ReviewChannel.Proofs.Notices
import ReviewChannel.Proofs.Responses

/-!
A client asks its host to end once, however it is called.

* `Client.terminated_handleAll` — a client remembers that it was given the stop directive.
* `Client.count_ended_responses` — the response to the first stop directive asks the host to end,
  and no other response does.
* `Response.count_stopLine`, `Response.announced` — the reviewer is told right before the host is
  asked to end, and at no other time.
* `Client.host_ended_once` — all of that for any calls of a new client.
-/

namespace ReviewChannel

/-- What the reviewer is told when the host is about to be asked to end. -/
def stopLine : String :=
  "Stop command received"

def stopEvent : Event :=
  .connection (.payload Message.stopOctets)

/-! ### The announcement -/

/-- A reply to a trigger does not announce the end. -/
theorem Reply.stopLine_not_mem_acts (reply : Reply) : Act.informed stopLine ∉ reply.acts := by
  have posting : stopLine ≠ "Posting review" := by decide
  cases reply with
  | atOnce command write =>
      have sending : stopLine ≠ s!"Sending {command.label} command" := by
        cases command <;> decide
      cases write <;> simp [acts, writeActs, sending]
  | unsaved failure => simp [acts]
  | afterSave command write => cases write <;> simp [acts, writeActs, posting]

theorem studentLine_ne_stopLine (id : String) : studentLine id ≠ stopLine := by
  intro same
  have line := isStudentLine_studentLine id
  rw [same] at line
  exact absurd line (by decide)

/-- What is done about a message but the first stop directive neither announces nor asks for the end
of the host. -/
theorem Message.acts_of_quiet {message : Message} {terminated : Bool}
    (quiet : message = stopDirective → terminated = true) :
    Act.informed stopLine ∉ message.acts terminated ∧ Act.ended ∉ message.acts terminated := by
  cases message with
  | identifier id =>
      have other := (studentLine_ne_stopLine id).symm
      simp only [studentLine] at other
      simp [acts, other]
  | malformed text => simp [acts]
  | stopDirective => simp [acts, quiet rfl]

namespace Response

/-- The response that announces the end of the host and asks for it. -/
def ending : Response :=
  .delivered false (.payload Message.stopOctets)

theorem acts_ending :
    ending.acts = [.recorded (.messageReceived .stopDirective), .informed stopLine, .ended] := by
  decide

/-- Every other response does neither. -/
theorem acts_of_ne {response : Response} (other : response ≠ ending) :
    Act.informed stopLine ∉ response.acts ∧ Act.ended ∉ response.acts := by
  cases response with
  | triggered reply =>
      have unannounced := reply.stopLine_not_mem_acts
      have unasked := reply.ended_not_mem_acts
      simp [acts, unannounced, unasked]
  | shutDown => simp [acts]
  | delivered terminated event =>
      cases event with
      | payload octets =>
          have quiet : Message.classify octets = .stopDirective → terminated = true := by
            intro directive
            obtain rfl := Message.classify_eq_stopDirective_iff.mp directive
            cases terminated with
            | true => rfl
            | false => exact absurd rfl other
          obtain ⟨unannounced, unasked⟩ := Message.acts_of_quiet quiet
          simp [acts, ConnectionEvent.acts, unannounced, unasked]
      | connected endpoint =>
          have other : stopLine ≠ "Connected to grader" := by decide
          simp [acts, ConnectionEvent.acts, other]
      | disconnected => simp [acts, ConnectionEvent.acts]
      | transportError detail => simp [acts, ConnectionEvent.acts]

theorem count_ended (response : Response) :
    response.acts.count .ended = if response = ending then 1 else 0 := by
  by_cases first : response = ending
  · rw [first, acts_ending]
    decide
  · rw [if_neg first, List.count_eq_zero]
    exact (acts_of_ne first).2

/-- The end is announced as often as it is asked for. -/
theorem count_stopLine (response : Response) :
    response.acts.count (.informed stopLine) = response.acts.count .ended := by
  by_cases first : response = ending
  · rw [first, acts_ending]
    decide
  · rw [List.count_eq_zero.mpr (acts_of_ne first).1, List.count_eq_zero.mpr (acts_of_ne first).2]

/-- The end is asked for right after it is announced. -/
theorem announced (response : Response) :
    BeforeEach .ended ([.informed stopLine] <:+ ·) response.acts := by
  by_cases first : response = ending
  · rw [first, acts_ending]
    have told : [Act.informed stopLine] <:+
        [.recorded (.messageReceived .stopDirective), .informed stopLine] :=
      List.suffix_cons _ _
    exact BeforeEach.of_once told (by simp) List.not_mem_nil
  · exact .of_not_mem (acts_of_ne first).2

end Response

namespace Client

variable {σ : Type} [Surroundings σ]

/-! ### What a client remembers -/

/-- Only the stop directive marks the host as ended, and nothing takes the mark back. -/
theorem terminated_handle (client : Client σ) (event : Event) :
    (client.handle event).2.terminated = true ↔ client.terminated = true ∨ event = stopEvent := by
  cases event with
  | trigger => simp [handle, trigger, stopEvent]
  | shutdown => simp [handle, stopEvent]
  | connection event =>
      cases event with
      | connected endpoint => simp [handle, handleConnection, stopEvent]
      | disconnected => simp [handle, handleConnection, stopEvent]
      | transportError detail => simp [handle, handleConnection, stopEvent]
      | payload octets =>
          have spelling : stopEvent = .connection (.payload octets) ↔
              Message.classify octets = .stopDirective := by
            rw [Message.classify_eq_stopDirective_iff, stopEvent]
            simp [eq_comm]
          rw [eq_comm (b := stopEvent), spelling]
          simp only [handle, handleConnection, handlePayload]
          generalize Message.classify octets = message
          cases message with
          | identifier id => simp
          | malformed text => simp
          | stopDirective => cases client.terminated <;> simp

/-- A client remembers that it was given the stop directive. -/
theorem terminated_handleAll (events : List Event) (client : Client σ) :
    (client.handleAll events).terminated = true ↔
      client.terminated = true ∨ stopEvent ∈ events := by
  induction events generalizing client with
  | nil => simp [handleAll]
  | cons event rest ih =>
      have later := ih (client.handle event).2
      rw [terminated_handle, or_assoc] at later
      rw [List.mem_cons, eq_comm (a := stopEvent)]
      exact later

/-! ### What a client does -/

/-- A client that has not been given the stop directive asks its host to end when it is. -/
theorem response_eq_ending_iff (client : Client σ) (event : Event) :
    client.response event = .ending ↔ client.terminated = false ∧ event = stopEvent := by
  cases event with
  | trigger => simp [response, Response.ending, stopEvent]
  | shutdown => simp [response, Response.ending, stopEvent]
  | connection event => simp [response, Response.ending, stopEvent]

/-- The response to the first stop directive asks the host to end, and no other one does. -/
theorem count_ended_responses (events : List Event) (client : Client σ) :
    ((client.responses events).flatMap Response.acts).count .ended =
      if client.terminated = false ∧ stopEvent ∈ events then 1 else 0 := by
  induction events generalizing client with
  | nil => simp [responses]
  | cons event rest ih =>
      have first := (client.response event).count_ended
      have unasked : (client.handle event).2.terminated = false ↔
          client.terminated = false ∧ event ≠ stopEvent := by
        rw [← Bool.not_eq_true, terminated_handle, not_or, Bool.not_eq_true]
      rw [responses, List.flatMap_cons, List.count_append, ih, first]
      simp only [response_eq_ending_iff, unasked, List.mem_cons, eq_comm (a := stopEvent)]
      by_cases fresh : client.terminated = false
      · by_cases stop : event = stopEvent
        · simp [fresh, stop]
        · simp [fresh, stop]
      · simp [fresh]

/-- A payload makes a client exit if it is the stop directive, whatever it was given before. -/
theorem flow_payload (client : Client σ) (octets : List UInt8) :
    (client.handlePayload octets).1 =
      if octets = Message.stopOctets then .exit else .goOn := by
  rw [flow_handlePayload]
  by_cases stop : octets = Message.stopOctets
  · rw [if_pos stop, Message.classify_eq_stopDirective_iff.mpr stop]
    rfl
  · have undirected := mt Message.classify_eq_stopDirective_iff.mp stop
    rw [if_neg stop]
    generalize Message.classify octets = message at undirected
    cases message with
    | identifier id => rfl
    | malformed text => rfl
    | stopDirective => exact absurd rfl undirected

/-- Whatever calls are made of a new client, also after it has exited:

* it asks its host to end once if the stop directive is among the payloads that were handled, and
  never otherwise; the reviewer is told as often, each time right before it;
* after any of the events that were handled, it knows of the stop directive if that was among them;
* the stop directive makes it exit, the first time and any other time, and no other payload does. -/
theorem host_ended_once (desk : Desk σ) (calls : List Call) :
    let client : Client σ := { desk }
    let handled := calls.flatMap Call.events
    let called := client.callAll calls
    ∃ added,
      called.desk.acts = desk.acts ++ added ∧
      added.count .ended ≤ 1 ∧
      (added.count .ended = 1 ↔ stopEvent ∈ handled) ∧
      added.count (.informed stopLine) = added.count .ended ∧
      (∀ before after, added = before ++ .ended :: after → [.informed stopLine] <:+ before) ∧
      called = client.handleAll handled ∧
      (∀ before after, handled = before ++ after →
        ((client.handleAll before).terminated = true ↔ stopEvent ∈ before)) ∧
      ∀ octets,
        (called.handlePayload octets).1 = (if octets = Message.stopOctets then .exit else .goOn) ∧
        called.handle (.connection (.payload octets)) = called.handlePayload octets := by
  intro client handled called
  have all : called = client.handleAll handled := client.callAll_eq calls
  have counted := client.count_ended_responses handled
  refine ⟨(client.responses handled).flatMap Response.acts, ?_, ?_, ?_, ?_, ?_, all, ?_, ?_⟩
  · rw [all, acts_handleAll]
  · rw [counted]
    split
    · exact Nat.le_refl 1
    · exact Nat.zero_le 1
  · rw [counted]
    by_cases stop : stopEvent ∈ handled
    · simp [stop, client]
    · simp [stop]
  · rw [List.count_flatMap, List.count_flatMap]
    exact congrArg List.sum (List.map_congr_left fun response _ => response.count_stopLine)
  · exact BeforeEach.flatMap_suffix fun response _ => response.announced
  · intro before after _
    rw [terminated_handleAll]
    simp [client]
  · intro octets
    exact ⟨called.flow_payload octets, rfl⟩

end Client

end ReviewChannel
