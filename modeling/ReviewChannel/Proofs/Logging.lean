import Mathlib.Data.List.Basic
import ReviewChannel.Proofs.Journal
import ReviewChannel.Proofs.Line
import ReviewChannel.Proofs.Serving

/-!
What the protocol log of a client says, next to what the client did.

* `Logged` are surroundings with a protocol log; saves and the connection answer as they like.
* `Client.log_handleAll` — of events that are handled, the log is offered the entries of the
  responses, in order; `Client.teardown_callAll` adds the two of teardown.
* `Response.entries_acts`, `Response.entries_event` — the entry of a response agrees with what was
  done and with the event, so those of many responses do.
* `log_fidelity` — the file holds a line for each of them; and the log of a whole sitting begins
  with the connection, however its threads interleave.
-/

namespace ReviewChannel

/-! ### Logs in the surroundings -/

/-- A protocol log on a file, with the clock whose times stand in it. -/
structure ClockedLog where
  writer : Writer Script
  /-- What the clock shows when an event is offered. -/
  clock : Nat → String
  /-- How many events were offered. -/
  offered : Nat := 0

namespace ClockedLog

def record (log : ClockedLog) (event : LogEvent) : ClockedLog :=
  { log with
    writer := (ProtocolLog.append (log.clock log.offered) event log.writer).2
    offered := log.offered + 1 }

/-- Offers several events to the log. -/
def recordAll (log : ClockedLog) (events : List LogEvent) : ClockedLog :=
  events.foldl record log

/-- The next events with the times that the clock will show. -/
def stamped (log : ClockedLog) (events : List LogEvent) : List (String × LogEvent) :=
  (events.zipIdx log.offered).map fun (event, place) => (log.clock place, event)

theorem writer_recordAll (log : ClockedLog) (events : List LogEvent) :
    (log.recordAll events).writer =
      (ProtocolLog.appendEach (log.stamped events) log.writer).2 := by
  induction events generalizing log with
  | nil => rfl
  | cons event rest ih => exact ih (log.record event)

/-- A log whose writes succeed holds a line for each event that it is offered. -/
theorem content_recordAll {log : ClockedLog} (succeeds : log.writer.file.Succeeds)
    {events : List LogEvent} (some : events ≠ []) :
    (log.recordAll events).writer.file.content =
      log.writer.file.content ++ log.writer.pending ++
        ProtocolLog.linesOctets (log.stamped events) := by
  have holds : log.writer.Holds Script.content Script.Succeeds
      (log.writer.file.content ++ log.writer.pending) := ⟨succeeds, rfl⟩
  obtain ⟨-, written, empty⟩ :=
    ProtocolLog.appendEach_holds Script.willing holds (log.stamped events)
  rw [← writer_recordAll] at written empty
  have all := written.all
  rwa [empty (Or.inr (by simpa [stamped] using some)), List.append_nil] at all

end ClockedLog

/-- Surroundings with a protocol log. -/
structure Logged (η : Type) where
  /-- What else is around the client: its host and the connection. -/
  around : η
  log : ClockedLog

instance {η : Type} [Surroundings η] : Surroundings (Logged η) where
  saveAll s :=
    let (answer, around) := Surroundings.saveAll s.around
    (answer, { s with around })
  transmit command s :=
    let (answer, around) := Surroundings.transmit command s.around
    (answer, { s with around })
  record event s := { s with log := s.log.record event }

namespace Client

variable {η : Type} [Surroundings η] (client : Client (Logged η))

/-- A log hears nothing of what a client asks. -/
theorem log_asked (event : Event) :
    (client.asked event).log = client.desk.surroundings.log := by
  cases event with
  | shutdown => rfl
  | connection event => rfl
  | trigger =>
      unfold asked Reply.ask
      cases client.phase with
      | notStarted => rfl
      | started =>
          simp only [transition, Surroundings.saveAll]
          cases Surroundings.saveAll client.desk.surroundings.around with
          | mk answer around => cases answer <;> rfl

theorem log_handle (event : Event) :
    (client.handle event).2.desk.surroundings.log =
      client.desk.surroundings.log.recordAll (client.response event).logged?.toList := by
  rw [surroundings_handle, ← client.log_asked event]
  cases (client.response event).logged? <;> rfl

/-- The log is offered the entries of the responses, in order. -/
theorem log_handleAll (events : List Event) :
    (client.handleAll events).desk.surroundings.log =
      client.desk.surroundings.log.recordAll
        ((client.responses events).filterMap Response.logged?) := by
  induction events generalizing client with
  | nil => rfl
  | cons event rest ih =>
      have later : (client.handleAll (event :: rest)).desk.surroundings.log = _ :=
        ih (client.handle event).2
      rw [later, log_handle, responses, List.filterMap_cons]
      cases (client.response event).logged? <;> rfl

/-- Teardown offers the log what came of `stop`, and the end of the session. -/
theorem teardown_logs :
    ∃ stop : Option SystemError,
      client.teardown.acts = client.desk.acts ++ [.tried .stop stop,
        .recorded (.ofWrite .stop stop), .recorded (.sessionEnded stop.isNone)] ∧
      client.teardown.surroundings.log = client.desk.surroundings.log.recordAll
        [.ofWrite .stop stop, .sessionEnded stop.isNone] := by
  rw [teardown_eq]
  exact ⟨_, rfl, rfl⟩

end Client

/-! ### Entries and acts -/

/-- Whether an entry tells of a command or of a save. -/
def LogEvent.isAnswer : LogEvent → Bool
  | commandSent _ | commandFailed .. | saveFailed => true
  | connected _ | messageReceived _ | disconnected | transportError _ | sessionEnded _ => false

/-- Whether an entry tells of something that the connection delivered. -/
def LogEvent.isDelivered : LogEvent → Bool
  | connected _ | messageReceived _ | disconnected | transportError _ => true
  | commandSent _ | commandFailed .. | saveFailed | sessionEnded _ => false

/-- The entry that is due for an act: for each command that the connection took or refused, and for
each save that failed. -/
def Act.logged? : Act → Option LogEvent
  | tried command write => some (.ofWrite command write)
  | saved (some _) => some .saveFailed
  | saved none | informed _ | complained _ | wired | ended | recorded _ => none

/-- The entry that is due for an event: for each that the connection delivered. -/
def Event.logged? : Event → Option LogEvent
  | connection event => some event.entry
  | trigger | shutdown => none

theorem LogEvent.isAnswer_ofWrite (command : Command) (write : Option SystemError) :
    (ofWrite command write).isAnswer = true := by
  cases write <;> rfl

theorem LogEvent.isDelivered_ofWrite (command : Command) (write : Option SystemError) :
    (ofWrite command write).isDelivered = false := by
  cases write <;> rfl

theorem ConnectionEvent.isAnswer_entry (event : ConnectionEvent) :
    event.entry.isAnswer = false := by
  cases event <;> rfl

theorem ConnectionEvent.isDelivered_entry (event : ConnectionEvent) :
    event.entry.isDelivered = true := by
  cases event <;> rfl

theorem Message.entries_acts (terminated : Bool) (message : Message) :
    (message.acts terminated).filterMap Act.logged? = [] := by
  cases message with
  | identifier id => rfl
  | malformed text => rfl
  | stopDirective => cases terminated <;> rfl

theorem ConnectionEvent.entries_acts (terminated : Bool) (event : ConnectionEvent) :
    (event.acts terminated).filterMap Act.logged? = [] := by
  cases event with
  | payload octets => exact (Message.classify octets).entries_acts terminated
  | connected endpoint => rfl
  | disconnected => rfl
  | transportError detail => rfl

theorem Reply.entries_acts (reply : Reply) : reply.acts.filterMap Act.logged? = [reply.entry] := by
  cases reply with
  | atOnce command write => cases write <;> rfl
  | unsaved failure => rfl
  | afterSave command write => cases write <;> rfl

theorem Reply.isAnswer_entry (reply : Reply) : reply.entry.isAnswer = true := by
  cases reply with
  | atOnce command write => exact LogEvent.isAnswer_ofWrite command write
  | unsaved failure => rfl
  | afterSave command write => exact LogEvent.isAnswer_ofWrite command write

theorem Reply.isDelivered_entry (reply : Reply) : reply.entry.isDelivered = false := by
  cases reply with
  | atOnce command write => exact LogEvent.isDelivered_ofWrite command write
  | unsaved failure => rfl
  | afterSave command write => exact LogEvent.isDelivered_ofWrite command write

/-- A trigger whose command was refused tells the reviewer the reason that the log is offered. -/
theorem Reply.errors_of_refused {reply : Reply} {command : Command} {reason : String}
    (refused : reply.entry = .commandFailed command reason) :
    reply.acts.filterMap Act.error? = [reason] := by
  rw [errors_acts]
  cases reply with
  | unsaved failure => cases refused
  | atOnce sent write =>
      cases write with
      | none => cases refused
      | some cause =>
          cases refused
          rfl
  | afterSave sent write =>
      cases write with
      | none => cases refused
      | some cause =>
          cases refused
          rfl

namespace Response

/-- The entries of commands and saves are those that are due for the acts. -/
theorem entries_acts (response : Response) :
    response.acts.filterMap Act.logged? = response.logged?.toList.filter LogEvent.isAnswer := by
  cases response with
  | triggered reply =>
      rw [acts, List.filterMap_append, reply.entries_acts]
      simp [logged?, Act.logged?, reply.isAnswer_entry]
  | shutDown => rfl
  | delivered terminated event =>
      rw [acts, event.entries_acts]
      simp [logged?, event.isAnswer_entry]

theorem entries_event (response : Response) :
    response.event.logged?.toList = response.logged?.toList.filter LogEvent.isDelivered := by
  cases response with
  | triggered reply => simp [event, logged?, Event.logged?, reply.isDelivered_entry]
  | shutDown => rfl
  | delivered terminated e => simp [event, logged?, Event.logged?, e.isDelivered_entry]

theorem entries_flatMap_acts (responses : List Response) :
    (responses.flatMap acts).filterMap Act.logged? =
      (responses.filterMap logged?).filter LogEvent.isAnswer := by
  rw [List.filterMap_flatMap, List.filterMap_eq_flatMap_toList, List.filter_flatMap]
  exact congrArg responses.flatMap (funext entries_acts)

theorem entries_map_event (responses : List Response) :
    (responses.map event).filterMap Event.logged? =
      (responses.filterMap logged?).filter LogEvent.isDelivered := by
  rw [List.filterMap_map, List.filterMap_eq_flatMap_toList, List.filterMap_eq_flatMap_toList,
    List.filter_flatMap]
  exact congrArg responses.flatMap (funext entries_event)

theorem events_flatMap_acts (responses : List Response) :
    (responses.flatMap acts).filterMap Act.event? = responses.filterMap logged? := by
  rw [List.filterMap_flatMap, List.filterMap_eq_flatMap_toList]
  exact congrArg responses.flatMap (funext events_acts)

/-- The reason that the log is offered is the one that the reviewer is told with it. -/
theorem errors_of_refused {response : Response} {command : Command} {reason : String}
    (refused : response.logged? = some (.commandFailed command reason)) :
    response.acts.filterMap Act.error? = [reason] := by
  cases response with
  | triggered reply =>
      rw [acts, List.filterMap_append, reply.errors_of_refused (Option.some.inj refused)]
      rfl
  | shutDown => cases refused
  | delivered terminated event => cases event <;> cases refused

end Response

/-! ### Whole sessions -/

variable {η : Type} [Surroundings η]

/-- After some calls and teardown, the log was offered the entries of the responses and two more. -/
theorem Client.teardown_callAll (client : Client (Logged η)) (calls : List Call) :
    ∃ stop : Option SystemError,
      (client.callAll calls).teardown.acts = client.desk.acts ++
        ((client.responses (calls.flatMap Call.events)).flatMap Response.acts ++
          [.tried .stop stop, .recorded (.ofWrite .stop stop),
            .recorded (.sessionEnded stop.isNone)]) ∧
      (client.callAll calls).teardown.surroundings.log = client.desk.surroundings.log.recordAll
        ((client.responses (calls.flatMap Call.events)).filterMap Response.logged? ++
          [.ofWrite .stop stop, .sessionEnded stop.isNone]) := by
  obtain ⟨stop, acts, log⟩ := (client.callAll calls).teardown_logs
  refine ⟨stop, ?_, ?_⟩
  · rw [acts, callAll_eq, acts_handleAll, List.append_assoc]
  · rw [log, callAll_eq, log_handleAll]
    exact List.foldl_append.symm

/-- A client that has handled the connection first has offered it to the log first. -/
theorem Client.log_of_connected (client : Client (Logged η)) {endpoint : Path}
    {handled : List Event} (head : handled.head? = some (.connection (.connected endpoint))) :
    ∃ later, (client.handleAll handled).desk.surroundings.log =
      client.desk.surroundings.log.recordAll (.connected endpoint.display :: later) := by
  obtain ⟨rest, rfl⟩ := List.head?_eq_some_iff.mp head
  exact ⟨_, client.log_handleAll _⟩

/-- What a sitting has offered to the log begins with the connection, unless it is nothing. -/
theorem Serving.entries_begin {endpoint : Path} {around : Logged η} {s : Serving (Logged η)}
    (h : s.Orderly endpoint around) :
    (s.client.desk.surroundings.log = around.log ∧ s.stage ≠ .left) ∨
      ∃ later, s.client.desk.surroundings.log =
        around.log.recordAll (.connected endpoint.display :: later) := by
  unfold Serving.Orderly at h
  cases stage : s.stage with
  | connecting | spawning | wiring | refused =>
      simp only [stage] at h
      exact Or.inl ⟨by rw [h.1]; rfl, by simp⟩
  | listening =>
      simp only [stage] at h
      obtain ⟨same, -, head⟩ := h
      cases handled : s.handled with
      | nil =>
          rw [handled] at same
          exact Or.inl ⟨by rw [same]; rfl, by simp⟩
      | cons first rest =>
          rw [posted, handled] at head
          rw [same]
          exact Or.inr (Client.log_of_connected _ (handled ▸ head))
  | left =>
      simp only [stage] at h
      obtain ⟨desk, handled, head⟩ := h
      obtain ⟨rest, posted⟩ := List.head?_eq_some_iff.mp head
      have first : s.handled.head? = some (.connection (.connected endpoint)) := by
        rw [handled, posted]
        rfl
      obtain ⟨later, offered⟩ := (start around).client.wire.log_of_connected first
      obtain ⟨stop, -, ended⟩ :=
        ((start around).client.wire.handleAll s.handled).teardown_logs
      rw [desk, ended, offered]
      exact Or.inr ⟨_, List.foldl_append.symm⟩

/-- The log of a client whose writes succeed says what the client did.

* After any calls and teardown, each event that was handled has its response, and each response but
  that to a request to shut down adds one line to the file, in order; two more lines tell of the
  last `stop` and of the end of the session.
* The entries of commands and saves are those that are due for what was done, one by one: the
  connection took the command, or refused it for that reason, or not everything could be saved. The
  reviewer was told the reason of a refusal in the same response. The entries of what the connection
  delivered are those that are due for the events that were handled.
* In a sitting whose channel only the reader and the host's trigger feed, the first line is the
  connection, however the threads interleave; a sitting that has come to its end has it. -/
theorem log_fidelity :
    (∀ (client : Client (Logged η)) (calls : List Call),
      client.desk.surroundings.log.writer.file.Succeeds →
      let log := client.desk.surroundings.log
      let handled := calls.flatMap Call.events
      let responses := client.responses handled
      let ended := (client.callAll calls).teardown
      ∃ stop : Option SystemError,
        let added := responses.flatMap Response.acts ++ [.tried .stop stop,
          .recorded (.ofWrite .stop stop), .recorded (.sessionEnded stop.isNone)]
        let entries := responses.filterMap Response.logged? ++
          [.ofWrite .stop stop, .sessionEnded stop.isNone]
        ended.acts = client.desk.acts ++ added ∧
          ended.surroundings.log.writer.file.content =
            log.writer.file.content ++ log.writer.pending ++
              ProtocolLog.linesOctets (log.stamped entries) ∧
          responses.map Response.event = handled ∧
          (∀ response ∈ responses, response.logged? = none ↔ response.event = .shutdown) ∧
          added.filterMap Act.event? = entries ∧
          entries.filter LogEvent.isAnswer = added.filterMap Act.logged? ∧
          entries.filter LogEvent.isDelivered = handled.filterMap Event.logged? ∧
          ∀ response ∈ responses, ∀ command reason,
            response.logged? = some (.commandFailed command reason) →
              response.acts.filterMap Act.error? = [reason]) ∧
    (∀ (around : Logged η) (endpoint : Path) (moves : List Serving.Move),
      around.log.writer.file.Succeeds →
      let s := (Serving.start around).run endpoint moves
      let log := s.client.desk.surroundings.log
      (s.stage = .left →
          Client.serve (.ok endpoint) (fun _ around => (.ok (), around)) id s.posted
            { surroundings := around } = .ok (s.waiting, s.client.desk)) ∧
        ((log = around.log ∧ s.stage ≠ .left) ∨
          ∃ later, log.writer.file.content =
            around.log.writer.file.content ++ around.log.writer.pending ++
              ProtocolLog.linesOctets
                (around.log.stamped (.connected endpoint.display :: later)))) := by
  constructor
  · intro client calls succeeds log handled responses ended
    obtain ⟨stop, acts, offered⟩ := client.teardown_callAll calls
    have events : responses.map Response.event = handled := client.map_event_responses handled
    refine ⟨stop, acts, ?_, events, fun response _ => response.logged?_eq_none_iff, ?_, ?_, ?_,
      fun response _ command reason => Response.errors_of_refused⟩
    · rw [offered]
      exact ClockedLog.content_recordAll succeeds (by simp)
    · rw [List.filterMap_append, Response.events_flatMap_acts]
      rfl
    · rw [List.filter_append, List.filterMap_append, Response.entries_flatMap_acts]
      cases stop <;> rfl
    · rw [List.filter_append, ← Response.entries_map_event, events]
      cases stop <;> exact List.append_nil _
  · intro around endpoint moves succeeds s log
    have orderly : s.Orderly endpoint around := Serving.orderly_start.run moves
    refine ⟨Serving.serve_of_left orderly, ?_⟩
    rcases Serving.entries_begin orderly with quiet | ⟨later, offered⟩
    · exact Or.inl quiet
    · refine Or.inr ⟨later, ?_⟩
      rw [show log = _ from offered]
      exact ClockedLog.content_recordAll succeeds (List.cons_ne_nil _ _)

/-- A file that takes three octets at a time has the refusal of a client whose grader is gone, and
the connection of one that was wound down before it handled anything. -/
theorem log_fidelity_on_slow_file :
    let log : ClockedLog :=
      { writer := { file := { outcome := fun _ => .ok 3 } }, clock := fun _ => "noon" }
    let around : Logged (Line Obliging) :=
      { around := { around := {}, stream := ({} : Stream).close .grader }, log }
    let client : Client (Logged (Line Obliging)) := { desk := { surroundings := around } }
    let endpoint := Path.ofText "/w/sock"
    let moves : List Serving.Move :=
      [.proceeds, .proceeds, .proceeds, .windsDown, .proceeds, .proceeds]
    log.writer.file.Succeeds ∧
      (∃ stop, (client.callAll [.trigger]).teardown.surroundings.log.writer.file.content =
        ProtocolLog.linesOctets
          [("noon", .commandFailed .start "failed to send start command: Broken pipe (os error 32)"),
            ("noon", .ofWrite .stop stop), ("noon", .sessionEnded stop.isNone)]) ∧
      ∃ later, ((Serving.start around).run endpoint
          moves).client.desk.surroundings.log.writer.file.content =
        ProtocolLog.linesOctets (log.stamped (.connected endpoint.display :: later)) := by
  intro log around client endpoint moves
  have succeeds : log.writer.file.Succeeds := fun _ => ⟨2, rfl⟩
  have entry : (client.response .trigger).logged? =
      some (.commandFailed .start "failed to send start command: Broken pipe (os error 32)") := by
    rfl
  have left : ((Serving.start around).run endpoint moves).stage = .left := by
    rfl
  refine ⟨succeeds, ?_, ?_⟩
  · obtain ⟨stop, -, content, -⟩ := (log_fidelity (η := Line Obliging)).1 client [.trigger] succeeds
    have entries : (client.responses [.trigger]).filterMap Response.logged? =
        [.commandFailed .start "failed to send start command: Broken pipe (os error 32)"] :=
      List.filterMap_cons_some entry
    have lines := congrArg (fun entries => ProtocolLog.linesOctets (log.stamped (entries ++
      [.ofWrite .stop stop, .sessionEnded stop.isNone]))) entries
    exact ⟨stop, (content.trans (List.nil_append _)).trans lines⟩
  · obtain ⟨-, ⟨-, unended⟩ | ⟨later, content⟩⟩ :=
      (log_fidelity (η := Line Obliging)).2 around endpoint moves succeeds
    · exact absurd left unended
    · exact ⟨later, content.trans (List.nil_append _)⟩

end ReviewChannel
