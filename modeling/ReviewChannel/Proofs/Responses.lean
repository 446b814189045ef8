import ReviewChannel.Proofs.Kept

/-!
What a client does, event by event.

* A `Response` is an event as a client handled it, with what that depends on: how the surroundings
  answered a trigger, and whether the host had been asked to end before. `Response.acts` is all that
  was done, and `Response.logged?` is what the log was offered.
* `Client.acts_handle`, `Client.surroundings_handle` — one event: nothing else goes on record, and
  nothing else is asked of the surroundings.
* `Client.acts_handleAll` — several events, in the order in which they were handled.
* `Client.run_eq` — a run handles the events up to the first one after which a client exits.
* `Client.callAll_eq` — calls of any kind, one after the other, handle their events.
-/

namespace ReviewChannel

/-! ### What the log is offered -/

/-- What the log is offered of a command that was handed to the connection. -/
def LogEvent.ofWrite (command : Command) : Option SystemError → LogEvent
  | none => .commandSent command
  | some cause => .commandFailed command (writeReason command cause)

/-- What the log is offered of a trigger. -/
def Reply.entry : Reply → LogEvent
  | atOnce command write | afterSave command write => .ofWrite command write
  | unsaved _ => .saveFailed

/-- What the log is offered of what the connection delivered. -/
def ConnectionEvent.entry : ConnectionEvent → LogEvent
  | connected endpoint => .connected endpoint.display
  | payload octets => .messageReceived (.classify octets)
  | disconnected => .disconnected
  | transportError detail => .transportError detail

/-! ### What is done about an event -/

/-- What a client does about a message. The host is asked to end once. -/
def Message.acts (terminated : Bool) : Message → List Act
  | identifier id => [.informed s!"Student id: {id}"]
  | malformed text => [.complained (Failure.malformedCommand text).message]
  | stopDirective => if terminated then [] else [.informed "Stop command received", .ended]

/-- What a client does about what the connection delivered. -/
def ConnectionEvent.acts (terminated : Bool) (event : ConnectionEvent) : List Act :=
  match event with
  | connected _ => [.recorded event.entry, .informed "Connected to grader"]
  | payload octets => .recorded event.entry :: (Message.classify octets).acts terminated
  | disconnected => [.recorded event.entry, .complained "Grader closed the connection"]
  | transportError detail =>
      [.complained (Failure.transport detail).message, .recorded event.entry]

/-- An event as a client handled it. -/
inductive Response where
  /-- A trigger, with how the surroundings answered it. -/
  | triggered (reply : Reply)
  | shutDown
  /-- What the connection delivered, and whether the host had been asked to end before. -/
  | delivered (terminated : Bool) (event : ConnectionEvent)
deriving DecidableEq, Repr

namespace Response

def event : Response → Event
  | triggered _ => .trigger
  | shutDown => .shutdown
  | delivered _ event => .connection event

def acts : Response → List Act
  | triggered reply => reply.acts ++ [.recorded reply.entry]
  | shutDown => []
  | delivered terminated event => event.acts terminated

def logged? : Response → Option LogEvent
  | triggered reply => some reply.entry
  | shutDown => none
  | delivered _ event => some event.entry

/-- Only a request to shut down leaves no entry. -/
theorem logged?_eq_none_iff (response : Response) :
    response.logged? = none ↔ response.event = .shutdown := by
  cases response with
  | triggered reply => simp [logged?, event]
  | shutDown => simp [logged?, event]
  | delivered terminated e => simp [logged?, event]

end Response

/-- The reply to a trigger is nothing that the log is offered. -/
theorem Reply.events_acts (reply : Reply) : reply.acts.filterMap Act.event? = [] := by
  cases reply with
  | atOnce command write => cases write <;> rfl
  | unsaved failure => rfl
  | afterSave command write => cases write <;> rfl

theorem Message.events_acts (terminated : Bool) (message : Message) :
    (message.acts terminated).filterMap Act.event? = [] := by
  cases message with
  | identifier id => rfl
  | malformed text => rfl
  | stopDirective => cases terminated <;> rfl

/-- What a response puts on record as offered to the log is its entry. -/
theorem Response.events_acts (response : Response) :
    response.acts.filterMap Act.event? = response.logged?.toList := by
  cases response with
  | triggered reply =>
      rw [acts, List.filterMap_append, reply.events_acts]
      rfl
  | shutDown => rfl
  | delivered terminated event =>
      cases event with
      | payload octets => exact congrArg _ ((Message.classify octets).events_acts terminated)
      | connected endpoint => rfl
      | disconnected => rfl
      | transportError detail => rfl

namespace Client

variable {σ : Type} [Surroundings σ]

/-! ### One event -/

def response (client : Client σ) : Event → Response
  | .trigger => .triggered (Reply.ask client.phase client.desk.surroundings).1
  | .shutdown => .shutDown
  | .connection event => .delivered client.terminated event

/-- The surroundings when they have answered all that an event makes a client ask, before the log is
offered anything. -/
def asked (client : Client σ) : Event → σ
  | .trigger => (Reply.ask client.phase client.desk.surroundings).2
  | .shutdown | .connection _ => client.desk.surroundings

@[simp] theorem event_response (client : Client σ) (event : Event) :
    (client.response event).event = event := by
  cases event <;> rfl

/-- A trigger asks the surroundings, and offers what came of it to the log. -/
theorem trigger_eq (client : Client σ) :
    client.trigger =
      match Reply.ask client.phase client.desk.surroundings with
      | (reply, s) => (reply.outcome, { client with
          phase := .started
          desk :=
            { surroundings := Surroundings.record reply.entry s
              acts := client.desk.acts ++ (reply.acts ++ [.recorded reply.entry]) } }) := by
  unfold trigger
  rw [Phase.trigger_eq, Phase.after_trigger]
  generalize Reply.ask client.phase client.desk.surroundings = answered
  obtain ⟨reply, s⟩ := answered
  simp only [Desk.record, Desk.note, List.append_assoc]
  cases reply with
  | atOnce command write => cases write <;> rfl
  | unsaved failure => rfl
  | afterSave command write => cases write <;> rfl

theorem handlePayload_eq (octets : List UInt8) (client : Client σ) :
    (client.handlePayload octets).2.desk =
      { surroundings :=
          Surroundings.record (.messageReceived (.classify octets)) client.desk.surroundings
        acts := client.desk.acts ++ (ConnectionEvent.payload octets).acts client.terminated } := by
  simp only [handlePayload, ConnectionEvent.acts, ConnectionEvent.entry]
  generalize Message.classify octets = message
  cases message with
  | identifier id => simp [Message.acts, Desk.record, Desk.inform, Desk.note]
  | malformed text => simp [Message.acts, Desk.record, Desk.complain, Desk.note]
  | stopDirective =>
      simp only [Message.acts]
      cases client.terminated <;> simp [Desk.record, Desk.inform, Desk.endHost, Desk.note]

/-- What the connection delivered is offered to the log, and nothing else is asked. -/
theorem handleConnection_eq (event : ConnectionEvent) (client : Client σ) :
    (client.handleConnection event).2.desk =
      { surroundings := Surroundings.record event.entry client.desk.surroundings
        acts := client.desk.acts ++ event.acts client.terminated } := by
  cases event with
  | payload octets => exact client.handlePayload_eq octets
  | connected endpoint =>
      simp [handleConnection, ConnectionEvent.acts, ConnectionEvent.entry, Desk.record,
        Desk.inform, Desk.note]
  | disconnected =>
      simp [handleConnection, ConnectionEvent.acts, ConnectionEvent.entry, Desk.record,
        Desk.complain, Desk.note]
  | transportError detail =>
      simp [handleConnection, ConnectionEvent.acts, ConnectionEvent.entry, Desk.record,
        Desk.complain, Desk.note]

/-- Nothing goes on record of an event but what its response says. -/
theorem acts_handle (client : Client σ) (event : Event) :
    (client.handle event).2.desk.acts = client.desk.acts ++ (client.response event).acts := by
  cases event with
  | trigger =>
      rw [handle, trigger_eq]
      rfl
  | shutdown => exact (List.append_nil _).symm
  | connection event => exact congrArg Desk.acts (client.handleConnection_eq event)

/-- The surroundings are asked, and then offered the entry of the response for the log. -/
theorem surroundings_handle (client : Client σ) (event : Event) :
    (client.handle event).2.desk.surroundings =
      match (client.response event).logged? with
      | none => client.asked event
      | some entry => Surroundings.record entry (client.asked event) := by
  cases event with
  | trigger =>
      rw [handle, trigger_eq]
      rfl
  | shutdown => rfl
  | connection event => exact congrArg Desk.surroundings (client.handleConnection_eq event)

/-- Teardown tries `stop`, and offers the log what came of it and the end of the session. -/
theorem teardown_eq (client : Client σ) :
    client.teardown =
      match Surroundings.transmit .stop client.desk.surroundings with
      | (answer, s) =>
          let write := failure? answer
          { surroundings := Surroundings.record (.sessionEnded write.isNone)
              (Surroundings.record (.ofWrite .stop write) s)
            acts := client.desk.acts ++ [.tried .stop write, .recorded (.ofWrite .stop write),
              .recorded (.sessionEnded write.isNone)] } := by
  unfold teardown
  rw [Phase.teardown_eq]
  generalize Surroundings.transmit .stop client.desk.surroundings = answered
  obtain ⟨answer, s⟩ := answered
  cases answer <;> simp [failure?, LogEvent.ofWrite, Desk.record, Desk.note, writeReason]

/-! ### Several events -/

/-- Lets a client handle events one after the other, whether or not it would exit. -/
def handleAll (events : List Event) (client : Client σ) : Client σ :=
  events.foldl (fun client event => (client.handle event).2) client

/-- The responses of a client to events, one after the other. -/
def responses : List Event → Client σ → List Response
  | [], _ => []
  | event :: rest, client => client.response event :: responses rest (client.handle event).2

theorem handleAll_append (before after : List Event) (client : Client σ) :
    client.handleAll (before ++ after) = (client.handleAll before).handleAll after :=
  List.foldl_append

theorem map_event_responses (events : List Event) (client : Client σ) :
    (client.responses events).map Response.event = events := by
  induction events generalizing client with
  | nil => rfl
  | cons event rest ih => rw [responses, List.map_cons, event_response, ih]

/-- What goes on record of several events is what their responses say, in order. -/
theorem acts_handleAll (events : List Event) (client : Client σ) :
    (client.handleAll events).desk.acts =
      client.desk.acts ++ (client.responses events).flatMap Response.acts := by
  induction events generalizing client with
  | nil => exact (List.append_nil _).symm
  | cons event rest ih =>
      have later := ih (client.handle event).2
      rw [acts_handle, List.append_assoc] at later
      exact later

end Client

/-! ### Runs -/

def Message.exits : Message → Bool
  | stopDirective => true
  | identifier _ | malformed _ => false

def Event.exits : Event → Bool
  | .shutdown => true
  | .connection (.payload octets) => (Message.classify octets).exits
  | .trigger | .connection _ => false

/-- The events of a queue that a run handles: those up to the first one after which it exits. -/
def handledOf : List Event → List Event
  | [] => []
  | event :: rest => if event.exits then [event] else event :: handledOf rest

theorem handledOf_append_of_not_exits {before : List Event}
    (goes : ∀ event ∈ before, event.exits = false) (after : List Event) :
    handledOf (before ++ after) = before ++ handledOf after := by
  induction before with
  | nil => rfl
  | cons event before ih =>
      have first := goes event (List.mem_cons_self ..)
      rw [List.cons_append, handledOf, first, if_neg Bool.false_ne_true, List.cons_append,
        ih fun e mem => goes e (List.mem_cons_of_mem _ mem)]

namespace Client

variable {σ : Type} [Surroundings σ]

theorem flow_handlePayload (client : Client σ) (octets : List UInt8) :
    (client.handlePayload octets).1 = if (Message.classify octets).exits then .exit else .goOn := by
  unfold handlePayload
  generalize Message.classify octets = message
  cases message with
  | identifier id => rfl
  | malformed text => rfl
  | stopDirective =>
      simp only
      split <;> rfl

theorem flow_handle (client : Client σ) (event : Event) :
    (client.handle event).1 = if event.exits then .exit else .goOn := by
  cases event with
  | trigger => rfl
  | shutdown => rfl
  | connection event =>
      cases event with
      | connected endpoint => rfl
      | disconnected => rfl
      | transportError detail => rfl
      | payload octets => exact client.flow_handlePayload octets

/-- A run handles the events up to the first one after which it exits, and leaves the rest. -/
theorem run_eq (queue : List Event) (client : Client σ) :
    client.run queue =
      (queue.drop (handledOf queue).length, client.handleAll (handledOf queue)) := by
  induction queue generalizing client with
  | nil => rfl
  | cons event rest ih =>
      have flow := client.flow_handle event
      unfold run
      rw [handledOf]
      cases exits : event.exits with
      | true =>
          rw [exits] at flow
          rw [show client.handle event = (.exit, (client.handle event).2) from Prod.ext flow rfl]
          rfl
      | false =>
          rw [exits] at flow
          rw [show client.handle event = (.goOn, (client.handle event).2) from Prod.ext flow rfl]
          exact ih _

end Client

/-! ### Calls -/

/-- A call of a client. -/
inductive Call where
  | handle (event : Event)
  | handlePayload (octets : List UInt8)
  | trigger
  | run (queue : List Event)
deriving DecidableEq, Repr

def Call.events : Call → List Event
  | handle event => [event]
  | handlePayload octets => [.connection (.payload octets)]
  | trigger => [.trigger]
  | run queue => handledOf queue

namespace Client

variable {σ : Type} [Surroundings σ]

def call (client : Client σ) : Call → Client σ
  | .handle event => (client.handle event).2
  | .handlePayload octets => (client.handlePayload octets).2
  | .trigger => client.trigger.2
  | .run queue => (client.run queue).2

def callAll (calls : List Call) (client : Client σ) : Client σ :=
  calls.foldl call client

theorem call_eq (client : Client σ) (c : Call) : client.call c = client.handleAll c.events := by
  cases c with
  | handle event => rfl
  | handlePayload octets => rfl
  | trigger => rfl
  | run queue => rw [call, run_eq]; rfl

/-- Calls handle their events, one after the other. -/
theorem callAll_eq (calls : List Call) (client : Client σ) :
    client.callAll calls = client.handleAll (calls.flatMap Call.events) := by
  induction calls generalizing client with
  | nil => rfl
  | cons c rest ih =>
      have later : client.callAll (c :: rest) = _ := ih (client.call c)
      rwa [call_eq, ← handleAll_append] at later

end Client

end ReviewChannel
