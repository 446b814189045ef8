import ReviewChannel.Session

/-!
The client at the reviewer's desk. Triggers, shutdown requests and what the connection delivers are
events; the client handles them one at a time, in the order in which they arrive.

* `Client.activate` finds the endpoint and connects; both failures are told to the reviewer.
* `Client.handle` handles one event and says whether to go on.
* `Client.run` handles events until a shutdown request, a stop directive, or the end of the queue.
* `Client.teardown` sends the last `stop`, as far as the connection allows.
* `Client.serve` is a whole sitting, from activation until the connection is hung up.
-/

namespace ReviewChannel

/-- What the connection to the grader delivers. -/
inductive ConnectionEvent where
  | connected (endpoint : Path)
  /-- The octets of one read. -/
  | payload (octets : List UInt8)
  /-- The grader closed its end. -/
  | disconnected
  | transportError (detail : String)
deriving DecidableEq, Repr

/-- What a client handles. -/
inductive Event where
  /-- The reviewer asked to start, or to post a review. -/
  | trigger
  /-- The host wants the client to wind down. -/
  | shutdown
  | connection (event : ConnectionEvent)
deriving DecidableEq, Repr

/-- Whether a client handles further events. -/
inductive Flow where
  | goOn
  | exit
deriving DecidableEq, Repr

/-- A client that is connected to its grader. -/
structure Client (σ : Type) where
  desk : Desk σ
  phase : Phase := .notStarted
  /-- Whether the host has been asked to end. -/
  terminated : Bool := false
deriving Repr

namespace Client

variable {σ : Type} [Surroundings σ]

/-- Connects to the endpoint, if there is one. Without an endpoint nothing is connected to. Either
failure is told to the reviewer and comes back with the desk as it is then. -/
def activate (endpoint : Except Failure Path)
    (connect : Path → σ → Except Failure Unit × σ) (desk : Desk σ) :
    Except (Failure × Desk σ) (Client σ) :=
  match endpoint with
  | .error failure => .error (failure, desk.complain failure.message)
  | .ok path =>
      match connect path desk.surroundings with
      | (.ok (), surroundings) => .ok { desk := { desk with surroundings } }
      | (.error failure, surroundings) =>
          .error (failure, { desk with surroundings }.complain failure.message)

/-- Gives the host the trigger of the client. -/
def wire (client : Client σ) : Client σ :=
  { client with desk := client.desk.wireHost }

/-- Carries out one trigger and records what it came to. -/
def trigger (client : Client σ) : TriggerOutcome × Client σ :=
  let (outcome, phase, desk) := client.phase.trigger client.desk
  let event : LogEvent := match outcome with
    | .sent command => .commandSent command
    | .sendFailed command cause => .commandFailed command (writeReason command cause)
    | .saveFailed => .saveFailed
  (outcome, { client with phase, desk := desk.record event })

/-- Acts on the octets of one read. The host is asked to end on the first stop directive only. -/
def handlePayload (octets : List UInt8) (client : Client σ) : Flow × Client σ :=
  let message := Message.classify octets
  let desk := client.desk.record (.messageReceived message)
  match message with
  | .identifier id => (.goOn, { client with desk := desk.inform s!"Student id: {id}" })
  | .malformed text =>
      (.goOn, { client with desk := desk.complain (Failure.malformedCommand text).message })
  | .stopDirective =>
      if client.terminated then (.exit, { client with desk })
      else
        (.exit, { client with
          terminated := true
          desk := (desk.inform "Stop command received").endHost })

/-- Handles what the connection delivered. A lost connection is told and does not end the client. -/
def handleConnection (event : ConnectionEvent) (client : Client σ) : Flow × Client σ :=
  match event with
  | .connected endpoint =>
      (.goOn, { client with
        desk := (client.desk.record (.connected endpoint.display)).inform "Connected to grader" })
  | .payload octets => client.handlePayload octets
  | .disconnected =>
      (.goOn, { client with
        desk := (client.desk.record .disconnected).complain "Grader closed the connection" })
  | .transportError detail =>
      (.goOn, { client with
        desk := (client.desk.complain (Failure.transport detail).message).record
          (.transportError detail) })

def handle (event : Event) (client : Client σ) : Flow × Client σ :=
  match event with
  | .trigger => (.goOn, client.trigger.2)
  | .shutdown => (.exit, client)
  | .connection event => client.handleConnection event

/-- Handles events until one asks to exit. The events that were not handled come back. -/
def run : List Event → Client σ → List Event × Client σ
  | [], client => ([], client)
  | event :: rest, client =>
      match client.handle event with
      | (.goOn, client) => run rest client
      | (.exit, client) => (rest, client)

/-- Sends the last `stop` and records how that went. The desk is what is left of the client. -/
def teardown (client : Client σ) : Desk σ :=
  match client.phase.teardown client.desk with
  | (.ok (), desk) => (desk.record (.commandSent .stop)).record (.sessionEnded true)
  | (.error failure, desk) =>
      (desk.record (.commandFailed .stop failure.message)).record (.sessionEnded false)

/-! ### A whole sitting -/

/-- What is left of a sitting: the events that were not handled, and the desk. -/
abbrev Sitting (σ : Type) := List Event × Desk σ

/-- Activates a client, gives the host its trigger, lets it handle the events of a queue, tears it
down and hangs up. Without a connection the host gets no trigger and no event is handled. -/
def serve (endpoint : Except Failure Path) (connect : Path → σ → Except Failure Unit × σ)
    (hangUp : σ → σ) (queue : List Event) (desk : Desk σ) :
    Except (Failure × Desk σ) (Sitting σ) :=
  match activate endpoint connect desk with
  | .error refused => .error refused
  | .ok client =>
      let (left, client) := client.wire.run queue
      let desk := client.teardown
      .ok (left, { desk with surroundings := hangUp desk.surroundings })

end Client

end ReviewChannel
