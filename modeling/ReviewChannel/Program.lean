import ReviewChannel.Arguments.Help
import ReviewChannel.Config.Render
import ReviewChannel.Config.Search
import ReviewChannel.Diagnostic
import ReviewChannel.GraderSocket
import ReviewChannel.ReviewLoop
import ReviewChannel.TriggerSource
import ReviewChannel.Workplace

/-!
The whole program as a machine with moves. It starts with its arguments at a workplace and either
ends at once, or is a client that handles one event after the other, or is a grader that waits for a
client and for its commands.

* `Program.start` reads the arguments and the configuration and starts the command.
* `Program.handle` lets a client handle an event, `Program.readStream` and `Program.readLine` what
  has come in on its stream and a line of its input.
* `Program.advance` lets a grader go on as far as it can.
* `stdout` and `stderr` are what has been written so far.
-/

namespace ReviewChannel

/-- What the program has written to standard output and to standard error. -/
structure Output where
  stdout : String := ""
  stderr : String := ""
deriving DecidableEq, Repr

namespace Output

def say (text : String) (o : Output) : Output :=
  { o with stdout := o.stdout ++ text }

def complain (text : String) (o : Output) : Output :=
  { o with stderr := o.stderr ++ text }

end Output

/-- The program in one of its states, with what it has written; what a client has written since it
is connected follows from its acts. -/
inductive Program where
  | ended (exit : Nat) (written : Output) (place : Workplace)
  /-- A client that is connected to its grader. -/
  | connected (written : Output) (client : Client Workplace)
  /-- A grader that waits for a client. -/
  | listening (socket : GraderSocket) (ids : List String) (written : Output) (place : Workplace)
  /-- A grader that waits for commands of its client. -/
  | reviewing (socket : GraderSocket) (stream : Nat) (loop : ReviewLoop) (written : Output)
      (place : Workplace)

namespace Program

/-! ### What is written -/

def infoLine (text : String) : String :=
  s!"[grader] {text}\n"

def errorLine (text : String) : String :=
  s!"[grader] error: {text}\n"

def greeting : String :=
  infoLine "press Enter to start grading / post a review, 'q' to quit"

def remark (place : Workplace) (level : Level) (text : String)
    (fields : List (String × String) := []) : String :=
  Diagnostic.line place.stamp place.verbosity ⟨level, text, fields⟩

/-- What a client has written to standard output: what it told, and in between what its saves have
written. -/
def told : List Act → List Writings → String
  | [], _ => ""
  | .informed text :: rest, writings => infoLine text ++ told rest writings
  | .saved _ :: rest, w :: writings => Utf8.decodeLossy w.output ++ told rest writings
  | _ :: rest, writings => told rest writings

/-- What a client has written to standard error for one act: its failures, and diagnostics. -/
def complaint (place : Workplace) (act : Act) : String :=
  match act with
  | .informed text => remark place .notice text
  | .complained text => remark place .warning text ++ errorLine text
  | .saved (some failure) => remark place .warning s!"save-all failed: {failure.message}"
  | .tried .stop none => remark place .notice "stop command sent"
  | .tried .stop (some cause) =>
      remark place .warning s!"failed to send stop command: {writeReason .stop cause}"
  | .wired | .ended | .saved none | .tried .. | .recorded _ => ""

/-- What is told of an event that is not in the log. -/
def unloggedRemark (place : Workplace) (failure : LogFailure) : String :=
  let chain := ": ".intercalate failure.chain
  remark place .warning s!"protocol log write failed: {chain}"
    [("path", (place.host.config.logPath.map Path.display).getD "")]

/-- What a client has written to standard error, with what its saves have written there. -/
def complaints (place : Workplace) : List Act → List Writings → List (Option LogFailure) → String
  | [], _, _ => ""
  | .saved failure :: rest, w :: writings, unlogged =>
      Utf8.decodeLossy w.complaints ++ complaint place (.saved failure) ++
        complaints place rest writings unlogged
  | .recorded _ :: rest, writings, failure? :: unlogged =>
      (failure?.map (unloggedRemark place)).getD "" ++ complaints place rest writings unlogged
  | act :: rest, writings, unlogged =>
      complaint place act ++ complaints place rest writings unlogged

/-- What a client has written, after what was written before its acts. -/
def clientOutput (before : Output) (desk : Desk Workplace) : Output :=
  let place := desk.surroundings
  (before.say (told desk.acts place.writings)).complain
    (complaints place desk.acts place.writings place.unlogged)

/-- A cause of a failure, with its number if it is not the only one. Each of its lines is indented,
the first one up to the number. -/
def causeLines (number? : Option Nat) (cause : String) : String :=
  let padded (n : Nat) : String :=
    let digits := toString n
    String.ofList (List.replicate (5 - digits.length) ' ') ++ digits ++ ": "
  let (first, others) : String × String := match number? with
    | none => ("    ", "    ")
    | some n => (padded n, "       ")
  match cause.splitToList (· == '\n') with
  | [] => "\n"
  | line :: lines => first ++ line ++ "\n" ++ String.join (lines.map fun l => others ++ l ++ "\n")

/-- The last words of a program that failed: what went wrong, and what is behind it. -/
def lastWords (chain : List String) : String :=
  let first := chain.headD ""
  s!"Error: {first}\n" ++ match chain.drop 1 with
    | [] => ""
    | [cause] => "\nCaused by:\n" ++ causeLines none cause
    | causes => "\nCaused by:\n" ++
        String.join (causes.zipIdx.map fun (cause, i) => causeLines (some i) cause)

def reviewLines (loop : ReviewLoop) : String :=
  String.join (loop.reviewed.map fun id => infoLine s!"review received for {id}")

/-- What is told of the progress of a review session. -/
def reviewRemarks (place : Workplace) (loop : ReviewLoop) : String :=
  let isStarted := match loop.stage with
    | .awaitStart _ => false
    | _ => true
  (if isStarted then remark place .notice "client started grading" else "") ++
    String.join (loop.reviewed.map fun id => remark place .detail "review received" [("id", id)])

def output : Program → Output
  | ended _ written _ => written
  | connected written client => clientOutput written client.desk
  | listening _ _ written _ => written
  | reviewing _ _ loop written place =>
      (written.say (reviewLines loop)).complain (reviewRemarks place loop)

def stdout (p : Program) : String :=
  p.output.stdout

def stderr (p : Program) : String :=
  p.output.stderr

def place : Program → Workplace
  | ended _ _ place => place
  | connected _ client => client.desk.surroundings
  | listening _ _ _ place => place
  | reviewing _ _ _ _ place => place

/-- The exit status, once the program has ended. -/
def exit? : Program → Option Nat
  | ended exit .. => some exit
  | _ => none

/-- The program with the machine changed by others. -/
def onMachine (f : Machine → Machine) : Program → Program
  | ended exit written place =>
      ended exit written { place with machine := f place.machine }
  | connected written client =>
      let place := client.desk.surroundings
      connected written { client with
        desk := { client.desk with
          surroundings := { place with machine := f place.machine } } }
  | listening socket ids written place =>
      listening socket ids written { place with machine := f place.machine }
  | reviewing socket stream loop written place =>
      reviewing socket stream loop written { place with machine := f place.machine }

def fail (chain : List String) (written : Output) (place : Workplace) : Program :=
  ended 1 (written.complain (lastWords chain)) place

/-! ### The client -/

/-- Tears a client down, hangs up and ends. -/
def leave (written : Output) (client : Client Workplace) : Program :=
  let desk := client.teardown
  let ending :=
    if client.terminated then remark desk.surroundings .notice "grader ended the session" else ""
  ended 0 ((clientOutput written desk).complain ending) desk.surroundings.hangUp

/-- Lets a client handle an event. -/
def handle (event : Event) : Program → Program
  | connected written client =>
      match client.handle event with
      | (.goOn, client) => connected written client
      | (.exit, client) => leave written client
  | p => p

/-- Lets a client handle what has come in on its stream. -/
def readStream : Program → Program
  | connected written client =>
      let (events, place) := client.desk.surroundings.arrivals
      let client := { client with desk := { client.desk with surroundings := place } }
      events.foldl (fun p event => handle (.connection event) p) (connected written client)
  | p => p

/-- Lets a client handle a line of its input. -/
def readLine (line : List UInt8) (p : Program) : Program :=
  handle (TriggerSource.eventOf line) p

/-- Lets a client handle all of its input and its end. -/
def readInput (octets : List UInt8) (p : Program) : Program :=
  (TriggerSource.pump octets {}).events.foldl (fun p event => handle event p) p

/-- Starts a client. Nothing can fail any more once it is connected, so its log is opened first. -/
def startClient (host : TerminalHost) (written : Output) (place : Workplace) : Program :=
  let place := { place with host }
  let opened := match host.config.logPath with
    | none => (Except.ok (), place)
    | some path => place.openLog path
  match opened with
  | (.error failure, place) => fail failure.chain written place
  | (.ok (), place) =>
      let endpoint := host.endpoint place.environment
      let field (path : Path) : List (String × String) := [("endpoint", path.display)]
      let found := match endpoint with
        | .ok path => remark place .detail "resolved grader endpoint" (field path)
        | .error _ => ""
      let written := (written.say greeting).complain found
      match Client.activate endpoint Workplace.connect { surroundings := place }, endpoint with
      | .error (failure, desk), _ =>
          fail ("grader client not started" :: failure.chain) (clientOutput written desk)
            desk.surroundings
      | .ok client, .ok path =>
          let reached := remark place .notice "connected to grader" (field path)
          handle (.connection (.connected path)) (connected (written.complain reached) client.wire)
      | .ok client, .error _ => connected written client.wire

/-! ### The grader -/

/-- Gives the socket of a grader up, and tells if its file is not there to be removed. -/
def dropSocket (socket : GraderSocket) (place : Workplace) : String × Workplace :=
  let told := match place.machine.unlink place.cwd socket.path with
    | (.ok (), _) => ""
    | (.error e, _) =>
        remark place .warning s!"failed to remove socket file {socket.path.display}: {e.message}"
  (told, { place with machine := socket.drop place.cwd place.machine })

/-- Lets the grader's side of a program go on as far as it can: take the first client that waits,
and then take all its commands. The socket is given up at the end. -/
def review (socket : GraderSocket) (stream : Nat) (loop : ReviewLoop) (written : Output)
    (place : Workplace) : Program :=
  let (loop, s) := loop.run (place.machine.streamAt stream)
  let machine := place.machine.setStream stream s
  match loop.result? with
  | none => reviewing socket stream loop written { place with machine }
  | some result =>
      let machine := machine.closeEnd .grader stream
      let written := (written.say (reviewLines loop)).complain (reviewRemarks place loop)
      let (told, place) := dropSocket socket { place with machine }
      match result with
      | .ok n => ended 0 ((written.say (infoLine s!"{n} review(s) collected")).complain told) place
      | .error failure => fail failure.chain (written.complain told) place

/-- Lets a grader go on as far as it can. -/
def advance : Program → Program
  | listening socket ids written place =>
      match place.machine.accept socket.listener with
      | (none, _) => listening socket ids written place
      | (some stream, machine) => review socket stream (.new ids) written { place with machine }
  | reviewing socket stream loop written place => review socket stream loop written place
  | p => p

/-- What is told while a socket is bound: whether a file that nobody listened at was removed. -/
def bindRemark (path : Path) (place : Workplace) : String :=
  match (Binding.steps place.cwd path 2 .look place.machine).1 with
  | .remove => remark place .detail "removing stale socket" [("path", path.display)]
  | _ => ""

/-- Starts a grader: makes its work directory and binds the socket there. -/
def startGrader (workdir : Path) (ids : List String) (written : Output) (place : Workplace) :
    Program :=
  match place.machine.tree.makeDirs place.cwd workdir with
  | (.error e, tree) =>
      fail [s!"failed to create {workdir.display}", e.message] written
        { place with machine := { place.machine with tree } }
  | (.ok (), tree) =>
      let place := { place with machine := { place.machine with tree } }
      let found := bindRemark (workdir.socketIn Path.defaultSocketName) place
      match GraderSocket.bindIn place.cwd workdir place.machine with
      | (.error failure, machine) =>
          fail failure.chain (written.complain found) { place with machine }
      | (.ok socket, machine) =>
          let bound :=
            remark place .notice "grader socket listening" [("path", socket.path.display)]
          listening socket ids
            ((written.complain (found ++ bound)).say
              (infoLine s!"listening on {socket.path.display}" ++
                infoLine s!"connect with: {programName} connect --workdir {workdir.display}"))
            { place with machine }

/-! ### The start -/

def sourceRemark (place : Workplace) (source : Option Path) : String :=
  match source with
  | some path => remark place .notice s!"loaded config from {path.display}"
  | none => remark place .notice "no .grader/config.toml found, using defaults"

def start (words : List String) (place : Workplace) : Program :=
  match Arguments.read words with
  | .error refusal =>
      if refusal.isAnswer then ended 0 { stdout := refusal.message } place
      else ended 2 { stderr := refusal.message } place
  | .ok arguments =>
      let isQuiet := match arguments.request with
        | .config _ => true
        | _ => false
      let place := { place with verbosity := .ofCount isQuiet arguments.verbose }
      match Config.load place.machine.tree place.cwd (FileTree.pathOf place.cwd) with
      | .error failure => fail [failure.message] {} place
      | .ok (config, source) =>
          let written : Output := { stderr := sourceRemark place source }
          match arguments.request with
          | .config json =>
              let text := if json then (config.json source).pretty ++ "\n" else config.human source
              ended 0 (written.say text) place
          | .connect workdir => startClient { config, workdir } written place
          | .listen workdir ids => startGrader workdir ids written place

end Program

end ReviewChannel
