import ReviewChannel.Process.Shell.Builtin

/-!
How a shell carries out commands. A command is carried out by `evaluate`, which knows how deep
commands may be inside each other; what is said of one command is said for any way to carry out
those inside it.

* `evaluate` carries out a command.
* `runText` reads a text line by line and carries out what it reads.
* `finish` ends a shell.
-/

namespace ReviewChannel.Process.Shell

/-- A way to carry out commands. A command is watched if somebody looks at its failure, so that the
shell goes on after it in any case. -/
abbrev Evaluate := (watched : Bool) → Command → Work Unit

def conclude (status : Nat) : Work Unit :=
  modify fun s => { s with status }

/-- The status that a shell gives to a process that has ended. -/
def statusOf : ExitStatus → Nat
  | .exited code => code
  | .signalled n => 128 + n

/-- Tells of a process that a signal has ended, unless it is one that is sent all the time. -/
def tellOf (ended : ExitStatus) (w : World) : World :=
  match ended with
  | .exited _ => w
  | .signalled n =>
      if n = 2 || n = 13 then w else w.complain (ExitStatus.signalText n ++ "\n")

/-! ### Texts -/

/-- Carries out what tokens say, at most `count` lines of it. -/
def runTokens (evaluate : Evaluate) : Nat → List Token → Work Unit
  | 0, _ => return
  | _, [] => return
  | count + 1, ts => do
      match Command.line ts with
      | .error (line, text) => do
          let last := (ts.getLast?.map Token.line).getD 1
          modify fun s => { s with line := if line = 0 then last else line }
          abort s!"Syntax error: {text}"
      | .ok (none, rest) => runTokens evaluate count rest
      | .ok (some c, rest) => do
          if !(← get).has 'n' then evaluate false c
          runTokens evaluate count rest

def runText (evaluate : Evaluate) (text : String) : Work Unit := do
  let tokens := Token.ofText text
  runTokens evaluate (tokens.length + 1) tokens

/-- Carries out what a text says, of which nothing may be left: a text without commands succeeds. -/
def runWhole (evaluate : Evaluate) (text : String) : Work Unit := do
  let line := (← get).line
  conclude 0
  runText evaluate text
  modify fun s => { s with line }

/-! ### Signals and ends -/

/-- Lets at most `count` signals arrive: each is answered as a trap says, or ends the shell unless
it is harmless. -/
def arrive (evaluate : Evaluate) : Nat → Work Unit
  | 0 => return
  | count + 1 => do
      match (← get).world.arrival? with
      | none => return
      | some (number, w) => do
          onWorld fun _ => w
          let s ← get
          match (if number = 9 || number = 19 then none else s.traps.lookup number) with
          | some "" => pure ()
          | some text => do
              runText evaluate text
              conclude s.status
          | none =>
              if !ExitStatus.isHarmless number then throw (.exit (.signalled number))
          arrive evaluate count

/-- Lets the signals arrive that have been sent. -/
def arriveAll (evaluate : Evaluate) : Work Unit := do
  arrive evaluate (← get).world.signals.length

/-- Ends a shell after some work: its status. A trap for the end is carried out, unless a signal has
ended the shell. -/
def finish (evaluate : Evaluate) (work : Work Unit) (s : State) : ExitStatus × State :=
  let (r, s) := (do work; arriveAll evaluate : Work Unit) s
  let ending : ExitStatus := match r with
    | .error (.exit ended) => ended
    | _ => .exited (s.status % 256)
  match ending, s.traps.lookup 0 with
  | .exited code, some text =>
      let s := { s with traps := s.traps.filter (·.1 != 0), status := code }
      match runText evaluate text s with
      | (.error (.exit ended), s) => (ended, s)
      | (_, s) => (ending, s)
  | ending, _ => (ending, s)

/-- Does work in a shell of its own, which sees a world that is prepared for it. -/
def inChild (evaluate : Evaluate) (prepare : World → World) (work : Work Unit) : Work Unit :=
  fun s =>
    let child := { s with
      world := prepare s.world.child
      traps := s.traps.filter (·.2.isEmpty) }
    let (ended, after) := finish evaluate work child
    (.ok (), { s with
      world := tellOf ended (s.world.back after.world)
      status := statusOf ended })

/-- What a command writes, without the ends of lines at its end. -/
def capture (evaluate : Evaluate) : Capture := fun source => do
  let (number, w) := (← get).world.addChannel (.pipe [])
  onWorld fun _ => w
  inChild evaluate (·.connect 1 number) (do runWhole evaluate source)
  modify fun s => { s with substituted := some s.status }
  let octets := match (← get).world.channels[number]? with
    | some (.pipe octets) => octets
    | _ => []
  let cs := (octets.filter (· != 0)).map fun b => Char.ofNat b.toNat
  return String.ofList (cs.reverse.dropWhile (· == '\n')).reverse

/-! ### Redirections -/

def openMode : RedirectKind → World.OpenMode
  | .write | .overwrite => .truncate
  | .append => .append
  | .update => .update
  | _ => .read

/-- Leads a descriptor to a file; false if it cannot be opened. -/
def redirectToFile (descriptor : Nat) (kind : RedirectKind) (path : String) : Work Bool := do
  let s ← get
  let mode := openMode kind
  let isKept := kind = .write && s.has 'C' && match s.world.status path with
    | .ok (.file _) => true
    | _ => false
  let opened := if isKept then .error SystemError.occupied else s.world.openFile mode path
  match opened with
  | .ok (number, w) => do
      onWorld fun _ => w.connect descriptor number
      return true
  | .error e => do
      let verb := if mode = .read then "open" else "create"
      complain s!"cannot {verb} {path}: {openFault (mode != .read) e}"
      return false

/-- Carries out a redirection; false if it fails. -/
def redirect (cap : Capture) (r : Redirect) : Work Bool := do
  let target ← text cap r.target
  match r.kind with
  | .document => do
      let (number, w) := (← get).world.addChannel (.pipe (Octets.ofText target))
      onWorld fun _ => w.connect r.descriptor number
      return true
  | .duplicate =>
      if target = "-" then do
        onWorld (·.close r.descriptor)
        return true
      else match number? target with
        | none => abort "Syntax error: Bad fd number"
        | some n =>
            match (← get).world.descriptors.lookup n with
            | some channel => do
                onWorld (·.connect r.descriptor channel)
                return true
            | none => do
                complain s!"{n}: Bad file descriptor"
                return false
  | kind => redirectToFile r.descriptor kind target

/-- Carries out redirections up to one that fails. -/
def redirectAll (cap : Capture) : List Redirect → Work Bool
  | [] => return true
  | r :: rest => do
      if ← redirect cap r then redirectAll cap rest else return false

/-! ### Programs -/

/-- What is said if a program cannot be run. -/
def runFault (e : SystemError) : String :=
  if e = .noEntry then "not found" else e.bareMessage

/-- The status if a program cannot be run. -/
def runFaultStatus (e : SystemError) : Nat :=
  if [.noEntry, .notDirectory, .linkLoop, .nameTooLong].contains e then 127 else 126

def runProgram (launch : Launch) (words : List String) : Work (Option Nat) := do
  let s ← get
  let name := words.headD ""
  match s.pathOf name with
  | .error e => do
      complain s!"{name}: {runFault e}"
      return some 127
  | .ok path =>
      let w := { s.world.child with environment := s.environment }
      match runOrRead launch path words w with
      | .ok (ended, after) => do
          onWorld fun _ => tellOf ended (s.world.back after)
          return some (statusOf ended)
      | .error e => do
          complain s!"{name}: {runFault e}"
          return some (runFaultStatus e)

/-- Becomes the program that a word names, or ends. -/
def become (launch : Launch) (words : List String) : Work (Option Nat) := do
  let s ← get
  let name := words.headD ""
  let result := do
    let path ← s.pathOf name
    runOrRead launch path words { s.world with environment := s.environment }
  match result with
  | .ok (ended, after) => do
      set { s with world := s.world.back after, traps := [] }
      throw (.exit ended)
  | .error e => do
      complain s!"exec: {name}: {runFault e}"
      throw (.exit (.exited (runFaultStatus e)))

/-! ### Commands that run others -/

def call (evaluate : Evaluate) (watched : Bool) (body : Command) (arguments : List String) :
    Work Unit := fun s =>
  let (r, after) := evaluate watched body
    { s with arguments, hidden := [] :: s.hidden, loops := 0 }
  let after := { unhide after with arguments := s.arguments, loops := s.loops }
  match r with
  | .error .return => (.ok (), after)
  | r => (r, after)

/-- Reads a file and carries out what it says. -/
def source (evaluate : Evaluate) (word : String) : Work (Option Nat) := do
  let s ← get
  let candidates := if Lookup.isPath word then [word]
    else (Lookup.dirsOf ((s.valueOf? "PATH").getD "")).map fun dir => Lookup.within dir word
  let readable? := candidates.find? fun path => match s.world.status path with
    | .ok (.file _) | .ok (.device _) => true
    | _ => false
  match readable? with
  | none =>
      if Lookup.isPath word then refuse s!".: cannot open {word}: No such file"
      else refuse s!".: {word}: not found"
  | some path =>
      match s.world.readFile path with
      | .error e => refuse s!".: cannot open {word}: {openFault false e}"
      | .ok (octets, w) => do
          onWorld fun _ => w
          try runWhole evaluate (Octets.toText octets)
          catch
            | .return => pure ()
            | flow => throw flow
          return some (← get).status

/-- Leaves loops, or goes on with their next round. -/
def leave (name : String) (flow : Nat → Flow) : Builtin := fun words => do
  let s ← get
  match (words.head?.map number?).getD (some 1) with
  | none | some 0 =>
      let word := words.headD ""
      refuse s!"{name}: Illegal number: {word}"
  | some n =>
      if s.loops = 0 then return some 0
      else do
        conclude 0
        throw (flow (min n s.loops))

/-- Ends a function or the shell, with the status that a word spells if there is one. -/
def quit (name : String) (flow : Nat → Flow) : Builtin := fun words => do
  match words with
  | [] => do
      let s ← get
      throw (flow s.status)
  | word :: _ =>
      match number? word with
      | none => refuse s!"{name}: Illegal number: {word}"
      | some n => do
          conclude n
          throw (flow n)

/-- Carries out the command of a name with at most `count` others around it. -/
def invoke (launch : Launch) (evaluate : Evaluate) (watched : Bool) :
    Nat → (functions : Bool) → Builtin
  | 0, _, _ => return some 0
  | _, _, [] => return some 0
  | count + 1, functions, name :: words => do
      let s ← get
      match (if functions then s.functions.lookup name else none) with
      | some body => do
          call evaluate watched body words
          return some (← get).status
      | none =>
          match name with
          | "eval" => do
              runWhole evaluate (" ".intercalate words)
              return some (← get).status
          | "." =>
              match words with
              | [] => refuse ".: Usage: . filename"
              | word :: _ => source evaluate word
          | "exec" =>
              match (if words.head? = some "--" then words.drop 1 else words) with
              | [] => return some 0
              | words => become launch words
          | "break" => leave name .leaveLoops words
          | "continue" => leave name .nextRound words
          | "return" => quit name (fun _ => .return) words
          | "exit" => quit name (fun n => .exit (.exited (n % 256))) words
          | "command" =>
              match letters "pvV" words with
              | .error bad => refuse s!"command: Illegal option -{bad}"
              | .ok (options, words) =>
                  match options.find? (· != 'p'), words with
                  | some letter, word :: _ => describe (letter = 'v') word
                  | _, words => invoke launch evaluate watched count false words
          | name =>
              match builtin? name with
              | some builtin => builtin words
              | none => runProgram launch (name :: words)

/-! ### Simple commands -/

/-- Does work for which variables have values that they lose afterwards. -/
def assigning (values : List (String × String)) (work : Work Unit) : Work Unit := fun s =>
  let saved := values.map fun (name, _) => (name, s.bindings.lookup name)
  let (r, after) := (do
    for (name, value) in values do
      assign name value
      modify (·.update name fun v => { v with exported := true })
    work : Work Unit) s
  (r, restore saved after)

/-- Writes a command before it is carried out. -/
def trace (words : List String) : Work Unit := do
  let s ← get
  if s.has 'x' then
    onWorld (·.complain ((s.valueOf? "PS4").getD "+ " ++ " ".intercalate words ++ "\n"))

def valuesOf (cap : Capture) (assignments : List (String × Word)) :
    Work (List (String × String)) :=
  assignments.mapM fun (name, w) => do return (name, ← assigned cap w)

/-- Carries out a simple command of no words: its assignments stay. -/
def assignOnly (cap : Capture) (assignments : List (String × Word)) (redirects : List Redirect) :
    Work Unit :=
  keepingDescriptors redirects do
    if ← redirectAll cap redirects then
      for (name, w) in assignments do
        assign name (← assigned cap w)
      trace (assignments.map fun a => a.1 ++ "=")
      conclude ((← get).substituted.getD 0)
    else conclude 2

/-- Carries out a command that belongs to the shell itself: its assignments stay, and if it is
misused the shell ends. -/
def runSpecial (launch : Launch) (evaluate : Evaluate) (watched : Bool) (cap : Capture)
    (assignments : List (String × Word)) (redirects : List Redirect) (words : List String) :
    Work Unit := do
  let run : Work Unit := do
    if !(← redirectAll cap redirects) then throw (.exit (.exited 2))
    for (name, w) in assignments do
      assign name (← assigned cap w)
    match ← invoke launch evaluate watched (words.length + 1) false words with
    | some status => conclude status
    | none => do
        conclude 2
        throw (.exit (.exited 2))
  if words.head? = some "exec" && words.length = 1 then run
  else keepingDescriptors redirects run

def simple (launch : Launch) (evaluate : Evaluate) (watched : Bool)
    (assignments : List (String × Word)) (words : List Word) (redirects : List Redirect) :
    Work Unit := do
  let cap := capture evaluate
  modify fun s => { s with substituted := none }
  match ← commandWords cap [] words with
  | [] => assignOnly cap assignments redirects
  | name :: words =>
      trace (name :: words)
      if Command.reserved.contains name then
        runSpecial launch evaluate watched cap assignments redirects (name :: words)
      else keepingDescriptors redirects do
        if ← redirectAll cap redirects then
          assigning (← valuesOf cap assignments) do
            let status ← invoke launch evaluate watched (words.length + 2) true (name :: words)
            conclude (status.getD 2)
        else conclude 2

/-! ### Compound commands -/

/-- Does the work of a round of a loop; says whether the loop goes on. -/
def inRound (work : Work Unit) : Work Bool := do
  try
    work
    return true
  catch
    | .leaveLoops n => if n ≤ 1 then return false else throw (.leaveLoops (n - 1))
    | .nextRound n => if n ≤ 1 then return true else throw (.nextRound (n - 1))
    | flow => throw flow

/-- Does work with one loop more around it. -/
def inLoop (work : Work Unit) : Work Unit := fun s =>
  let (r, after) := work { s with loops := s.loops + 1 }
  (r, { after with loops := s.loops })

/-- Carries out the body of a loop as long as the condition says so, at most `count` times. -/
def whileLoop (evaluate : Evaluate) (watched untilDone : Bool) (condition body : Command) :
    Nat → Nat → Work Unit
  | 0, status => conclude status
  | count + 1, status => do
      let goesOn ← inRound (evaluate true condition)
      let succeeded := (← get).status = 0
      if goesOn && succeeded != untilDone then
        if ← inRound (evaluate watched body) then
          whileLoop evaluate watched untilDone condition body count (← get).status
        else return
      else conclude status

/-- Carries out the body of a loop for each value. -/
def forLoop (evaluate : Evaluate) (watched : Bool) (name : String) (body : Command) :
    List String → Work Unit
  | [] => return
  | value :: rest => do
      assign name value
      if ← inRound (evaluate watched body) then forLoop evaluate watched name body rest

/-- Carries out the first arm that has a matching pattern. -/
def chooseArm (evaluate : Evaluate) (watched : Bool) (cap : Capture) (subject : String) :
    List (List Word × Option Command) → Work Unit
  | [] => conclude 0
  | (words, body?) :: rest => do
      let fits ← words.anyM fun w => do
        return Pattern.fits (← pattern cap w) subject.toList
      if fits then
        match body? with
        | some body => evaluate watched body
        | none => conclude 0
      else chooseArm evaluate watched cap subject rest

/-- Carries out commands each of which reads what the one before has written. -/
def pipe (evaluate : Evaluate) (watched : Bool) : List Command → Option Nat → Work Unit
  | [], _ => return
  | c :: rest, input => do
      let (number, w) := (← get).world.addChannel (.pipe [])
      onWorld fun _ => w
      let prepare (w : World) : World :=
        let w := match input with
          | some channel => w.connect 0 channel
          | none => w
        if rest.isEmpty then w else w.connect 1 number
      inChild evaluate prepare (evaluate watched c)
      pipe evaluate watched rest (some number)

/-- Carries out a command in the background. It is over before the next one begins. -/
def detach (evaluate : Evaluate) (watched : Bool) (c : Command) : Work Unit := do
  let (number, w) := (← get).world.addChannel .void
  let process := w.nextProcess
  onWorld fun _ => w
  inChild evaluate (·.connect 0 number) (evaluate watched c)
  modify fun s => { s with
    background := some process
    ended := (process, s.status) :: s.ended
    status := 0 }

/-- How often a loop goes round at most. -/
def roundLimit : Nat := 100000

/-- Ends the shell after a failure that nobody looks at, if it is set to do so. -/
def checkFailure (watched : Bool) : Work Unit := do
  let s ← get
  if !watched && s.status != 0 && s.has 'e' then throw (.exit (.exited (s.status % 256)))

/-- Carries out a command, given a way to carry out those inside it. -/
def step (launch : Launch) (evaluate : Evaluate) (watched : Bool) (c : Command) : Work Unit := do
  match c with
  | .simple line assignments words redirects => do
      modify fun s => { s with line }
      simple launch evaluate watched assignments words redirects
      checkFailure watched
  | .pipeline cs => do
      pipe evaluate watched cs none
      checkFailure watched
  | .negation c => do
      evaluate true c
      conclude (if (← get).status = 0 then 1 else 0)
  | .both a b => do
      evaluate true a
      if (← get).status = 0 then evaluate watched b
  | .either a b => do
      evaluate true a
      if (← get).status != 0 then evaluate watched b
  | .sequence a b => do
      evaluate watched a
      evaluate watched b
  | .background c => detach evaluate watched c
  | .subshell c => do
      inChild evaluate id (evaluate watched c)
      checkFailure watched
  | .redirected c redirects =>
      keepingDescriptors redirects do
        if ← redirectAll (capture evaluate) redirects then evaluate watched c else conclude 2
  | .branch condition yes no => do
      evaluate true condition
      if (← get).status = 0 then evaluate watched yes
      else match no with
        | some c => evaluate watched c
        | none => conclude 0
  | .loop untilDone condition body =>
      inLoop (whileLoop evaluate watched untilDone condition body roundLimit 0)
  | .forEach name words body => do
      let values ← match words with
        | some words => fields (capture evaluate) words
        | none => pure (← get).arguments
      conclude 0
      inLoop (forLoop evaluate watched name body values)
  | .choice subject arms => do
      let cap := capture evaluate
      let subject ← text cap subject
      chooseArm evaluate watched cap subject arms
  | .define name body => do
      modify fun s => { s with functions := (name, body) :: s.functions.filter (·.1 != name) }
      conclude 0
  arriveAll evaluate

/-- Carries out a command with at most `depth` others around each other. -/
def evaluate (launch : Launch) : Nat → Evaluate
  | 0, _, _ => throw (.exit (.exited 2))
  | depth + 1, watched, c => step launch (evaluate launch depth) watched c

/-- How many commands may be around each other. -/
def depthLimit : Nat := 1500

end ReviewChannel.Process.Shell
