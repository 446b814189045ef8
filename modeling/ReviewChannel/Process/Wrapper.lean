import ReviewChannel.Process.Given
import ReviewChannel.Process.Lookup
import ReviewChannel.Process.Simple

/-!
Programs that run other programs: with another environment, for some time at most, or once for every
few words of the input.

* `env` sets variables, `timeout` looks at the time, `xargs` reads words from its input.
* `nohup`, `nice`, `setsid` and `stdbuf` change what does not matter here.
-/

namespace ReviewChannel.Process

/-- A program that runs other ones: its words, and how it ends. -/
abbrev Wrapper := Launch → List String → World → ExitStatus × World

namespace Programs

/-- The status of a program that could not run another one. -/
def failureStatus (e : SystemError) : Nat :=
  if e = .noEntry then 127 else 126

/-- Becomes another program. -/
def become (program : String) (launch : Launch) (words : List String) (w : World) :
    ExitStatus × World :=
  match runNamed launch words w with
  | .ok ended => ended
  | .error e =>
      let name := words.headD ""
      (.exited (failureStatus e), w.blame program s!"'{name}': {e.bareMessage}")

/-- Ends a wrapper that was not used as it should be. -/
def misusedWrapper (program text : String) (status : Nat) (w : World) : ExitStatus × World :=
  let (status, w) := misused program text status w
  (.exited status, w)

/-- A wrapper with options before the command. -/
def withCommand (program : String) (s : Shape) (status : Nat)
    (run : Launch → Given → World → ExitStatus × World) : Wrapper := fun launch words w =>
  match Given.read { s with ordered := true } words with
  | .error text => misusedWrapper program text status w
  | .ok given => run launch given w

/-! ### Variables -/

def setVariable (name value : String) (environment : List (String × String)) :
    List (String × String) :=
  if (environment.lookup name).isSome then
    environment.map fun e => if e.1 = name then (name, value) else e
  else environment ++ [(name, value)]

/-- The assignments in front, and the words after them. -/
def assignmentsOf : List String → List (String × String) × List String
  | [] => ([], [])
  | word :: rest =>
      let name := word.toList.takeWhile (· != '=')
      match word.toList.drop name.length with
      | _ :: value =>
          let (more, words) := assignmentsOf rest
          ((String.ofList name, String.ofList value) :: more, words)
      | [] => ([], word :: rest)

/-- Runs a command with other variables, or writes the variables. -/
def env : Wrapper := fun launch words w =>
  let words := if words.head? = some "-" then "-i" :: words.drop 1 else words
  withCommand "env" { plain := "i0v", valued := "uCS",
                      long := [("ignore-environment", 'i'), ("null", '0'), ("unset", 'u'),
                        ("chdir", 'C'), ("split-string", 'S'), ("debug", 'v')] } 125
    (fun launch g w =>
      let start := if g.has 'i' then [] else w.environment
      let kept := start.filter fun e => !(g.values 'u').contains e.1
      let split := (g.values 'S').flatMap fun text =>
        (cutAtBlanks text.toList [] false).map String.ofList |>.filter (!·.isEmpty)
      let operands := split ++ g.operands
      let operands := if operands.head? = some "-" then operands.drop 1 else operands
      let (values, command) := assignmentsOf operands
      let environment := values.foldl (fun e (name, value) => setVariable name value e) kept
      let w := { w with environment }
      let ending := if g.has '0' then "\x00" else "\n"
      match command with
      | [] =>
          let lines := environment.map fun (name, value) => s!"{name}={value}{ending}"
          let (status, w) := w.emit "env" (String.join lines) 0
          (.exited status, w)
      | command =>
          match g.value? 'C' with
          | none => become "env" launch command w
          | some dir =>
              match w.tree.locate w.cwd true (World.pathOf dir) with
              | .ok loc =>
                  if w.isDir dir then become "env" launch command { w with cwd := loc.place }
                  else (.exited 125, w.blame "env" s!"cannot change directory to '{dir}'")
              | .error e =>
                  (.exited 125,
                    w.blame "env" s!"cannot change directory to '{dir}': {e.bareMessage}"))
    launch words w

/-! ### What does not matter here -/

/-- Runs a command that goes on after its terminal is closed. -/
def nohup : Wrapper := withCommand "nohup" {} 125 fun launch g w =>
  if g.operands.isEmpty then misusedWrapper "nohup" "missing operand" 125 w
  else become "nohup" launch g.operands w

/-- Runs a command that yields to others. -/
def nice : Wrapper :=
  withCommand "nice" { valued := "n", long := [("adjustment", 'n')] } 125 fun launch g w =>
    match (g.value? 'n').map Condition.number? with
    | some none =>
        let given := (g.value? 'n').getD ""
        (.exited 125, w.blame "nice" s!"invalid adjustment '{given}'")
    | _ =>
        if g.operands.isEmpty then
          if g.has 'n' then misusedWrapper "nice" "a command must be given with an adjustment" 125 w
          else
            let (status, w) := w.emit "nice" "0\n" 0
            (.exited status, w)
        else become "nice" launch g.operands w

/-- Runs a command in a session of its own. -/
def setsid : Wrapper := withCommand "setsid" { plain := "cfw" } 1 fun launch g w =>
  if g.operands.isEmpty then (.exited 1, w.blame "setsid" "no command specified")
  else become "setsid" launch g.operands w

/-- Runs a command that writes at once. -/
def stdbuf : Wrapper := withCommand "stdbuf" { valued := "ioe" } 125 fun launch g w =>
  if g.operands.isEmpty then misusedWrapper "stdbuf" "missing operand" 125 w
  else if g.options.isEmpty then
    misusedWrapper "stdbuf" "you must specify a buffering mode option" 125 w
  else become "stdbuf" launch g.operands w

/-! ### Time -/

/-- Runs a command that must end in time. -/
def timeout : Wrapper :=
  withCommand "timeout" { plain := "fpv", valued := "ks",
                          long := [("foreground", 'f'), ("preserve-status", 'p'), ("verbose", 'v'),
                            ("kill-after", 'k'), ("signal", 's')] } 125 fun launch g w =>
    match g.operands with
    | [] | [_] => misusedWrapper "timeout" "missing operand" 125 w
    | duration :: command =>
        match interval? duration with
        | none => misusedWrapper "timeout" s!"invalid time interval '{duration}'" 125 w
        | some limit =>
            match runNamed launch command w.child with
            | .error e =>
                let name := command.headD ""
                (.exited (failureStatus e),
                  w.blame "timeout" s!"failed to run command '{name}': {e.bareMessage}")
            | .ok (ended, after) =>
                let after := w.back after
                if 0 < limit && limit < after.slept - w.slept then
                  (.exited 124, { after with slept := w.slept + limit })
                else (ended, after)

/-! ### Words from the input -/

/-- The words of a text, with quotes and backslashes read. -/
def inputWords : Option (List Char) → List Char → List String
  | none, [] => []
  | some word, [] => [String.ofList word]
  | word?, '\\' :: c :: rest => inputWords (some (word?.getD [] ++ [c])) rest
  | word?, c :: rest =>
      if c = '\'' || c = '"' then
        let inner := rest.takeWhile (· != c)
        inputWords (some (word?.getD [] ++ inner)) (rest.drop (inner.length + 1))
      else if c = ' ' || c = '\t' || c = '\n' then
        (word?.map String.ofList).toList ++ inputWords none rest
      else inputWords (some (word?.getD [] ++ [c])) rest
termination_by _ cs => cs.length
decreasing_by all_goals (simp; try omega)

/-- Cuts a list into lists of `size` elements. -/
def chunks (size : Nat) : Nat → List String → List (List String)
  | 0, _ => []
  | _, [] => []
  | count + 1, words => words.take (max size 1) :: chunks size count (words.drop (max size 1))

/-- A word with another one in place of a mark. -/
def fillIn (mark item word : String) : String :=
  item.intercalate (word.splitOn mark)

/-- Runs commands one after the other up to one that cannot be run. -/
def runEach (launch : Launch) : List (List String) → Nat → World → Nat × World
  | [], status, w => (status, w)
  | words :: rest, status, w =>
      match runNamed launch words w.child with
      | .error e =>
          let name := words.headD ""
          (failureStatus e, w.blame "xargs" s!"{name}: {e.bareMessage}")
      | .ok (.exited 0, after) => runEach launch rest status (w.back after)
      | .ok (.exited 255, after) =>
          let name := words.headD ""
          (124, (w.back after).blame "xargs" s!"{name}: exited with status 255; aborting")
      | .ok (.exited _, after) => runEach launch rest 123 (w.back after)
      | .ok (.signalled n, after) =>
          let name := words.headD ""
          (125, (w.back after).blame "xargs" s!"{name}: terminated by signal {n}")

/-- Runs a command with words from the input. -/
def xargs : Wrapper :=
  withCommand "xargs" { plain := "0rtpx", valued := "nIdPLEas",
                        long := [("null", '0'), ("no-run-if-empty", 'r'), ("max-args", 'n'),
                          ("max-procs", 'P'), ("delimiter", 'd'), ("verbose", 't'),
                          ("max-lines", 'L')] } 1 fun launch g w =>
    match w.readAll 0 with
    | .error e => (.exited 1, w.blame "xargs" e.bareMessage)
    | .ok (octets, w) =>
        let cs := (Octets.toText octets).toList
        let cutAt (c : Char) : List String :=
          let parts := (String.ofList cs).splitToList (· == c)
          if parts.getLast? = some "" then parts.dropLast else parts
        let items := if g.has '0' then cutAt '\x00'
          else match g.value? 'd' with
            | some d => cutAt (match d.toList with
                | ['\\', 'n'] => '\n'
                | ['\\', 't'] => '\t'
                | ['\\', '0'] => '\x00'
                | c :: _ => c
                | [] => '\n')
            | none =>
                if g.has 'I' then (cutAt '\n').filter fun line => !line.isEmpty
                else inputWords none cs
        let command := if g.operands.isEmpty then ["echo"] else g.operands
        let (number, w) := w.addChannel .void
        let w := w.connect 0 number
        let commands : List (List String) := match g.value? 'I' with
          | some mark => items.map fun item => command.map (fillIn mark item)
          | none =>
              if items.isEmpty then (if g.has 'r' then [] else [command])
              else
                let size := match (g.value? 'n' <|> g.value? 'L').bind String.toNat? with
                  | some n => n
                  | none => items.length
                (chunks size items.length items).map (command ++ ·)
        let (status, w) := runEach launch commands 0 w
        (.exited status, w)

end Programs

end ReviewChannel.Process
