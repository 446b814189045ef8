import ReviewChannel.Process.Given
import ReviewChannel.Process.Lookup
import ReviewChannel.Process.Output
import ReviewChannel.Process.Shell.Condition
import ReviewChannel.Process.Shell.Expansion

/-!
Commands that a shell carries out itself, as far as they do not run other commands: those that
change its variables, its options and its directory, and those that write, read and test.

* `builtin?` gives the command of a name.
-/

namespace ReviewChannel.Process.Shell

/-- A command that the shell carries out itself: its status, or none if it was misused. -/
abbrev Builtin := List String → Work (Option Nat)

def refuse (text : String) : Work (Option Nat) := do
  complain text
  return none

/-- Does something with each word, up to one that is refused. -/
def each (f : String → Work (Option Nat)) : Builtin
  | [] => return some 0
  | word :: rest => do
      match ← f word with
      | none => return none
      | some _ => each f rest

/-- Ends a command with a text that it writes. -/
def say (name written : String) (status : Nat) : Work (Option Nat) := do
  if written.isEmpty then return some status
  else match (← get).world.write 1 (Octets.ofText written) with
    | .ok w => do
        onWorld fun _ => w
        return some status
    | .error _ => do
        complain s!"{name}: {name}: I/O error"
        return some 1

/-- A value as a word that reads back as it. -/
def quoteValue (value : String) : String :=
  let cs := value.toList.flatMap fun c => if c = '\'' then "'\"'\"'".toList else [c]
  "'" ++ String.ofList cs ++ "'"

/-! ### Options -/

/-- The letters of the options in front, and the other words; or a letter that is none. -/
def letters (allowed : String) : List String → Except Char (List Char × List String)
  | [] => .ok ([], [])
  | "--" :: rest => .ok ([], rest)
  | word :: rest =>
      match word.toList with
      | '-' :: c :: cs =>
          match (c :: cs).find? (!allowed.toList.contains ·) with
          | some bad => .error bad
          | none => do
              let (more, rest) ← letters allowed rest
              return (c :: cs ++ more, rest)
      | _ => .ok ([], word :: rest)

def withLetters (name allowed : String) (run : List Char → Builtin) : Builtin := fun words =>
  match letters allowed words with
  | .error bad => refuse s!"{name}: Illegal option -{bad}"
  | .ok (options, words) => run options words

def number? (word : String) : Option Nat :=
  if word.isEmpty || !word.toList.all Char.isDigit then none
  else word.toNat?.filter (· < Nat.pow 2 31)

/-! ### Writing -/

def echoEscapes : Escapes.Rules :=
  { octal := true, zeroFirst := true, escapeLetter := true, stops := true }

/-- Writes the words with a blank between each two. -/
def echo : Builtin := fun words =>
  let (quiet, words) := match words with
    | "-n" :: rest => (true, rest)
    | words => (false, words)
  let (text, stopped) := Escapes.readAll echoEscapes (" ".intercalate words).toList
  say "echo" (String.ofList (if quiet || stopped then text else text ++ ['\n'])) 0

def printfDialect : Format.Dialect :=
  { escapes := { octal := true, escapeLetter := true }
    argumentEscapes := echoEscapes
    letters := "diouxXfFeEgGcsb".toList
    precision := 53 }

/-- What is said of an argument of `printf`. -/
def faultText (argument : String) : Format.Fault → String
  | .noNumber => s!"{argument}: expected numeric value"
  | .extra => s!"{argument}: not completely converted"
  | .outOfRange => s!"{argument}: Numerical result out of range"

def printf : Builtin :=
  withLetters "printf" "" fun _ words => do
    match words with
    | [] => refuse "printf: usage: printf format [arg ...]"
    | format :: arguments =>
        let run := Format.run printfDialect format arguments
        run.faults.reverse.forM fun (argument, fault) =>
          complain s!"printf: {faultText argument fault}"
        let status ← say "printf" (String.ofList run.written) (if run.faults.isEmpty then 0 else 1)
        match run.faulty with
        | some text => refuse s!"printf: {text}: invalid directive"
        | none => return status

def test : Builtin := fun words => do
  match Condition.holds (← get).world words with
  | .ok true => return some 0
  | .ok false => return some 1
  | .error text => refuse s!"test: {text}"

def bracket : Builtin := fun words => do
  if words.getLast? = some "]" then
    match Condition.holds (← get).world words.dropLast with
    | .ok true => return some 0
    | .ok false => return some 1
    | .error text => refuse s!"[: {text}"
  else refuse "[: missing ]"

/-! ### Directories -/

/-- The path of the working directory without links. -/
def physicalDir (w : World) : String :=
  Octets.toText (FileTree.pathOf w.cwd).octets

/-- The path of the working directory as it was reached. -/
def currentDir (s : State) : String :=
  (s.valueOf? "PWD").getD (physicalDir s.world)

/-- A path with the names of another one after it: two dots take a name away. -/
def goAlong (names : List String) (path : String) : List String :=
  (path.splitToList (· == '/')).foldl (fun names name =>
    if name.isEmpty || name = "." then names
    else if name = ".." then names.dropLast
    else names ++ [name]) names

/-- The path of a directory from another one, without dots. -/
def logicalDir (s : State) (path : String) : String :=
  let start := if path.startsWith "/" then [] else goAlong [] (currentDir s)
  "/" ++ "/".intercalate (goAlong start path)

def enter (physical loud : Bool) (path : String) : Work (Option Nat) := do
  let s ← get
  let goal := if physical then path else logicalDir s path
  match s.world.tree.locate s.world.cwd true (World.pathOf goal) with
  | .ok loc =>
      if s.world.tree.entryAt loc.place = some .dir then do
        let w := { s.world with cwd := loc.place }
        onWorld fun _ => w
        let shown := if physical then physicalDir w else goal
        modify fun t => (t.update "OLDPWD" fun v =>
            { v with value := some (currentDir s), exported := true }).update "PWD" fun v =>
            { v with value := some shown, exported := true }
        say "cd" (if loud then shown ++ "\n" else "") 0
      else refuse s!"cd: can't cd to {path}"
  | .error _ => refuse s!"cd: can't cd to {path}"

def cd : Builtin :=
  withLetters "cd" "LP" fun options words => do
    let s ← get
    let physical := options.getLast? = some 'P'
    match words with
    | [] =>
        match s.valueOf? "HOME" with
        | some home => enter physical false home
        | none => return some 0
    | "" :: _ => return some 0
    | "-" :: _ => enter physical true ((s.valueOf? "OLDPWD").getD (currentDir s))
    | path :: _ => enter physical false path

def pwd : Builtin :=
  withLetters "pwd" "LP" fun options _ => do
    let s ← get
    say "pwd"
      ((if options.getLast? = some 'P' then physicalDir s.world else currentDir s) ++ "\n") 0

/-! ### Variables -/

/-- The name and the value of a word like those that assign. -/
def assignmentOf (word : String) : String × Option String :=
  let name := word.toList.takeWhile (· != '=')
  (String.ofList name, match word.toList.drop name.length with
    | _ :: value => some (String.ofList value)
    | [] => none)

/-- Whether one text goes before another one. -/
def textLe (a b : String) : Bool :=
  !(b < a)

/-- The variables, in the order of their names. -/
def sortedVariables (s : State) : Variables :=
  s.bindings.mergeSort fun a b => textLe a.1 b.1

/-- Lists the variables for which a test holds as commands that set them. -/
def listVariables (name : String) (test : Variable → Bool) : Work (Option Nat) := do
  let lines := (sortedVariables (← get)).filterMap fun (n, v) =>
    if test v then
      some (match v.value with
        | some value => s!"{name} {n}={quoteValue value}\n"
        | none => s!"{name} {n}\n")
    else none
  say name (String.join lines) 0

/-- Marks variables, and gives values to those that come with one. -/
def mark (name : String) (test : Variable → Bool) (f : Variable → Variable) : Builtin :=
  withLetters name "p" fun options words => do
    if words.isEmpty || options.contains 'p' then listVariables name test
    else words |> each fun word => do
      let (n, value?) := assignmentOf word
      if !Piece.isName n then refuse s!"{name}: {n}: bad variable name"
      else
        match value? with
        | some value => assign n value
        | none => pure ()
        modify (·.update n f)
        return some 0

/-- Hides variables while a function runs. -/
def localVariables : Builtin := fun words => do
  if (← get).hidden.isEmpty then do
    complain "local: not in a function"
    modify fun s => { s with status := 2 }
    throw (.exit (.exited 2))
  else
    words.forM fun word => do
      let (n, value?) := assignmentOf word
      hide n
      match value? with
      | some value => assign n value
      | none => pure ()
    return some 0

def unset : Builtin :=
  withLetters "unset" "vf" fun options => each fun word => do
    if options.getLast? = some 'f' then
      modify fun s => { s with functions := s.functions.filter (·.1 != word) }
      return some 0
    else if !Piece.isName word then refuse s!"unset: {word}: bad variable name"
    else if ((← get).bindings.lookup word).any (·.readonly) then
      refuse s!"unset: {word}: is read only"
    else
      modify (·.forget word)
      return some 0

def shift : Builtin := fun words => do
  let s ← get
  match (words.head?.map number?).getD (some 1) with
  | none =>
      let word := words.headD ""
      refuse s!"shift: Illegal number: {word}"
  | some n =>
      if s.arguments.length < n then refuse "shift: can't shift that many"
      else do
        set { s with arguments := s.arguments.drop n }
        return some 0

/-! ### Options of the shell -/

def optionNames : List (String × Char) :=
  [("errexit", 'e'), ("noglob", 'f'), ("ignoreeof", 'I'), ("interactive", 'i'), ("monitor", 'm'),
   ("noexec", 'n'), ("stdin", 's'), ("xtrace", 'x'), ("verbose", 'v'), ("vi", 'V'),
   ("emacs", 'E'), ("noclobber", 'C'), ("allexport", 'a'), ("notify", 'b'), ("nounset", 'u'),
   ("nolog", '\x01'), ("debug", '\x02')]

def setOption (on : Bool) (letter : Char) (s : State) : State :=
  let others := s.options.filter (· != letter)
  { s with options := if on then others ++ [letter] else others }

def listOptions (on : Bool) : Work (Option Nat) := do
  let s ← get
  let lines := optionNames.map fun (name, letter) =>
    if on then name ++ String.ofList (List.replicate (16 - name.length) ' ') ++
      (if s.has letter then "on\n" else "off\n")
    else (if s.has letter then "set -o " else "set +o ") ++ name ++ "\n"
  say "set" (String.join ((if on then ["Current option settings\n"] else []) ++ lines)) 0

/-- Reads options and arguments of a shell. What is left are arguments. -/
def readOptions : List String → Work (Option (List String) × Option Nat)
  | [] => return (none, some 0)
  | word :: rest => do
      match word.toList with
      | ['-'] => return (if rest.isEmpty then none else some rest, some 0)
      | ['-', '-'] => return (some rest, some 0)
      | sign :: c :: cs =>
          if sign != '-' && sign != '+' then return (some (word :: rest), some 0)
          else
            let on := sign == '-'
            if c :: cs = ['o'] then
              match rest with
              | [] => return (none, ← listOptions on)
              | name :: rest =>
                  match optionNames.lookup name with
                  | some letter => do
                      modify (setOption on letter)
                      readOptions rest
                  | none => return (none, ← refuse s!"set: Illegal option {word} {name}")
            else
              match (c :: cs).find? fun c => !(optionNames.map (·.2)).contains c with
              | some bad =>
                  let shown := String.ofList [sign, bad]
                  return (none, ← refuse s!"set: Illegal option {shown}")
              | none => do
                  (c :: cs).forM fun c => modify (setOption on c)
                  readOptions rest
      | _ => return (some (word :: rest), some 0)

/-- Sets options and arguments, or lists the variables. -/
def setBuiltin : Builtin := fun words => do
  if words.isEmpty then
    let lines := (sortedVariables (← get)).filterMap fun (n, v) =>
      v.value.map fun value => s!"{n}={quoteValue value}\n"
    say "set" (String.join lines) 0
  else
    let (arguments?, status) ← readOptions words
    match arguments? with
    | some arguments => modify fun s => { s with arguments }
    | none => pure ()
    return status

/-! ### Signals -/

def signalName (number : Nat) : String :=
  if number = 0 then "EXIT"
  else if number = 34 then "RTMIN"
  else if number = 64 then "RTMAX"
  else if 34 < number && number ≤ 49 then s!"RTMIN+{number - 34}"
  else if 49 < number && number < 64 then s!"RTMAX-{64 - number}"
  else if number = 16 then "16"
  else match ExitStatus.signalName? number with
    | some name => String.ofList (name.toList.drop 3)
    | none => toString number

def signalNumber? (word : String) : Option Nat :=
  match number? word with
  | some n => if n ≤ ExitStatus.lastSignal then some n else none
  | none =>
      let name := String.ofList (word.toList.map Char.toUpper)
      (List.range (ExitStatus.lastSignal + 1)).find? fun n => 0 < n && signalName n = name

def processNumber? (word : String) : Option Nat :=
  match word.toList with
  | '-' :: rest => number? (String.ofList rest)
  | _ => number? word

def send (number : Nat) : List String → Bool → Work (Option Nat)
  | [], good => return some (if good then 0 else 1)
  | target :: rest, good =>
      match processNumber? target with
      | none => refuse s!"kill: Illegal number: {target}"
      | some process => do
          match (← get).world.signal process number with
          | some w => do
              onWorld fun _ => w
              send number rest good
          | none =>
              let isOver := ((← get).ended.lookup process).isSome
              if !isOver then complain "kill: No such process\n"
              send number rest (good && isOver)

def killUsage : String :=
  "kill: Usage: kill [-s sigspec | -signum | -sigspec] [pid | job]... or\nkill -l [exitstatus]"

def listSignals (words : List String) : Work (Option Nat) :=
  match words with
  | [] =>
      say "kill" (String.join ((List.range (ExitStatus.lastSignal + 1)).map fun n =>
        (if n = 0 then "0" else signalName n) ++ "\n")) 0
  | word :: _ =>
      match number? word with
      | some n => say "kill" (signalName (if 128 < n then n - 128 else n) ++ "\n") 0
      | none => refuse s!"kill: Illegal number: {word}"

def kill : Builtin := fun words => do
  match words with
  | [] => refuse killUsage
  | word :: rest =>
      match word.toList with
      | '-' :: name =>
          match signalNumber? (String.ofList name), name, rest with
          | some n, _, _ => if rest.isEmpty then refuse killUsage else send n rest true
          | none, ['-'], _ => if rest.isEmpty then refuse killUsage else send 15 rest true
          | none, ['l'], _ => listSignals rest
          | none, ['s'], name :: rest =>
              match signalNumber? name with
              | none => refuse s!"kill: invalid signal number or name: {name}"
              | some n =>
                  let rest := if rest.head? = some "--" then rest.drop 1 else rest
                  if rest.isEmpty then refuse killUsage else send n rest true
          | none, ['s'], [] => refuse "kill: No arg for -s option"
          | none, 's' :: name, _ =>
              match signalNumber? (String.ofList name) with
              | none =>
                  let name := String.ofList name
                  refuse s!"kill: invalid signal number or name: {name}"
              | some n => if rest.isEmpty then refuse killUsage else send n rest true
          | none, bad :: _, _ => refuse s!"kill: Illegal option -{bad}"
          | none, [], _ => refuse s!"kill: Illegal number: {word}"
      | _ => send 15 (word :: rest) true

def trap : Builtin := fun words => do
  let words := if words.head? = some "--" then words.drop 1 else words
  let numberOf? (word : String) : Option Nat :=
    if String.ofList (word.toList.map Char.toUpper) = "EXIT" then some 0 else signalNumber? word
  let change (action : Option String) (names : List String) : Work (Option Nat) := do
    let mut good := true
    for name in names do
      match numberOf? name with
      | some n =>
          modify fun s =>
            let others := s.traps.filter (·.1 != n)
            { s with traps := match action with
              | some text => others ++ [(n, text)]
              | none => others }
      | none =>
          onWorld (·.complain s!"trap: {name}: bad trap\n")
          good := false
    return some (if good then 0 else 1)
  match words with
  | [] =>
      let lines := ((← get).traps.mergeSort fun a b => a.1 ≤ b.1).map fun (n, text) =>
        s!"trap -- {quoteValue text} {signalName n}\n"
      say "trap" (String.join lines) 0
  | [name] => change none [name]
  | action :: names =>
      if action = "-" then change none names
      else if (number? action).isSome then change none (action :: names)
      else change (some action) names

/-! ### Rights -/

def maskDigits (mask : Nat) : String :=
  let digits := Nat.toDigits 8 mask
  String.ofList (List.replicate (4 - digits.length) '0' ++ digits) ++ "\n"

/-- The rights that a mask leaves to three kinds of users. -/
def maskRights (mask : Nat) : String :=
  let rights (n : Nat) : String :=
    String.ofList ([(4, 'r'), (2, 'w'), (1, 'x')].filterMap fun (bit, c) =>
      if (n / bit) % 2 = 0 then some c else none)
  let u := rights (mask / 64)
  let g := rights (mask / 8 % 8)
  let o := rights (mask % 8)
  s!"u={u},g={g},o={o}\n"

/-- Sets the rights that new files do not get, or tells them. -/
def umask : Builtin :=
  withLetters "umask" "S" fun options words => do
    match words with
    | [] =>
        let mask := (← get).mask
        say "umask" (if options.isEmpty then maskDigits mask else maskRights mask) 0
    | word :: _ =>
        if word.toList.all Escapes.isOctal then
          let mask := word.toList.foldl (fun n c => n * 8 + (c.toNat - '0'.toNat)) 0
          modify fun s => { s with mask := mask % 512 }
          return some 0
        else if word.toList.all fun c => "ugoarwx+-=,".toList.contains c then return some 0
        else refuse s!"umask: Illegal mode: {word}"

/-! ### Reading -/

def addToRuns (separation : Separation) (c : Char) (runs : List Run) : List Run :=
  match runs with
  | r :: rest =>
      if r.separation = separation then ⟨separation, .active c :: r.glyphs⟩ :: rest
      else ⟨separation, [.active c]⟩ :: r :: rest
  | [] => [⟨separation, [.active c]⟩]

/-- Reads a line: its runs, in which no field ends where a backslash protects, the number of octets,
and whether the line was ended. -/
def lineFrom (raw : Bool) : List Char → List Run × Nat × Bool
  | [] => ([], 0, false)
  | '\n' :: _ => ([], 1, true)
  | '\\' :: c :: rest =>
      if raw then
        let (runs, n, ended) := lineFrom raw (c :: rest)
        (addToRuns .separators '\\' runs, n + 1, ended)
      else
        let (runs, n, ended) := lineFrom raw rest
        (if c = '\n' then runs else addToRuns .nothing c runs, n + 2, ended)
  | c :: rest =>
      let (runs, n, ended) := lineFrom raw rest
      (if c = '\x00' then runs else addToRuns .separators c runs, n + 1, ended)

def readBuiltin : Builtin := fun words => do
  let words := match words with
    | "-p" :: _ :: rest => rest
    | words => words
  match letters "r" words with
  | .error bad => refuse s!"read: Illegal option -{bad}"
  | .ok (_, []) => refuse "read: arg count"
  | .ok (options, names) =>
      match names.find? (!Piece.isName ·) with
      | some bad => refuse s!"read: {bad}: bad variable name"
      | none =>
          let s ← get
          match s.world.unread 0 with
          | .error _ => return some 1
          | .ok octets =>
              let (runs, n, ended) :=
                lineFrom (options.contains 'r') (octets.map fun b => Char.ofNat b.toNat)
              onWorld (·.pass 0 n)
              let values := (fieldsOf s.separators (some names.length) runs).map Glyph.spell
              (names.zipIdx).forM fun (name, i) => assign name (values[i]?.getD "")
              return some (if ended then 0 else 1)

/-- Reads the next option of words into a variable. -/
def getopts : Builtin := fun words => do
  match words with
  | options :: name :: given => do
      let s ← get
      let given := if given.isEmpty then s.arguments else given
      let index := ((s.valueOf? "OPTIND").bind number?).getD 1
      let quiet := options.startsWith ":"
      let letters := options.toList
      let finish (index letter : Nat) (value : String) (argument : Option String) :
          Work (Option Nat) := do
        modify fun s => { s with optionLetter := letter }
        assign "OPTIND" (toString index)
        match argument with
        | some text => assign "OPTARG" text
        | none => modify (·.forget "OPTARG")
        assign name value
        return some 0
      let past (index : Nat) : Work (Option Nat) := do
        modify fun s => { s with optionLetter := 0 }
        assign "OPTIND" (toString index)
        modify (·.forget "OPTARG")
        assign name "?"
        return some 1
      match given[index - 1]? with
      | none => past index
      | some word =>
          match word.toList with
          | ['-', '-'] => past (index + 1)
          | '-' :: c :: cs =>
              let position := if s.optionLetter = 0 then 0 else s.optionLetter
              match (c :: cs).drop position with
              | [] => past (index + 1)
              | letter :: more =>
                  let (nextIndex, nextLetter) :=
                    if more.isEmpty then (index + 1, 0) else (index, position + 1)
                  let shown := String.ofList [letter]
                  match letters.dropWhile (· != letter) with
                  | _ :: after =>
                      if letter = ':' then finish nextIndex nextLetter "?" none
                      else if after.head? = some ':' then
                        if !more.isEmpty then
                          finish (index + 1) 0 shown (some (String.ofList more))
                        else match given[index]? with
                          | some argument => finish (index + 2) 0 shown (some argument)
                          | none =>
                              if quiet then finish (index + 1) 0 ":" (some shown)
                              else do
                                onWorld (·.complain s!"No arg for -{letter} option\n")
                                finish (index + 1) 0 "?" none
                      else finish nextIndex nextLetter shown none
                  | [] =>
                      if quiet then finish nextIndex nextLetter "?" (some shown)
                      else do
                        onWorld (·.complain s!"Illegal option -{letter}\n")
                        finish nextIndex nextLetter "?" none
          | _ => past index
  | _ => refuse "getopts: Usage: getopts optstring var [arg...]"

/-! ### Names of commands -/

/-- The words with a meaning of their own. -/
def keywords : List String :=
  ["!", "case", "do", "done", "elif", "else", "esac", "fi", "for", "if", "in", "then", "until",
   "while", "\x7b", "\x7d"]

/-- The names of the commands that the shell carries out itself, those that functions cannot hide
left out. -/
def builtinNames : List String :=
  ["[", "alias", "bg", "cd", "command", "echo", "false", "fg", "getopts", "hash", "jobs", "kill",
   "local", "printf", "pwd", "read", "test", "true", "type", "ulimit", "umask", "unalias", "wait"]

/-- What a name means as a command: a sentence and a short form. -/
def meaning (name : String) : Work (Option (String × String)) := do
  let s ← get
  if keywords.contains name then return some ("is a shell keyword", name)
  else if Command.reserved.contains name then return some ("is a special shell builtin", name)
  else if (s.functions.lookup name).isSome then return some ("is a shell function", name)
  else if builtinNames.contains name then return some ("is a shell builtin", name)
  else
    let found := do
      let path ← s.pathOf name
      let _ ← Lookup.executable s.world path
      return path
    match found with
    | .ok path => return some ("is " ++ path, path)
    | .error (_ : SystemError) => return none

def type : Builtin := fun words => do
  let mut status := 0
  for word in words do
    match ← meaning word with
    | some (text, _) => do
        let _ ← say "type" s!"{word} {text}\n" 0
    | none => do
        let _ ← say "type" s!"{word}: not found\n" 0
        status := 127
  return some status

/-- Says what a name means, in short or not. -/
def describe (short : Bool) (word : String) : Work (Option Nat) := do
  match ← meaning word with
  | some (text, brief) => say "command" (if short then brief ++ "\n" else s!"{word} {text}\n") 0
  | none => say "command" (if short then "" else s!"{word}: not found\n") 127

/-- Waits for processes in the background, which have ended by then. -/
def wait : Builtin := fun words => do
  let s ← get
  match words.getLast? with
  | none => return some 0
  | some word =>
      match number? word with
      | some n => return some ((s.ended.lookup n).getD 127)
      | none => refuse s!"wait: Illegal number: {word}"

/-- The command of a name that the shell carries out itself. -/
def builtin? (name : String) : Option Builtin :=
  match name with
  | ":" | "true" | "hash" | "jobs" => some fun _ => return some 0
  | "false" => some fun _ => return some 1
  | "echo" => some echo
  | "printf" => some printf
  | "test" => some test
  | "[" => some bracket
  | "cd" => some cd
  | "pwd" => some pwd
  | "export" => some (mark "export" (·.exported) fun v => { v with exported := true })
  | "readonly" => some (mark "readonly" (·.readonly) fun v => { v with readonly := true })
  | "local" => some localVariables
  | "unset" => some unset
  | "shift" => some shift
  | "set" => some setBuiltin
  | "kill" => some kill
  | "trap" => some trap
  | "read" => some readBuiltin
  | "getopts" => some getopts
  | "type" => some type
  | "wait" => some wait
  | "times" => some fun _ => say "times" "0m0.000000s 0m0.000000s\n0m0.000000s 0m0.000000s\n" 0
  | "umask" => some umask
  | "ulimit" => some fun words =>
      say "ulimit" (if words.all (·.startsWith "-") then "unlimited\n" else "") 0
  | "alias" => some fun words => do
      match words.find? fun word => !word.toList.contains '=' with
      | some word => do
          let _ ← say "alias" "" 0
          onWorld (·.complain s!"alias: {word} not found\n")
          return some 1
      | none => return some 0
  | "unalias" => some fun words => do
      match words.head? with
      | some word =>
          if word = "-a" then return some 0
          else do
            onWorld (·.complain s!"unalias: {word} not found\n")
            return some 1
      | none => return some 0
  | "bg" | "fg" => some fun _ => refuse s!"{name}: No current job"
  | _ => none

end ReviewChannel.Process.Shell
