import ReviewChannel.Process.Lookup
import ReviewChannel.Process.Shell.Command

/-!
What a shell remembers: variables, arguments, functions, options and what it does on signals. A
shell's work is a computation on this state that can be left early (`Flow`): a loop is left, a
function returns, or the shell ends.
-/

namespace ReviewChannel.Process.Shell

structure Variable where
  value : Option String := none
  exported : Bool := false
  readonly : Bool := false
deriving DecidableEq, Repr

/-- Variables by their names. -/
abbrev Variables := List (String × Variable)

structure State where
  world : World
  /-- What the shell is called. -/
  name : String := "sh"
  arguments : List String := []
  /-- The status of the last command. -/
  status : Nat := 0
  /-- The status of the last command whose output was put into the words of this one. -/
  substituted : Option Nat := none
  bindings : Variables := []
  /-- The variables that functions hide, of the innermost function first. -/
  hidden : List (List (String × Option Variable)) := []
  functions : List (String × Command) := []
  options : List Char := []
  /-- What is done on signals, and at the end as on signal zero. -/
  traps : List (Nat × String) := []
  /-- The number of the outermost shell. -/
  main : Nat := 0
  /-- The number of the last process in the background. -/
  background : Option Nat := none
  /-- The processes in the background that have ended, with their status. -/
  ended : List (Nat × Nat) := []
  line : Nat := 1
  /-- The rights that new files do not get. -/
  mask : Nat := 0o022
  /-- How many loops are around the command. -/
  loops : Nat := 0
  /-- The letter of a word at which the reading of options goes on. -/
  optionLetter : Nat := 0

/-- How a computation is left early. -/
inductive Flow where
  | leaveLoops (count : Nat)
  | nextRound (count : Nat)
  | return
  | exit (status : ExitStatus)
deriving DecidableEq, Repr

/-- The work of a shell. -/
abbrev Work := ExceptT Flow (StateM State)

/-! ### Outputs -/

def onWorld (f : World → World) : Work Unit :=
  modify fun s => { s with world := f s.world }

def complain (text : String) : Work Unit := do
  let s ← get
  onWorld (·.complain s!"{s.name}: {s.line}: {text}\n")

/-- Says what went wrong and ends the shell. -/
def abort {α : Type} (text : String) : Work α := do
  complain text
  modify fun s => { s with status := 2 }
  throw (.exit (.exited 2))

/-! ### Variables -/

namespace State

def valueOf? (name : String) (s : State) : Option String :=
  (s.bindings.lookup name).bind (·.value)

def update (name : String) (f : Variable → Variable) (s : State) : State :=
  let v := f ((s.bindings.lookup name).getD {})
  { s with
    bindings :=
      if (s.bindings.lookup name).isSome then
        s.bindings.map fun e => if e.1 = name then (name, v) else e
      else s.bindings ++ [(name, v)] }

def forget (name : String) (s : State) : State :=
  { s with bindings := s.bindings.filter (·.1 != name) }

def has (option : Char) (s : State) : Bool :=
  s.options.contains option

def separators (s : State) : List Char :=
  ((s.valueOf? "IFS").getD " \t\n").toList

def environment (s : State) : List (String × String) :=
  s.bindings.filterMap fun (name, v) =>
    if v.exported then v.value.map fun value => (name, value) else none

/-- The path of a program for the shell. Without a list of directories there are no names. -/
def pathOf (word : String) (s : State) : Except SystemError String :=
  match s.valueOf? "PATH" with
  | some list => Lookup.search s.world list word
  | none => if Lookup.isPath word then .ok word else .error .noEntry

/-- The value of a parameter that is no variable; the outer `none` is for variables. -/
def special? (name : String) (s : State) : Option (Option String) :=
  match name with
  | "#" => some (some (toString s.arguments.length))
  | "?" => some (some (toString s.status))
  | "$" => some (some (toString s.main))
  | "!" => some (s.background.map toString)
  | "-" => some (some (String.ofList s.options))
  | "0" => some (some s.name)
  | _ =>
      if name.toList.all Char.isDigit && !name.isEmpty then
        some (s.arguments[(name.toNat?.getD 0) - 1]?)
      else none

def parameter? (name : String) (s : State) : Option String :=
  match s.special? name with
  | some value => value
  | none =>
      if name = "LINENO" then some (toString s.line) else s.valueOf? name

end State

def assign (name value : String) : Work Unit := do
  let s ← get
  if (s.bindings.lookup name).any (·.readonly) then abort s!"{name}: is read only"
  else
    set (s.update name fun v =>
      { v with value := some value, exported := v.exported || s.has 'a' })

/-- Hides a variable while a function runs. -/
def hide (name : String) : Work Unit :=
  modify fun s => match s.hidden with
    | [] => s
    | frame :: rest =>
        if (frame.lookup name).isSome then s
        else { s with hidden := ((name, s.bindings.lookup name) :: frame) :: rest }

/-- Brings variables back to what they were. -/
def restore (saved : List (String × Option Variable)) (s : State) : State :=
  saved.foldl (fun s (name, v?) => match v? with
    | some v => s.update name fun _ => v
    | none => s.forget name) s

/-- Brings back the variables that a function has hidden. -/
def unhide (s : State) : State :=
  match s.hidden with
  | [] => s
  | frame :: rest => restore frame { s with hidden := rest }

/-! ### Descriptors -/

/-- What is said if a file cannot be opened. -/
def openFault (toWrite : Bool) (e : SystemError) : String :=
  if e = .noEntry then (if toWrite then "Directory nonexistent" else "No such file")
  else e.bareMessage

/-- The world in which descriptors lead where they led in another one. -/
def leadBack (descriptors : List Nat) (before after : World) : World :=
  descriptors.foldl (fun w d => match before.descriptors.lookup d with
    | some channel => w.connect d channel
    | none => w.close d) after

/-- Runs a computation after which the descriptors of redirections lead where they led before. -/
def keepingDescriptors {α : Type} (redirects : List Redirect) (work : Work α) : Work α := fun s =>
  let (r, after) := work s
  (r, { after with world := leadBack (redirects.map (·.descriptor)) s.world after.world })

end ReviewChannel.Process.Shell
