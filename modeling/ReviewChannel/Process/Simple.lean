import ReviewChannel.Process.Condition
import ReviewChannel.Process.Filter
import ReviewChannel.Process.Lookup
import ReviewChannel.Process.Output

/-!
Programs that only succeed, fail, wait or test, and programs that tell about the machine and about
the process itself.
-/

namespace ReviewChannel.Process.Programs

/-! ### Success and failure -/

def endWith (status : Nat) : Plain := fun _ w => (status, w)

def test : Plain := fun words w =>
  match Condition.holds w words with
  | .ok true => (0, w)
  | .ok false => (1, w)
  | .error text => (2, w.blame "test" text)

def bracket : Plain := fun words w =>
  if words.getLast? = some "]" then
    match Condition.holds w words.dropLast with
    | .ok true => (0, w)
    | .ok false => (1, w)
    | .error text => (2, w.blame "[" text)
  else (2, w.blame "[" "missing ']'")

/-! ### Time -/

/-- The thousandths of a second that a word spells, with or without a unit. -/
def interval? (word : String) : Option Nat :=
  match Fraction.read? word.toList with
  | some (r, unit) =>
      let factor? : Option Nat := match unit with
        | [] | ['s'] => some 1000
        | ['m'] => some 60000
        | ['h'] => some 3600000
        | ['d'] => some 86400000
        | _ => none
      match factor? with
      | some factor =>
          if r.negative && r.numerator != 0 then none
          else some ((r.numerator * factor + r.denominator - 1) / r.denominator)
      | none => none
  | none => none

def sleep : Plain :=
  withOptions "sleep" {} 1 fun g w =>
    if g.operands.isEmpty then misused "sleep" "missing operand" 1 w
    else match g.operands.find? fun word => (interval? word).isNone with
      | some bad => misused "sleep" s!"invalid time interval '{bad}'" 1 w
      | none =>
          (0, { w with slept := w.slept + (g.operands.filterMap interval?).foldl (· + ·) 0 })

/-! ### The process and the machine -/

def pwd : Plain :=
  withOptions "pwd" { plain := "LP" } 1 fun g w =>
    let physical := Octets.toText (FileTree.pathOf w.cwd).octets
    let isHere (path : String) : Bool :=
      path.startsWith "/" && match w.tree.locate w.cwd true (World.pathOf path) with
        | .ok loc => loc.place = w.cwd
        | .error _ => false
    let path := match w.valueOf? "PWD" with
      | some path => if g.has 'L' && isHere path then path else physical
      | none => physical
    w.emit "pwd" (path ++ "\n") 0

/-- Writes the environment, or the values of variables. -/
def printenv : Plain :=
  withOptions "printenv" { plain := "0", long := [("null", '0')] } 2 fun g w =>
    let ending := if g.has '0' then "\x00" else "\n"
    if g.operands.isEmpty then
      w.emit "printenv" (String.join (w.environment.map fun (n, v) => s!"{n}={v}{ending}")) 0
    else
      let values := g.operands.filterMap w.valueOf?
      w.emit "printenv" (String.join (values.map (· ++ ending)))
        (statusOf (values.length = g.operands.length))

/-- Writes numbers and names of the user. -/
def id : Plain :=
  withOptions "id" { plain := "uGgnrza" } 1 fun g w =>
    let text := if g.has 'n' then "root"
      else if g.has 'u' || g.has 'g' || g.has 'G' then "0"
      else "uid=0(root) gid=0(root) groups=0(root)"
    w.emit "id" (text ++ "\n") 0

/-- Writes one line that does not depend on anything. -/
def line (program text : String) : Plain := fun words w =>
  if words.isEmpty then w.emit program (text ++ "\n") 0
  else
    let extra := words.headD ""
    misused program s!"extra operand '{extra}'" 1 w

def uname : Plain :=
  withOptions "uname" { plain := "asnrvmpio" } 1 fun g w =>
    let parts := [('s', "Linux"), ('n', "localhost"), ('r', "6.1.0"), ('v', "#1 SMP"),
      ('m', "x86_64"), ('o', "GNU/Linux")]
    let chosen := if g.has 'a' then parts else parts.filter fun (letter, _) => g.has letter
    let chosen := if chosen.isEmpty then parts.take 1 else chosen
    w.emit "uname" (" ".intercalate (chosen.map (·.2)) ++ "\n") 0

def date : Plain := fun words w =>
  match words.find? (·.startsWith "+") with
  | some format =>
      let cs := format.toList.drop 1
      if cs.contains '%' then w.emit "date" "1714564800\n" 0
      else w.emit "date" (String.ofList cs ++ "\n") 0
  | none => w.emit "date" "Wed May  1 12:00:00 UTC 2024\n" 0

def tty : Plain := fun words w =>
  if words.any fun word => word = "-s" then (1, w) else w.emit "tty" "not a tty\n" 1

def which : Plain := fun words w =>
  let every := words.head? = some "-a"
  let names := if every then words.drop 1 else words
  let found := names.map fun name => match Lookup.find w (Lookup.pathOf w) name with
    | .ok path => some path
    | .error _ => none
  w.emit "which" (String.join (found.filterMap fun path? => path?.map (· ++ "\n")))
    (statusOf (!names.isEmpty && found.all Option.isSome))

def kill : Plain := fun words w =>
  let (number?, targets) : Option Nat × List String := match words with
    | "-s" :: name :: rest =>
        (name.toNat? <|> ExitStatus.signalNumber? (String.ofList (name.toList.map Char.toUpper)), rest)
    | "--" :: rest => (some 15, rest)
    | word :: rest => match word.toList with
      | '-' :: name =>
          let name := String.ofList name
          (name.toNat? <|> ExitStatus.signalNumber? (String.ofList (name.toList.map Char.toUpper)),
            rest)
      | _ => (some 15, words)
    | [] => (none, [])
  match number? with
  | none => (1, w.blame "kill" "invalid argument")
  | some number =>
      if targets.isEmpty then (1, w.blame "kill" "not enough arguments")
      else targets.foldl (fun (status, w) target =>
        match target.toNat?.bind fun process => w.signal process number with
        | some w => (status, w)
        | none => (1, w.blame "kill" s!"({target}): No such process")) (0, w)

end ReviewChannel.Process.Programs
