import ReviewChannel.Process.Shell.Evaluation

/-!
A shell as a program. It carries out a text that it gets as a word, that stands in a file, or that
it reads from its input.

* `Shell.run` runs a shell to its end.
-/

namespace ReviewChannel.Process.Shell

/-- What a shell is asked to do. -/
structure Task where
  options : List Char := []
  /-- Whether a word is the text to carry out. -/
  isText : Bool := false
  /-- The words after the options. -/
  words : List String := []

/-- Reads the options of a shell, or says what is wrong with them. -/
def readTask (t : Task) : List String → Except String Task
  | [] => .ok t
  | word :: rest =>
      match word.toList with
      | ['-'] | ['-', '-'] => .ok { t with words := rest }
      | sign :: c :: cs =>
          if sign != '-' && sign != '+' then .ok { t with words := word :: rest }
          else
            let known := (optionNames.map (·.2)) ++ ['c', 'l']
            match (c :: cs).find? fun c => c != 'o' && !known.contains c with
            | some bad =>
                let shown := String.ofList [sign, bad]
                .error s!"Illegal option {shown}"
            | none =>
                let letters := (c :: cs).filter fun c => c != 'c' && c != 'l' && c != 'o'
                let options := if sign = '-' then t.options ++ letters
                  else t.options.filter (!letters.contains ·)
                let t := { t with options, isText := t.isText || (c :: cs).contains 'c' }
                if (c :: cs).contains 'o' then
                  match rest with
                  | [] => .ok t
                  | name :: rest =>
                      match optionNames.lookup name with
                      | some letter =>
                          readTask { t with
                            options := if sign = '-' then t.options ++ [letter]
                              else t.options.filter (· != letter) } rest
                      | none => .error s!"Illegal option {word} {name}"
                else readTask t rest
      | _ => .ok { t with words := word :: rest }

/-- The variables of a shell that has not done anything yet. -/
def firstVariables (w : World) : Variables :=
  let imported := w.environment.filter fun (name, _) =>
    Piece.isName name && name != "IFS" && name != "PPID" && name != "OPTIND"
  let isHere (path : String) : Bool :=
    path.startsWith "/" && match w.tree.locate w.cwd true (World.pathOf path) with
      | .ok loc => loc.place = w.cwd
      | .error _ => false
  let dir := match w.environment.lookup "PWD" with
    | some path => if isHere path then path else physicalDir w
    | none => physicalDir w
  let own : Variables :=
    [("IFS", { value := some " \t\n" }), ("OPTIND", { value := some "1" }),
     ("PPID", { value := some (toString ((w.alive.drop 1).headD 1)) }),
     ("PS1", { value := some "# " }), ("PS2", { value := some "> " }),
     ("PS4", { value := some "+ " }),
     ("PWD", { value := some dir, exported := true })]
  let given : Variables := imported.map fun (name, value) =>
    (name, { value := some value, exported := true })
  let kept := own.filter fun (name, _) =>
    name = "PWD" || (given.lookup name).isNone
  let path : Variables := if (given.lookup "PATH").isSome then []
    else [("PATH", { value := some Lookup.usualPath })]
  kept ++ path ++ given.filter (·.1 != "PWD")

/-- Carries out a text as a shell does that does nothing else. -/
def carryOut (launch : Launch) (name : String) (arguments : List String) (options : List Char)
    (text : String) (w : World) : ExitStatus × World :=
  let s : State :=
    { world := w, name, arguments, options, main := w.process, bindings := firstVariables w }
  let (ended, s) := finish (evaluate launch depthLimit) (runText (evaluate launch depthLimit) text) s
  (ended, s.world)

def run (launch : Launch) (words : List String) (w : World) : ExitStatus × World :=
  let name := words.headD "sh"
  match readTask {} (words.drop 1) with
  | .error text => (.exited 2, w.complain s!"{name}: 0: {text}\n")
  | .ok t =>
      if t.isText then
        match t.words with
        | [] => (.exited 2, w.complain s!"{name}: 0: -c requires an argument\n")
        | [text] => carryOut launch name [] t.options text w
        | text :: name :: arguments => carryOut launch name arguments t.options text w
      else
        let fromInput : ExitStatus × World :=
          match w.readAll 0 with
          | .error _ => (.exited 2, w)
          | .ok (octets, w) => carryOut launch name t.words ('s' :: t.options) (Octets.toText octets) w
        match t.words with
        | [] => fromInput
        | file :: arguments =>
            if t.options.contains 's' then fromInput
            else match w.status file, w.readFile (if file = "-" then "./-" else file) with
              | .ok .dir, _ => (.exited 0, w)
              | .ok (.program _), _ =>
                  (.exited 2, w.complain s!"{file}: 1: Syntax error: word unexpected\n")
              | _, .error e =>
                  (.exited 2, w.complain s!"{name}: 0: cannot open {file}: {openFault false e}\n")
              | _, .ok (octets, w) =>
                  carryOut launch file arguments t.options (Octets.toText octets) w

end ReviewChannel.Process.Shell
