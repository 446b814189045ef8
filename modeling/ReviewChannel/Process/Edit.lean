import ReviewChannel.Process.Search

/-!
The stream editor `sed`: a script of commands, each with the lines that it applies to, carried out
for every line.
-/

namespace ReviewChannel.Process.Programs.Edit

/-! ### Scripts -/

/-- A line, as a script names it. -/
inductive Address where
  | number (n : Nat)
  | last
  | fits (r : Regex)
deriving Repr

/-- The lines that a command applies to. -/
inductive Scope where
  | every
  | one (a : Address)
  | range (a b : Address)
deriving Repr

/-- What replaces a match. -/
inductive Replacement where
  | char (c : Char)
  /-- The whole match or a group of it. -/
  | group (number : Nat)
deriving Repr

/-- What a command does. -/
inductive Action where
  | delete
  | print
  | quit
  | number
  | append (text : String)
  | insert (text : String)
  | change (text : String)
  | exchange (set into : List Char)
  | hold (joined : Bool)
  | fetch (joined : Bool)
  | swap
  | substitute (r : Regex) (by_ : List Replacement) (global print ignoreCase : Bool) (count : Nat)
deriving Repr

structure Command where
  scope : Scope
  negated : Bool
  action : Action
deriving Repr

/-- The characters up to a delimiter, and those after it. The delimiter can be escaped. -/
def upTo (delimiter : Char) : List Char → Option (List Char × List Char)
  | [] => none
  | '\\' :: c :: rest =>
      (upTo delimiter rest).map fun (front, after) =>
        (if c = delimiter then c :: front else '\\' :: c :: front, after)
  | c :: rest =>
      if c = delimiter then some ([], rest)
      else (upTo delimiter rest).map fun (front, after) => (c :: front, after)

def address? (extended : Bool) (cs : List Char) : Option (Address × List Char) :=
  match cs with
  | '$' :: rest => some (.last, rest)
  | '/' :: rest => do
      let (pattern, rest) ← upTo '/' rest
      return (.fits (← Regex.parse? extended (String.ofList pattern)), rest)
  | c :: _ =>
      if c.isDigit then
        some (.number (Fraction.natOf (cs.takeWhile Char.isDigit)), cs.dropWhile Char.isDigit)
      else none
  | [] => none

/-- What replaces a match, read from its text. -/
def replacement : List Char → List Replacement
  | [] => []
  | '&' :: rest => .group 0 :: replacement rest
  | '\\' :: 'n' :: rest => .char '\n' :: replacement rest
  | '\\' :: 't' :: rest => .char '\t' :: replacement rest
  | '\\' :: c :: rest =>
      (if c.isDigit then .group (c.toNat - '0'.toNat) else .char c) :: replacement rest
  | c :: rest => .char c :: replacement rest

/-- The text of a command that adds lines: up to the end of its line. -/
def lineText (cs : List Char) : String × List Char :=
  let cs := cs.dropWhile (· == ' ')
  let cs := match cs with
    | '\\' :: '\n' :: rest => rest
    | '\\' :: rest => rest
    | cs => cs
  (String.ofList (cs.takeWhile (· != '\n')), cs.dropWhile (· != '\n'))

def action? (extended : Bool) (cs : List Char) : Option (Action × List Char) :=
  match cs with
  | 'd' :: rest => some (.delete, rest)
  | 'p' :: rest => some (.print, rest)
  | 'q' :: rest => some (.quit, rest)
  | '=' :: rest => some (.number, rest)
  | 'h' :: rest => some (.hold false, rest)
  | 'H' :: rest => some (.hold true, rest)
  | 'g' :: rest => some (.fetch false, rest)
  | 'G' :: rest => some (.fetch true, rest)
  | 'x' :: rest => some (.swap, rest)
  | 'a' :: rest =>
      let (text, rest) := lineText rest
      some (.append text, rest)
  | 'i' :: rest =>
      let (text, rest) := lineText rest
      some (.insert text, rest)
  | 'c' :: rest =>
      let (text, rest) := lineText rest
      some (.change text, rest)
  | 'y' :: delimiter :: rest => do
      let (set, rest) ← upTo delimiter rest
      let (into, rest) ← upTo delimiter rest
      return (.exchange set into, rest)
  | 's' :: delimiter :: rest => do
      let (pattern, rest) ← upTo delimiter rest
      let (text, rest) ← upTo delimiter rest
      let isFlag (c : Char) : Bool := "gpIi".toList.contains c || c.isDigit
      let flags := rest.takeWhile isFlag
      let digits := flags.filter Char.isDigit
      let r ← Regex.parse? extended (String.ofList pattern)
      return (.substitute r (replacement text) (flags.contains 'g') (flags.contains 'p')
        (flags.contains 'I' || flags.contains 'i')
        (if digits.isEmpty then 1 else Fraction.natOf digits), rest.dropWhile isFlag)
  | _ => none

/-- The commands of a script of at most `count` characters. -/
def parseFrom (extended : Bool) : Nat → List Char → Option (List Command)
  | 0, _ => none
  | _, [] => some []
  | count + 1, cs =>
      match cs with
      | ';' :: rest | ' ' :: rest | '\n' :: rest => parseFrom extended count rest
      | cs => do
          let (scope, rest) ← match address? extended cs with
            | none => some (Scope.every, cs)
            | some (a, ',' :: rest) => do
                let (b, rest) ← address? extended rest
                some (.range a b, rest)
            | some (a, rest) => some (.one a, rest)
          let rest := rest.dropWhile (· == ' ')
          let (negated, rest) := match rest with
            | '!' :: rest => (true, rest.dropWhile (· == ' '))
            | rest => (false, rest)
          let (action, rest) ← action? extended rest
          let rest := rest.dropWhile (· == ' ')
          match rest with
          | [] => return [⟨scope, negated, action⟩]
          | ';' :: rest | '\n' :: rest =>
              return ⟨scope, negated, action⟩ :: (← parseFrom extended count rest)
          | _ => none

def parse? (extended : Bool) (script : String) : Option (List Command) :=
  parseFrom extended (script.length + 1) script.toList

/-! ### Substitution -/

def expand (line : List Char) (m : Regex.Match) (by_ : List Replacement) : List Char :=
  by_.flatMap fun
    | .char c => [c]
    | .group 0 => (line.take m.stop).drop m.start
    | .group n => (m.groups.lookup n).getD []

/-- The line with its matches replaced, and whether there were any. -/
def substitute (r : Regex) (by_ : List Replacement) (global ignoreCase : Bool) (count : Nat)
    (line : List Char) : List Char × Bool :=
  let found := matchesFrom { ignoreCase } [r] line (line.length + 1) 0
  let chosen := if global then found.drop (count - 1) else (found.drop (count - 1)).take 1
  let (text, position) := chosen.foldl (fun (text, position) m =>
    (text ++ (line.take m.start).drop position ++ expand line m by_, m.stop)) ([], 0)
  (text ++ line.drop position, !chosen.isEmpty)

/-! ### Running -/

/-- What the editor holds while it handles a line. -/
structure State where
  line : List Char
  number : Nat
  isLast : Bool
  held : List Char := []
  /-- The ranges that are open, by the index of their command. -/
  openRanges : List Nat := []
  /-- What is written before the line, and after it. -/
  before : List String := []
  after : List String := []
  deleted : Bool := false
  done : Bool := false

def Address.holds (s : State) : Address → Bool
  | .number n => s.number = n
  | .last => s.isLast
  | .fits r => (Regex.find? {} r s.line).isSome

/-- Whether a command applies to the line, and the ranges that are open then. -/
def applies (index : Nat) (scope : Scope) (s : State) : Bool × List Nat :=
  match scope with
  | .every => (true, s.openRanges)
  | .one a => (a.holds s, s.openRanges)
  | .range a b =>
      let closed := s.openRanges.filter (· != index)
      if s.openRanges.contains index then
        (true, if b.holds s then closed else s.openRanges)
      else if a.holds s then
        let past : Bool := match b with
          | .number n => n ≤ s.number
          | .last => s.isLast
          | .fits _ => false
        (true, if past then closed else index :: closed)
      else (false, s.openRanges)

def act (a : Action) (s : State) : State :=
  match a with
  | .delete => { s with deleted := true, done := true }
  | .print => { s with before := s.before ++ [String.ofList s.line] }
  | .quit => { s with done := true }
  | .number => { s with before := s.before ++ [toString s.number] }
  | .append text => { s with after := s.after ++ [text] }
  | .insert text => { s with before := s.before ++ [text] }
  | .change text => { s with before := s.before ++ [text], deleted := true, done := true }
  | .exchange set into =>
      { s with line := s.line.map fun c => match set.findIdx? (· == c) with
          | some i => into[i]?.getD c
          | none => c }
  | .hold joined => { s with held := if joined then s.held ++ '\n' :: s.line else s.line }
  | .fetch joined => { s with line := if joined then s.line ++ '\n' :: s.held else s.held }
  | .swap => { s with line := s.held, held := s.line }
  | .substitute r by_ global print ignoreCase count =>
      let (line, changed) := substitute r by_ global ignoreCase count s.line
      let s := { s with line }
      if changed && print then { s with before := s.before ++ [String.ofList line] } else s

/-- Carries out the commands for a line. The second answer is whether the editor quits. -/
def runLine : List (Command × Nat) → State → State × Bool
  | [], s => (s, false)
  | (c, index) :: rest, s =>
      let (holds, openRanges) := applies index c.scope s
      let s := { s with openRanges }
      if holds != c.negated then
        let s := act c.action s
        if s.done then (s, c.action matches .quit) else runLine rest s
      else runLine rest s

/-- Carries out the commands for all lines: the lines that are written. -/
def runLines (commands : List (Command × Nat)) (silent : Bool) :
    List String → Nat → List Char → List Nat → List String
  | [], _, _, _ => []
  | line :: rest, number, held, openRanges =>
      let (s, quits) := runLine commands
        { line := line.toList, number, isLast := rest.isEmpty, held, openRanges }
      let own := if silent || s.deleted then [] else [String.ofList s.line]
      let lines := s.before ++ own ++ s.after
      if quits then lines
      else lines ++ runLines commands silent rest (number + 1) s.held s.openRanges

/-- The text of a file after the commands. -/
def run (commands : List Command) (silent : Bool) (cs : List Char) : String :=
  let l := linesOfText cs
  let lines := runLines commands.zipIdx silent l.lines 1 [] []
  if l.ended || lines.isEmpty then unlines lines else "\n".intercalate lines

/-- Edits files: writes them changed, or changes them. -/
def sed : Plain :=
  withOptions "sed"
    { plain := "nErsuz", valued := "ef"
      long := [("quiet", 'n'), ("silent", 'n'), ("expression", 'e'), ("regexp-extended", 'E')] } 1
    fun g w =>
    let (scripts, paths) := match g.values 'e', g.operands with
      | [], script :: paths => ([script], paths)
      | scripts, paths => (scripts, paths)
    if scripts.isEmpty then
      (1, w.complain "Usage: sed [OPTION]... \x7bscript-only-if-no-other-script\x7d [input-file]...\n")
    else match parse? (g.has 'E' || g.has 'r') ("\n".intercalate scripts) with
      | none => (1, w.blame "sed" "-e expression #1, char 1: unknown command")
      | some commands =>
          let (files, good, w) := readFilesAs "sed" (fun path => s!"can't read {path}") paths w
          let status := if good then 0 else 2
          w.emit "sed" (run commands (g.has 'n') (files.flatMap (·.2))) status

def sedInPlace (g : List String) : Plain := fun paths w =>
  match Given.read { plain := "nErs", valued := "e" } g with
  | .error text => misused "sed" text 1 w
  | .ok given =>
      let (scripts, paths) := match given.values 'e', given.operands ++ paths with
        | [], script :: paths => ([script], paths)
        | scripts, paths => (scripts, paths)
      match parse? (given.has 'E' || given.has 'r') ("\n".intercalate scripts) with
      | none => (1, w.blame "sed" "-e expression #1, char 1: unknown command")
      | some commands =>
          paths.foldl (fun (status, w) path =>
            match w.readFile path with
            | .error e => (4, w.blame "sed" s!"can't read {path}: {e.bareMessage}")
            | .ok (octets, w) =>
                let text := run commands (given.has 'n') (charsOf octets)
                match w.tree.remove w.cwd (World.pathOf path) with
                | .error _ => (4, w)
                | .ok tree =>
                    match { w with tree }.writeFile .truncate path (Octets.ofText text) with
                    | .ok w => (status, w)
                    | .error _ => (4, w)) (0, w)

/-- Edits files, in place if that is asked for. -/
def program : Plain := fun words =>
  let isInPlace (word : String) : Bool := word = "-i" || word = "--in-place"
  if words.any isInPlace then sedInPlace (words.filter (!isInPlace ·)) [] else sed words

end ReviewChannel.Process.Programs.Edit
