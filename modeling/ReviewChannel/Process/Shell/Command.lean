import ReviewChannel.Process.Shell.Token

/-!
Commands of a shell's language, and how they are put together from tokens. A text is read line by
line: a command that has been read completely can be carried out before the rest is looked at.

* `Command.line` reads the commands of one line, and of more lines if they belong together.
-/

namespace ReviewChannel.Process.Shell

/-- What a redirection does. -/
inductive RedirectKind where
  | read
  | write
  /-- To write, whatever is there. -/
  | overwrite
  | append
  | update
  | duplicate
  | document
deriving DecidableEq, Repr

structure Redirect where
  descriptor : Nat
  kind : RedirectKind
  target : Word
deriving Repr

inductive Command where
  | simple (line : Nat) (assignments : List (String × Word)) (words : List Word)
      (redirects : List Redirect)
  | pipeline (commands : List Command)
  | negation (c : Command)
  /-- Both, or the first one only if it fails. -/
  | both (first second : Command)
  /-- The second one only if the first one fails. -/
  | either (first second : Command)
  | sequence (first second : Command)
  | background (c : Command)
  | subshell (c : Command)
  | redirected (c : Command) (redirects : List Redirect)
  | branch (condition yes : Command) (no : Option Command)
  /-- Again and again while the condition succeeds, or until it does. -/
  | loop (untilDone : Bool) (condition body : Command)
  /-- For each word, or for each argument if no words are given. -/
  | forEach (name : String) (words : Option (List Word)) (body : Command)
  | choice (subject : Word) (arms : List (List Word × Option Command))
  | define (name : String) (body : Command)
deriving Repr, Inhabited

namespace Command

/-! ### Steps of reading -/

/-- What is wrong with a text, and on which line. -/
abbrev Fault := Nat × String

/-- Reads something from tokens: what was read, and the tokens after it. -/
abbrev Reader (α : Type) := List Token → Except Fault (α × List Token)

/-- The failure of a token that should not be there. -/
def unexpected {α : Type} (wanted : String) (ts : List Token) : Except Fault α :=
  let hint := if wanted.isEmpty then "" else s!" (expecting \"{wanted}\")"
  match ts with
  | [] => .error (0, s!"end of file unexpected{hint}")
  | t :: _ =>
      match t.lexeme with
      | .fault text => .error (t.line, text)
      | _ => .error (t.line, s!"{t.describe} unexpected{hint}")

def skipNewlines (ts : List Token) : List Token :=
  ts.dropWhile fun t => match t.lexeme with
    | .newline => true
    | _ => false

def sign? : List Token → Option String
  | t :: _ => match t.lexeme with
    | .sign s => some s
    | _ => none
  | [] => none

/-- The word in front with a meaning of its own. -/
def keyword? (ts : List Token) : Option String :=
  ts.head?.bind Token.plain?

/-- Reads a word with a meaning of its own, or a sign. -/
def expect (wanted : String) : Reader Unit := fun ts =>
  if keyword? ts = some wanted || sign? ts = some wanted then .ok ((), ts.drop 1)
  else unexpected wanted ts

/-- The words that end a list of commands. -/
def closing : List String :=
  ["do", "done", "elif", "else", "esac", "fi", "then", "\x7d"]

def atEnd (ts : List Token) : Bool :=
  ts.isEmpty || (keyword? ts).any closing.contains || sign? ts = some ")" || sign? ts = some ";;"

/-! ### Redirections and assignments -/

/-- What a sign of a redirection does, and the descriptor that it means by itself. -/
def redirectKind? (s : String) : Option (RedirectKind × Nat) :=
  match s with
  | "<" => some (.read, 0)
  | ">" => some (.write, 1)
  | ">|" => some (.overwrite, 1)
  | ">>" => some (.append, 1)
  | "<>" => some (.update, 0)
  | "<&" => some (.duplicate, 0)
  | ">&" => some (.duplicate, 1)
  | "<<" => some (.document, 0)
  | _ => none

/-- Reads a redirection, if one stands in front. -/
def redirect? (ts : List Token) : Option (Except Fault (Redirect × List Token)) :=
  let (number?, rest) := match ts with
    | ⟨.descriptor n, _⟩ :: rest => (some n, rest)
    | ts => (none, ts)
  match (sign? rest).bind redirectKind? with
  | none => none
  | some (kind, own) =>
      match rest.drop 1 with
      | ⟨.document pieces, _⟩ :: rest => some (.ok (⟨number?.getD own, kind, pieces⟩, rest))
      | ⟨.word pieces, _⟩ :: rest => some (.ok (⟨number?.getD own, kind, pieces⟩, rest))
      | rest => some (unexpected "" rest)

/-- Reads the redirections in front, at most `count` of them. -/
def redirects : Nat → Reader (List Redirect)
  | 0, ts => .ok ([], ts)
  | count + 1, ts =>
      match redirect? ts with
      | none => .ok ([], ts)
      | some reading => do
          let (r, ts) ← reading
          let (rs, ts) ← redirects count ts
          return (r :: rs, ts)

def assignment? : Word → Option (String × Word)
  | .text s false :: rest =>
      let name := s.toList.takeWhile (· != '=')
      match s.toList.drop name.length with
      | '=' :: value =>
          if Piece.isName (String.ofList name) then
            some (String.ofList name,
              if value.isEmpty then rest else .text (String.ofList value) false :: rest)
          else none
      | _ => none
  | _ => none

/-! ### Simple commands -/

/-- What has been read of a simple command. -/
structure Parts where
  assignments : List (String × Word) := []
  words : List Word := []
  redirects : List Redirect := []

/-- Reads the parts of a simple command, at most `count` of them. -/
def parts : Nat → Parts → Reader Parts
  | 0, p, ts => .ok (p, ts)
  | count + 1, p, ts =>
      match redirect? ts with
      | some reading => do
          let (r, ts) ← reading
          parts count { p with redirects := p.redirects ++ [r] } ts
      | none =>
          match ts with
          | ⟨.word pieces, _⟩ :: rest =>
              match (if p.words.isEmpty then assignment? pieces else none) with
              | some assignment =>
                  parts count { p with assignments := p.assignments ++ [assignment] } rest
              | none => parts count { p with words := p.words ++ [pieces] } rest
          | ts => .ok (p, ts)

def reserved : List String :=
  [".", ":", "break", "continue", "eval", "exec", "exit", "export", "readonly", "return", "set",
   "shift", "times", "trap", "unset"]

/-- Reads a simple command, or the definition of a function. -/
def simpleOrDefine (command : Reader Command) : Reader Command := fun ts => do
  let line := (ts.head?.map Token.line).getD 0
  let (p, rest) ← parts (ts.length + 1) {} ts
  match p.words, sign? rest with
  | [name], some "(" =>
      if p.assignments.isEmpty && p.redirects.isEmpty then do
        let ((), rest) ← expect ")" (rest.drop 1)
        match Piece.plain? name with
        | some name =>
            if Piece.isName name && !reserved.contains name then do
              let (body, rest) ← command (skipNewlines rest)
              return (.define name body, rest)
            else .error (line, "Bad function name")
        | none => .error (line, "Bad function name")
      else return (.simple line p.assignments p.words p.redirects, rest)
  | _, _ => return (.simple line p.assignments p.words p.redirects, rest)

/-! ### Compound commands -/

/-- Reads the parts of a branch after its first word or a later condition. -/
def branchFrom (list : Reader Command) : Nat → Reader Command
  | 0, ts => unexpected "fi" ts
  | count + 1, ts => do
      let (condition, ts) ← list ts
      let ((), ts) ← expect "then" ts
      let (yes, ts) ← list ts
      match keyword? ts with
      | some "elif" => do
          let (no, ts) ← branchFrom list count (ts.drop 1)
          return (.branch condition yes (some no), ts)
      | some "else" => do
          let (no, ts) ← list (ts.drop 1)
          let ((), ts) ← expect "fi" ts
          return (.branch condition yes (some no), ts)
      | _ => do
          let ((), ts) ← expect "fi" ts
          return (.branch condition yes none, ts)

/-- Reads words up to the end of a line or to a semicolon, at most `count` of them. -/
def wordsToEnd : Nat → Reader (List Word)
  | 0, ts => unexpected "" ts
  | count + 1, ts =>
      match ts with
      | ⟨.word pieces, _⟩ :: rest => do
          let (words, rest) ← wordsToEnd count rest
          return (pieces :: words, rest)
      | ⟨.newline, _⟩ :: rest => .ok ([], rest)
      | ts => if sign? ts = some ";" then .ok ([], ts.drop 1) else unexpected "" ts

/-- Reads what stands after the word `for`. -/
def forEachFrom (list : Reader Command) : Reader Command := fun ts =>
  let line := (ts.head?.map Token.line).getD 0
  match (keyword? ts).filter Piece.isName with
  | none => .error (line, "Bad for loop variable")
  | some name => do
      let rest := skipNewlines (ts.drop 1)
      let (words, rest) ←
        if keyword? rest = some "in" then do
          let (words, rest) ← wordsToEnd (rest.length + 1) (rest.drop 1)
          Except.ok (some words, rest)
        else Except.ok (none, if sign? rest = some ";" then rest.drop 1 else rest)
      let ((), rest) ← expect "do" (skipNewlines rest)
      let (body, rest) ← list rest
      let ((), rest) ← expect "done" rest
      return (.forEach name words body, rest)

/-- Reads the patterns of an arm and the parenthesis after them, at most `count` of them. -/
def patterns : Nat → Reader (List Word)
  | 0, ts => unexpected ")" ts
  | count + 1, ts =>
      match ts with
      | ⟨.word pieces, _⟩ :: rest =>
          if sign? rest = some "|" then do
            let (more, rest) ← patterns count (rest.drop 1)
            return (pieces :: more, rest)
          else do
            let ((), rest) ← expect ")" rest
            return ([pieces], rest)
      | ts => unexpected "" ts

/-- Reads arms up to the word that ends them, at most `count` of them. -/
def arms (lines : Reader (Option Command)) : Nat → Reader (List (List Word × Option Command))
  | 0, ts => unexpected "esac" ts
  | count + 1, ts => do
      let ts := skipNewlines ts
      if keyword? ts = some "esac" then return ([], ts.drop 1)
      else
        let ts := if sign? ts = some "(" then ts.drop 1 else ts
        let (ps, ts) ← patterns (ts.length + 1) ts
        let (body, ts) ← lines ts
        if sign? ts = some ";;" then do
          let (more, ts) ← arms lines count (ts.drop 1)
          return ((ps, body) :: more, ts)
        else do
          let ((), ts) ← expect "esac" ts
          return ([(ps, body)], ts)

/-- Reads what stands after the word `case`. -/
def choiceFrom (lines : Reader (Option Command)) : Reader Command := fun ts =>
  match ts with
  | ⟨.word subject, _⟩ :: rest => do
      let ((), rest) ← expect "in" (skipNewlines rest)
      let (all, rest) ← arms lines (rest.length + 1) rest
      return (.choice subject all, rest)
  | ts => unexpected "" ts

/-- Reads a command. `list` reads commands that are not empty up to a word or sign that ends them,
`lines` reads them also if there are none, and `command` reads one command. -/
def commandWith (list : Reader Command) (lines : Reader (Option Command))
    (command : Reader Command) : Reader Command := fun ts =>
  let compound : Option (Except Fault (Command × List Token)) := match keyword? ts, sign? ts with
    | some "if", _ => some (branchFrom list (ts.length + 1) (ts.drop 1))
    | some "while", _ | some "until", _ => some do
        let (condition, rest) ← list (ts.drop 1)
        let ((), rest) ← expect "do" rest
        let (body, rest) ← list rest
        let ((), rest) ← expect "done" rest
        return (.loop (keyword? ts = some "until") condition body, rest)
    | some "for", _ => some (forEachFrom list (ts.drop 1))
    | some "case", _ => some (choiceFrom lines (ts.drop 1))
    | some "\x7b", _ => some do
        let (body, rest) ← list (ts.drop 1)
        let ((), rest) ← expect "\x7d" rest
        return (body, rest)
    | _, some "(" => some do
        let (body, rest) ← list (ts.drop 1)
        let ((), rest) ← expect ")" rest
        return (.subshell body, rest)
    | _, _ => none
  match compound with
  | some reading => do
      let (c, rest) ← reading
      let (rs, rest) ← redirects (rest.length + 1) rest
      return (if rs.isEmpty then c else .redirected c rs, rest)
  | none =>
      if atEnd ts || (keyword? ts).any fun s => s = "in" || s = "!" then unexpected "" ts
      else match ts with
        | ⟨.word _, _⟩ :: _ => simpleOrDefine command ts
        | ts => if (redirect? ts).isSome then simpleOrDefine command ts else unexpected "" ts

/-! ### Lists of commands -/

/-- Reads commands that a sign joins, each after the first one, at most `count` of them. -/
def joined (sign : String) (command : Reader Command) : Nat → Reader (List Command)
  | 0, ts => .ok ([], ts)
  | count + 1, ts =>
      if sign? ts = some sign then do
        let (c, ts) ← command (skipNewlines (ts.drop 1))
        let (cs, ts) ← joined sign command count ts
        return (c :: cs, ts)
      else .ok ([], ts)

def pipelineWith (command : Reader Command) : Reader Command := fun ts => do
  let negated := keyword? ts = some "!"
  let (first, ts) ← command (if negated then ts.drop 1 else ts)
  let (more, ts) ← joined "|" command (ts.length + 1) ts
  let c := if more.isEmpty then first else .pipeline (first :: more)
  return (if negated then .negation c else c, ts)

/-- Reads the pipelines that depend on the one before, at most `count` of them. -/
def dependent (pipeline : Reader Command) : Nat → Command → Reader Command
  | 0, c, ts => .ok (c, ts)
  | count + 1, c, ts =>
      match sign? ts with
      | some "&&" => do
          let (d, ts) ← pipeline (skipNewlines (ts.drop 1))
          dependent pipeline count (.both c d) ts
      | some "||" => do
          let (d, ts) ← pipeline (skipNewlines (ts.drop 1))
          dependent pipeline count (.either c d) ts
      | _ => .ok (c, ts)

/-- Reads a command and those that depend on it. -/
def andOr (command : Reader Command) : Reader Command := fun ts => do
  let (c, ts) ← pipelineWith command ts
  dependent (pipelineWith command) (ts.length + 1) c ts

def after (before : Option Command) (c : Command) : Command :=
  match before with
  | none => c
  | some b => .sequence b c

/-- Reads commands one after the other, at most `count` of them: all up to a word or a sign that
ends them, or those of a single line. -/
def many (oneLine : Bool) (command : Reader Command) :
    Nat → Option Command → Reader (Option Command)
  | 0, before, ts => .ok (before, ts)
  | count + 1, before, ts =>
      let ts := if oneLine then ts else skipNewlines ts
      match ts with
      | [] => .ok (before, [])
      | ⟨.newline, _⟩ :: rest => .ok (before, rest)
      | ts =>
          if atEnd ts && (!oneLine || before.isSome) then .ok (before, ts)
          else do
            let (c, rest) ← andOr command ts
            match sign? rest with
            | some "&" => many oneLine command count (some (after before (.background c))) (rest.drop 1)
            | some ";" => many oneLine command count (some (after before c)) (rest.drop 1)
            | _ =>
                match rest with
                | [] => .ok (some (after before c), [])
                | ⟨.newline, _⟩ :: _ => many oneLine command count (some (after before c)) rest
                | rest =>
                    if oneLine then unexpected "" rest else .ok (some (after before c), rest)

/-- Reads commands that are not empty, up to a word or a sign that ends them. -/
def listWith (command : Reader Command) : Reader Command := fun ts => do
  match ← many false command (ts.length + 1) none ts with
  | (some c, rest) => return (c, rest)
  | (none, rest) => unexpected "" rest

/-- Reads a command with at most `depth` others around each other. -/
def command : Nat → Reader Command
  | 0 => unexpected ""
  | depth + 1 =>
      commandWith (listWith (command depth))
        (fun ts => many false (command depth) (ts.length + 1) none ts) (command depth)

/-- How many commands may be around each other. -/
def depthLimit : Nat := 200

/-- Reads the commands of a line. A line without commands gives none. -/
def line : Reader (Option Command) := fun ts => do
  let (c, rest) ← many true (command depthLimit) (ts.length + 1) none ts
  if atEnd rest && !rest.isEmpty then unexpected "" rest
  else return (c, rest)

end Command

end ReviewChannel.Process.Shell
