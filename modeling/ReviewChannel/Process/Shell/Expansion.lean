import ReviewChannel.Process.Arithmetic
import ReviewChannel.Process.Pattern
import ReviewChannel.Process.Shell.Field
import ReviewChannel.Process.Shell.State

/-!
What words come to. Each piece gives runs of glyphs, which say what is protected and where fields
may be separated: only in unprotected values, and between the arguments of a shell.

* `fields` makes the fields of words, `text` a single text, `pattern` a pattern.
-/

namespace ReviewChannel.Process.Shell

def spellRuns (runs : List Run) : String :=
  Glyph.spell (runs.flatMap (·.glyphs))

/-! ### Values -/

def valueRun (quoted : Bool) (gs : List Glyph) : Run :=
  ⟨if quoted then .nothing else .separators, gs⟩

/-- What stands between the arguments, if several are one value. `apart` says that they are to
become fields. -/
def betweenArguments (s : State) (name : String) (apart quoted : Bool) : List Glyph :=
  let first : List Glyph := match s.valueOf? "IFS" with
    | none => Glyph.ofText quoted " "
    | some separators => (Glyph.ofText quoted separators).take 1
  if !apart then first
  else if quoted then (if name = "@" then [.stop] else first)
  else if (s.valueOf? "IFS").isSome then [.stop] else first

def argumentGlyphs (s : State) (name : String) (apart quoted : Bool) : List Glyph :=
  (betweenArguments s name apart quoted).intercalate (s.arguments.map (Glyph.ofText quoted))

/-- Glyphs without what a pattern matches at one of their ends. A match does not go over the end of
an argument. -/
def trimmed (fromEnd longest : Bool) (parts : List Pattern.Part) (gs : List Glyph) : List Glyph :=
  let untilStop (gs : List Glyph) : List Glyph := gs.takeWhile (· != .stop)
  let cuts := if fromEnd == longest then List.range ((untilStop gs).length + 1)
    else (List.range (gs.length + 1)).reverse
  let fits (n : Nat) : Bool :=
    let side := untilStop (if fromEnd then gs.drop n else gs.take n)
    Pattern.fits parts ((Glyph.marks side).map (·.1))
  match cuts.find? fits with
  | some n => if fromEnd then gs.take n else gs.drop n
  | none => gs

/-- The home of a user; that of the shell's own user if no name is given. -/
def homeOf? (s : State) (user : String) : Option String :=
  if user.isEmpty then s.valueOf? "HOME"
  else if user = "root" then some "/root"
  else none

/-- The runs of an unprotected text that begins where a tilde has a meaning. `atEnd` says that
nothing follows the text. -/
def tildeRuns (s : State) (separation : Separation) (atEnd : Bool) (text : String) : List Run :=
  let plain (cs : List Char) : Run := ⟨separation, cs.map .active⟩
  match text.toList with
  | '~' :: rest =>
      let user := rest.takeWhile (· != '/')
      let after := rest.drop user.length
      match (if after.isEmpty && !atEnd then none else homeOf? s (String.ofList user)) with
      | some home => [⟨.nothing, Glyph.ofText true home⟩, plain after]
      | none => [plain text.toList]
  | cs => [plain cs]

/-! ### Pieces -/

/-- Runs a command and gives what it writes. -/
abbrev Capture := String → Work String

def calculate (expression : String) : Work Int := do
  match Arithmetic.ofText expression with
  | .error text => abort s!"arithmetic expression: {text}: \"{expression}\""
  | .ok term =>
      let s ← get
      match Arithmetic.eval s.parameter? term [] with
      | .error text =>
          abort (if text.startsWith "Illegal" then text
            else s!"arithmetic expression: {text}: \"{expression}\"")
      | .ok (n, bindings) =>
          bindings.reverse.forM fun (name, value) => assign name value
          return n

/-- The runs of a parameter that has a value or not, as the sign after its name asks. `word` gives
the runs of the word after the sign, in fields or not; `apart` says whether fields are wanted. -/
def parameterRuns (name : String) (op : Operation) (colon quoted apart : Bool)
    (word : Bool → Work (List Run)) : Work (List Run) := do
  let s ← get
  let isAll := name = "@" || name = "*"
  let isCount := op = .length || op = .alternative
  let value? : Option (List Glyph) :=
    if isAll then some (argumentGlyphs s name (apart && !isCount) quoted)
    else (s.parameter? name).map (Glyph.ofText quoted)
  let isMissing := match value? with
    | none => true
    | some value => colon && value.isEmpty
  let recorded (gs : List Glyph) : List Run :=
    if quoted && name = "@" && !s.arguments.isEmpty then [⟨.arguments, gs⟩]
    else [valueRun quoted gs]
  let known : Work Unit :=
    if value?.isNone && s.has 'u' then abort s!"{name}: parameter not set" else pure ()
  match op with
  | .value => do
      known
      return match value? with
        | some value => recorded value
        | none => []
  | .length => do
      known
      return recorded (Glyph.ofText quoted (toString (value?.getD []).length))
  | .default => if isMissing then word apart else return recorded (value?.getD [])
  | .alternative => if isMissing then return recorded [] else word apart
  | .assign =>
      if isMissing then do
        if Piece.isName name then
          let value := spellRuns (← word false)
          assign name value
          return recorded (Glyph.ofText quoted value)
        else abort s!"{name}: bad variable name"
      else return recorded (value?.getD [])
  | .demand =>
      if isMissing then do
        let text := spellRuns (← word false)
        let usual := if colon then "parameter not set or null" else "parameter not set"
        abort s!"{name}: {if text.isEmpty then usual else text}"
      else return recorded (value?.getD [])
  | .trim fromEnd longest => do
      known
      match value? with
      | none => return []
      | some value =>
          let parts := Pattern.ofMarked (Glyph.marks ((← word false).flatMap (·.glyphs)))
          return recorded (trimmed fromEnd longest parts value)
  | .unknown => abort "Bad substitution"

mutual

/-- The runs of a piece, in fields or not. Unprotected text in the braces of a parameter is
separated like a value. -/
def pieceRuns (capture : Capture) (inBraces apart : Bool) : Piece → Work (List Run)
  | .text s quoted =>
      return if quoted then [⟨.nothing, if s.isEmpty then [.mark] else Glyph.ofText true s⟩]
        else [⟨if inBraces then .separators else .nothing, Glyph.ofText false s⟩]
  | .command source quoted => do
      return [valueRun quoted (Glyph.ofText quoted (← capture source))]
  | .arithmetic expression quoted => do
      let n ← calculate (spellRuns (← piecesRuns capture false false expression))
      return [valueRun quoted (Glyph.ofText quoted (toString n))]
  | .parameter name op colon word quoted =>
      let isPart := op = .default || op = .alternative
      parameterRuns name op colon quoted apart fun apart => do
        match word with
        | .text s false :: rest =>
            let front := tildeRuns (← get) (if isPart then .separators else .nothing) rest.isEmpty s
            return front ++ (← piecesRuns capture isPart apart rest)
        | word => piecesRuns capture isPart apart word

def piecesRuns (capture : Capture) (inBraces apart : Bool) : List Piece → Work (List Run)
  | [] => return []
  | p :: ps => do
      let runs ← pieceRuns capture inBraces apart p
      return runs ++ (← piecesRuns capture inBraces apart ps)

end

def wordRuns (capture : Capture) (apart : Bool) (w : Word) : Work (List Run) := do
  match w with
  | .text s false :: rest =>
      let front := tildeRuns (← get) .nothing rest.isEmpty s
      return front ++ (← piecesRuns capture false apart rest)
  | w => piecesRuns capture false apart w

/-! ### Words -/

def text (capture : Capture) (w : Word) : Work String := do
  return spellRuns (← wordRuns capture false w)

/-- The runs of an unprotected text in the value of an assignment, in which tildes have a meaning
after colons. -/
def assignedRuns (s : State) (atFront atEnd : Bool) (text : String) : List Run :=
  let parts := text.splitToList (· == ':')
  let runs := parts.mapIdx fun i part =>
    let isLast := i + 1 = parts.length
    if i = 0 && !atFront then [⟨.nothing, Glyph.ofText false part⟩]
    else tildeRuns s .nothing (atEnd || !isLast) part
  ([⟨.nothing, [.active ':']⟩] : List Run).intercalate runs

/-- The value of an assignment. A tilde after a colon is expanded too. -/
def assigned (capture : Capture) (w : Word) : Work String := do
  let runs ← w.mapIdxM fun i p => do
    match p with
    | .text s false => return assignedRuns (← get) (i = 0) (i + 1 = w.length) s
    | p => pieceRuns capture false false p
  return spellRuns runs.flatten

def pattern (capture : Capture) (w : Word) : Work (List Pattern.Part) := do
  return Pattern.ofMarked (Glyph.marks ((← wordRuns capture false w).flatMap (·.glyphs)))

/-- The fields of a word, with paths in place of patterns. -/
def wordFields (capture : Capture) (w : Word) : Work (List String) := do
  let runs ← wordRuns capture true w
  let s ← get
  return (fieldsOf s.separators none runs).flatMap fun gs =>
    if s.has 'f' then [Glyph.spell gs] else expandPath s.world (Glyph.marks gs)

def fields (capture : Capture) (ws : List Word) : Work (List String) := do
  return (← ws.mapM (wordFields capture)).flatten

/-! ### Words of commands -/

/-- Whether the words after those that a command begins with are values for variables, if they look
like that; `none` as long as the name of the command is not known. -/
def declares? (functions : List (String × Command)) : List String → Option Bool
  | [] => none
  | "command" :: rest =>
      match rest.filter fun word => word != "-p" && word != "--" && word != "command" with
      | [] => none
      | name :: _ => some (declaring.contains name)
  | name :: _ => some (declaring.contains name && (functions.lookup name).isNone)
where
  /-- The commands with such words. -/
  declaring : List String := ["export", "readonly", "local", "alias"]

/-- The words of a command, given those with which it begins. -/
def commandWords (capture : Capture) : List String → List Word → Work (List String)
  | given, [] => return given
  | given, w :: rest => do
      match declares? (← get).functions given with
      | some true =>
          let words ← match Command.assignment? w with
            | some (name, value) => do
                let value ← assigned capture value
                pure [name ++ "=" ++ value]
            | none => wordFields capture w
          commandWords capture (given ++ words) rest
      | _ => commandWords capture (given ++ (← wordFields capture w)) rest

end ReviewChannel.Process.Shell
