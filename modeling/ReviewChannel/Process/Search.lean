import ReviewChannel.Process.Filter
import ReviewChannel.Process.Regex

/-!
Programs with regular expressions: `grep`, `sed` and `expr`.
-/

namespace ReviewChannel.Process.Programs

/-! ### Lines that match -/

/-- Whether a character belongs to a word of a text. -/
def isWordChar (c : Char) : Bool :=
  c.isAlphanum || c = '_'

/-- Whether a match is a whole word, or a whole line, as it is asked for. -/
def isWhole (g : Given) (text : List Char) (m : Regex.Match) : Bool :=
  if g.has 'x' then m.start = 0 && m.stop = text.length
  else if g.has 'w' then
    let before := if m.start = 0 then none else text[m.start - 1]?
    !(before.any isWordChar) && !(text[m.stop]?.any isWordChar)
  else true

/-- The matches of the expressions in a line, one after the other, at most `count` of them. -/
def matchesFrom (mode : Regex.Mode) (rs : List Regex) (line : List Char) :
    Nat → Nat → List Regex.Match
  | 0, _ => []
  | count + 1, position =>
      let found := rs.filterMap fun r => Regex.findFrom mode r position (line.drop position)
      match found.foldl (fun best m => match best with
          | some b => if m.start < b.start || (m.start = b.start && b.stop < m.stop) then some m else best
          | none => some m) (none : Option Regex.Match) with
      | none => []
      | some m =>
          let next := if m.stop = m.start then m.stop + 1 else m.stop
          if line.length < m.start then []
          else m :: matchesFrom mode rs line count next

/-- The matches of the expressions in a line that count. -/
def matchesIn (g : Given) (mode : Regex.Mode) (rs : List Regex) (line : String) :
    List Regex.Match :=
  (matchesFrom mode rs line.toList (line.length + 1) 0).filter (isWhole g line.toList)

/-- The lines in which the expressions match, or do not match, each with its index. -/
def hitsIn (g : Given) (mode : Regex.Mode) (rs : List Regex) (lines : List String) :
    List (String × Nat) :=
  let hits := lines.zipIdx.filter fun (l : String × Nat) =>
    (matchesIn g mode rs l.1).isEmpty == g.has 'v'
  match (g.value? 'm').bind String.toNat? with
  | some n => hits.take n
  | none => hits

def rowsOf (g : Given) (mode : Regex.Mode) (rs : List Regex) (front : String) (line : String)
    (index : Nat) : List String :=
  let front := if g.has 'n' then s!"{front}{index + 1}:" else front
  if g.has 'o' then
    if g.has 'v' then []
    else ((matchesIn g mode rs line).filter fun m => m.start < m.stop).map fun m =>
      front ++ String.ofList ((line.toList.take m.stop).drop m.start)
  else [front ++ line]

/-- Writes the lines of files that match. -/
def grep (program : String) : Plain :=
  withOptions program
    { plain := "EFGivnclLqsxwohHar", valued := "emABC"
      long := [("quiet", 'q'), ("silent", 'q'), ("ignore-case", 'i'), ("invert-match", 'v'),
        ("line-number", 'n'), ("count", 'c'), ("files-with-matches", 'l'), ("fixed-strings", 'F'),
        ("extended-regexp", 'E'), ("word-regexp", 'w'), ("line-regexp", 'x'),
        ("only-matching", 'o'), ("no-messages", 's'), ("regexp", 'e'), ("no-filename", 'h'),
        ("max-count", 'm')] } 2 fun g w =>
    let (patterns, paths) := match g.values 'e', g.operands with
      | [], pattern :: paths => ([pattern], paths)
      | patterns, paths => (patterns, paths)
    if patterns.isEmpty then
      (2, (w.complain s!"Usage: {program} [OPTION]... PATTERNS [FILE]...\n").complain
        s!"Try '{program} --help' for more information.\n")
    else
      let fixed := g.has 'F' || program = "fgrep"
      let extended := g.has 'E' || program = "egrep"
      let texts := patterns.flatMap fun p => p.splitToList (· == '\n')
      match texts.mapM fun p => if fixed then some (Regex.literal p) else Regex.parse? extended p with
      | none => (2, w.blame program "Unmatched [, [^, [:, [., or [=")
      | some rs =>
          let mode : Regex.Mode := { ignoreCase := g.has 'i' }
          let (files, good, after) := readFiles program paths w
          let w := if g.has 's' then { after with complained := w.complained } else after
          let named := (1 < paths.length || g.has 'H') && !g.has 'h'
          let results := files.map fun (path, cs) =>
            (path, hitsIn g mode rs (linesOfText cs).lines)
          let text := results.map fun (path, hits) =>
            let front := if named then (if path = "-" then "(standard input)" else path) ++ ":" else ""
            if g.has 'l' then if hits.isEmpty then "" else path ++ "\n"
            else if g.has 'L' then if hits.isEmpty then path ++ "\n" else ""
            else if g.has 'c' then s!"{front}{hits.length}\n"
            else unlines (hits.flatMap fun (line, index) => rowsOf g mode rs front line index)
          let found := results.any fun (_, hits) => !hits.isEmpty
          let status := if found then 0 else 1
          let status := if good then status else if g.has 'q' && found then 0 else 2
          if g.has 'q' then (status, w) else w.emit program (String.join text) status

/-! ### Expressions of words -/

/-- A value of an expression, which is a text and may be a number, and the words after it; or what
is wrong with the expression. -/
abbrev ExprResult := Except String (String × List String)

def isNull (value : String) : Bool :=
  value.isEmpty || Condition.number? value = some 0

/-- What two values of an operator of numbers come to. -/
def exprArithmetic (op a b : String) : Except String String :=
  match Condition.number? a, Condition.number? b with
  | some m, some n =>
      match op with
      | "+" => .ok (toString (m + n))
      | "-" => .ok (toString (m - n))
      | "*" => .ok (toString (m * n))
      | "/" => if n = 0 then .error "division by zero" else .ok (toString (m.tdiv n))
      | _ => if n = 0 then .error "division by zero" else .ok (toString (m.tmod n))
  | _, _ => .error "non-integer argument"

/-- What a comparison of two values comes to: by number if both are, else by characters. -/
def exprCompare (op a b : String) : String :=
  let less (le : Bool) (swap : Bool) : Bool :=
    let (a, b) := if swap then (b, a) else (a, b)
    match Condition.number? a, Condition.number? b with
    | some m, some n => if le then m ≤ n else m < n
    | _, _ => if le then a ≤ b else a < b
  let same : Bool := match Condition.number? a, Condition.number? b with
    | some m, some n => m == n
    | _, _ => a == b
  let holds := match op with
    | "=" | "==" => same
    | "!=" => !same
    | "<" => less false false
    | "<=" => less true false
    | ">" => less false true
    | _ => less true true
  if holds then "1" else "0"

/-- What a match of a value with an expression from its start comes to: its first group, or its
length. -/
def exprMatch (value pattern : String) : Except String String :=
  match Regex.parse? false ("^" ++ pattern) with
  | none => .error "Unmatched ( or \\("
  | some r =>
      let hasGroup := (pattern.splitOn "\\(").length != 1
      match Regex.find? {} r value.toList with
      | some m =>
          if hasGroup then .ok (String.ofList ((m.groups.lookup 1).getD []))
          else .ok (toString (m.stop - m.start))
      | none => .ok (if hasGroup then "" else "0")

def exprOperators : List (List String) :=
  [["|"], ["&"], ["<", "<=", "=", "==", "!=", ">=", ">"], ["+", "-"], ["*", "/", "%"], [":"]]

/-- What an operator makes of two values. -/
def exprApply (op a b : String) : Except String String :=
  match op with
  | "|" => .ok (if isNull a then (if isNull b then "0" else b) else a)
  | "&" => .ok (if isNull a || isNull b then "0" else a)
  | ":" => exprMatch a b
  | _ =>
      if ["+", "-", "*", "/", "%"].contains op then exprArithmetic op a b
      else .ok (exprCompare op a b)

/-- The value at the front of the words. -/
def exprPrimary (whole : List String → ExprResult) (words : List String) : ExprResult :=
  match words with
  | "(" :: rest => do
      let (value, rest) ← whole rest
      match rest with
      | ")" :: rest => return (value, rest)
      | _ => .error "syntax error: expecting ')'"
  | "length" :: word :: rest => .ok (toString word.length, rest)
  | "substr" :: word :: position :: count :: rest =>
      match Condition.number? position, Condition.number? count with
      | some p, some n =>
          if p < 1 || n < 1 then .ok ("", rest)
          else .ok (String.ofList ((word.toList.drop (p.toNat - 1)).take n.toNat), rest)
      | _, _ => .ok ("", rest)
  | "index" :: word :: chars :: rest =>
      match word.toList.findIdx? chars.toList.contains with
      | some i => .ok (toString (i + 1), rest)
      | none => .ok ("0", rest)
  | "match" :: word :: pattern :: rest => do
      let value ← exprMatch word pattern
      return (value, rest)
  | "+" :: word :: rest => .ok (word, rest)
  | word :: rest => .ok (word, rest)
  | [] => .error "syntax error: missing argument"

/-- The values that operators of a level join, from the left. There are at most `count` of them. -/
def exprJoin (operand : List String → ExprResult) (operators : List String) :
    Nat → String → List String → ExprResult
  | 0, value, rest => .ok (value, rest)
  | count + 1, value, rest =>
      match rest with
      | op :: rest =>
          if operators.contains op then do
            let (other, rest) ← operand rest
            let value ← exprApply op value other
            exprJoin operand operators count value rest
          else .ok (value, op :: rest)
      | [] => .ok (value, [])

/-- The value of words with operators of some levels. -/
def exprLevels (whole : List String → ExprResult) : List (List String) → List String → ExprResult
  | [], words => exprPrimary whole words
  | operators :: more, words => do
      let (value, rest) ← exprLevels whole more words
      exprJoin (exprLevels whole more) operators words.length value rest

/-- The value of words with at most `depth` parentheses around each other. -/
def exprWhole : Nat → List String → ExprResult
  | 0, _ => .error "syntax error"
  | depth + 1, words => exprLevels (exprWhole depth) exprOperators words

/-- Writes the value of an expression. The status says whether it counts as nothing. -/
def expr : Plain := fun words w =>
  let words := if words.head? = some "--" then words.drop 1 else words
  if words.isEmpty then misused "expr" "missing operand" 2 w
  else match exprWhole (words.length + 1) words with
    | .error text => (2, w.blame "expr" text)
    | .ok (value, []) => w.emit "expr" (value ++ "\n") (if isNull value then 1 else 0)
    | .ok (_, word :: _) => (2, w.blame "expr" s!"syntax error: unexpected argument '{word}'")

end ReviewChannel.Process.Programs
