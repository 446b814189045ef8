import ReviewChannel.Process.World

/-!
Conditions: whether a file is there, how two numbers compare, whether two words are the same, and
what these come to together. A condition is a list of words, and what a word means depends on how
many there are: up to four words are read by their number, more of them by precedence.

* `Condition.holds` says whether a condition holds, or why it is none.
-/

namespace ReviewChannel.Process.Condition

/-! ### Numbers -/

def isSpace (c : Char) : Bool :=
  " \t\n\x0b\x0c\r".toList.contains c

/-- The number that a word spells, with a sign or without, and blanks around it. -/
def number? (word : String) : Option Int :=
  let cs := ((word.toList.dropWhile isSpace).reverse.dropWhile isSpace).reverse
  let digits (cs : List Char) : Option Nat :=
    if cs.isEmpty || !cs.all Char.isDigit then none
    else some (cs.foldl (fun n c => n * 10 + (c.toNat - '0'.toNat)) 0)
  match cs with
  | '-' :: rest => (digits rest).map fun n => -(n : Int)
  | '+' :: rest => (digits rest).map fun n => (n : Int)
  | cs => (digits cs).map fun n => (n : Int)

/-- The comparison of two numbers that a word names. -/
def comparison? (op : String) : Option (Int → Int → Bool) :=
  match op with
  | "-eq" => some (· == ·)
  | "-ne" => some (· != ·)
  | "-lt" => some (· < ·)
  | "-le" => some (· ≤ ·)
  | "-gt" => some (· > ·)
  | "-ge" => some (· ≥ ·)
  | _ => none

/-! ### Files -/

/-- What stands at the path, if anything does. -/
def standing? (w : World) (path : String) : Option Entry :=
  match w.status path with
  | .ok entry => some entry
  | .error _ => none

/-- Whether what stands at the path is of the kind that a letter names; `none` for no such
letter. -/
def fileTest? (w : World) (letter : Char) (path : String) : Option Bool :=
  let entry := standing? w path
  match letter with
  | 'e' | 'r' | 'w' | 'O' | 'G' => some entry.isSome
  | 'f' => some (entry.any fun e => (w.tree.content? e).isSome)
  | 'd' => some (entry == some .dir)
  | 'S' => some (entry.any fun e => match e with
      | .socket .. => true
      | _ => false)
  | 'c' => some (entry.any fun e => match e with
      | .device _ => true
      | _ => false)
  | 's' => some (entry.any fun e => match e with
      | .file number => !(w.tree.file number).content.isEmpty
      | .dir | .program _ => true
      | _ => false)
  | 'x' => some (entry.any fun e => match e with
      | .file number => (w.tree.file number).executable
      | .dir | .program _ => true
      | _ => false)
  | 'h' | 'L' =>
      match w.tree.linkStatus w.cwd (World.pathOf path) with
      | .ok (.symlink _) => some true
      | _ => some false
  | 'b' | 'p' | 'g' | 'u' | 'k' | 'N' => some false
  | _ => none

/-! ### Tests of one word or two -/

/-- A condition on the words in front: its value, and the words after them. -/
abbrev Partial := Except String (Bool × List String)

def single : List String → Partial
  | [] => .error "argument expected"
  | word :: rest => .ok (!word.isEmpty, rest)

/-- Whether a word is a test of one operand, if it is any. -/
def isSwitch (word : String) : Bool :=
  match word.toList with
  | ['-', _] => true
  | _ => false

def unary (w : World) : List String → Partial
  | op :: operand :: rest =>
      match op.toList with
      | ['-', 'n'] => .ok (!operand.isEmpty, rest)
      | ['-', 'z'] => .ok (operand.isEmpty, rest)
      | ['-', 't'] =>
          if (number? operand).isSome then .ok (false, rest)
          else .error s!"invalid integer '{operand}'"
      | ['-', letter] =>
          match fileTest? w letter operand with
          | some value => .ok (value, rest)
          | none => .error s!"'{op}': unary operator expected"
      | _ => .error s!"'{op}': unary operator expected"
  | words =>
      let last := words.headD ""
      .error s!"missing argument after '{last}'"

/-- Whether a word compares two operands. -/
def isBinary (op : String) : Bool :=
  (comparison? op).isSome || ["=", "==", "!=", "-nt", "-ot", "-ef"].contains op

def binary (w : World) (a op b : String) : Except String Bool :=
  match comparison? op with
  | some compare =>
      match number? a, number? b with
      | some m, some n => .ok (compare m n)
      | none, _ => .error s!"invalid integer '{a}'"
      | _, none => .error s!"invalid integer '{b}'"
  | none =>
      match op with
      | "-nt" => .ok ((standing? w a).isSome && (standing? w b).isNone)
      | "-ot" => .ok ((standing? w a).isNone && (standing? w b).isSome)
      | "-ef" => .ok ((standing? w a).isSome && standing? w a == standing? w b)
      | "!=" => .ok (a != b)
      | _ => .ok (a == b)

/-! ### Conditions by the number of their words -/

def ofTwo (w : World) : List String → Partial
  | "!" :: rest => do
      let (value, rest) ← single rest
      return (!value, rest)
  | words =>
      if isSwitch (words.headD "") then unary w words
      else
        let first := words.headD ""
        .error s!"missing argument after '{first}'"

def ofThree (w : World) (whole : List String → Partial) : List String → Partial
  | a :: op :: b :: rest =>
      if isBinary op then do return (← binary w a op b, rest)
      else if a = "!" then do
        let (value, rest) ← ofTwo w (op :: b :: rest)
        return (!value, rest)
      else if a = "(" && b = ")" then .ok (!op.isEmpty, rest)
      else if op = "-a" || op = "-o" then whole (a :: op :: b :: rest)
      else .error s!"'{op}': binary operator expected"
  | words => whole words

def ofWords (w : World) (whole : List String → Partial) (count : Nat) (words : List String) :
    Partial :=
  match count, words with
  | 1, words => single words
  | 2, words => ofTwo w words
  | 3, words => ofThree w whole words
  | 4, "!" :: rest => do
      let (value, rest) ← ofThree w whole rest
      return (!value, rest)
  | 4, "(" :: rest =>
      if rest[2]? = some ")" then do
        let (value, rest) ← ofTwo w rest
        return (value, rest.drop 1)
      else whole words
  | _, words => whole words

/-! ### Conditions by precedence -/

/-- How many words after an opening parenthesis count as one condition: those before the closing one
if they are few, or else all. -/
def wordsInside (words : List String) : Nat :=
  let count := 1 + ((words.drop 1).takeWhile (· != ")")).length
  if count ≤ 4 then count else words.length

/-- A single condition: one in parentheses, a test, or a word that is not empty. -/
def primary (w : World) (whole : List String → Partial) : List String → Partial
  | [] => .error "argument expected"
  | "(" :: rest =>
      if rest.isEmpty then .error "missing argument after '('"
      else do
        let (value, rest) ← ofWords w whole (wordsInside rest) rest
        match rest with
        | ")" :: rest => return (value, rest)
        | found :: _ => .error s!"')' expected, found '{found}'"
        | [] => .error "')' expected"
  | a :: op :: b :: rest =>
      if isBinary op then do return (← binary w a op b, rest)
      else if isSwitch a then unary w (a :: op :: b :: rest)
      else .ok (!a.isEmpty, op :: b :: rest)
  | a :: rest => if isSwitch a then unary w (a :: rest) else .ok (!a.isEmpty, rest)

/-- A single condition with exclamation marks before it. -/
def negation (w : World) (whole : List String → Partial) : List String → Partial
  | "!" :: rest => do
      let (value, rest) ← negation w whole rest
      return (!value, rest)
  | words => primary w whole words

/-- Conditions that must hold together, or of which one must hold. There are at most `count` of
them. -/
def compound (w : World) (whole : List String → Partial) (both : Bool) : Nat → List String → Partial
  | 0, _ => .error "too many arguments"
  | count + 1, words => do
      let (value, rest) ←
        if both then negation w whole words else compound w whole true count words
      match rest with
      | op :: rest =>
          if op = (if both then "-a" else "-o") then
            let (other, rest) ← compound w whole both count rest
            return (if both then value && other else value || other, rest)
          else return (value, op :: rest)
      | [] => return (value, [])

/-- A whole condition with at most `depth` parentheses around each other. -/
def whole (w : World) : Nat → List String → Partial
  | 0, _ => .error "too many arguments"
  | depth + 1, words => compound w (whole w depth) false (words.length + 2) words

def holds (w : World) (words : List String) : Except String Bool :=
  if words.isEmpty then .ok false
  else do
    let (value, rest) ← ofWords w (whole w (words.length + 1)) words.length words
    match rest with
    | [] => return value
    | word :: _ => .error s!"extra argument '{word}'"

end ReviewChannel.Process.Condition
