import ReviewChannel.Process.World

/-!
The words after the name of a program: options and operands. Options may stand between operands;
after a double dash every word is an operand.

* `Shape` says which options a program has.
* `Given.read` reads the words.
-/

namespace ReviewChannel.Process

/-- The options that a program has. -/
structure Shape where
  /-- The letters of options without a value. -/
  plain : String := ""
  /-- The letters of options with a value. -/
  valued : String := ""
  /-- The long names, each with the letter that it stands for. -/
  long : List (String × Char) := []
  /-- Whether the first operand ends the options. -/
  ordered : Bool := false

/-- Options and operands. -/
structure Given where
  options : List (Char × String) := []
  operands : List String := []

namespace Given

def has (letter : Char) (g : Given) : Bool :=
  g.options.any (·.1 == letter)

/-- The last value that was given to an option. -/
def value? (letter : Char) (g : Given) : Option String :=
  (g.options.reverse.find? (·.1 == letter)).map (·.2)

def values (letter : Char) (g : Given) : List String :=
  (g.options.filter (·.1 == letter)).map (·.2)

def add (letter : Char) (value : String) (g : Given) : Given :=
  { g with options := g.options ++ [(letter, value)] }

/-- Reads the letters of a word, and takes a value for the last one from the words after it. -/
def letters (s : Shape) (rest : List String) : List Char → Given →
    Except String (Given × List String)
  | [], g => .ok (g, rest)
  | c :: more, g =>
      if s.plain.toList.contains c then letters s rest more (g.add c "")
      else if s.valued.toList.contains c then
        match more, rest with
        | [], [] => .error s!"option requires an argument -- '{c}'"
        | [], value :: rest => .ok (g.add c value, rest)
        | more, rest => .ok (g.add c (String.ofList more), rest)
      else .error s!"invalid option -- '{c}'"

/-- Reads a long option. A beginning of its name is enough. -/
def long (s : Shape) (text : List Char) (rest : List String) (g : Given) :
    Except String (Given × List String) :=
  let name := String.ofList (text.takeWhile (· != '='))
  let value? := match text.dropWhile (· != '=') with
    | [] => none
    | _ :: value => some (String.ofList value)
  let option? := (s.long.find? (·.1 == name)) <|> (s.long.find? (·.1.startsWith name))
  match option? with
  | none => .error s!"unrecognized option '--{name}'"
  | some (name, letter) =>
      if s.valued.toList.contains letter then
        match value?, rest with
        | some value, rest => .ok (g.add letter value, rest)
        | none, value :: rest => .ok (g.add letter value, rest)
        | none, [] => .error s!"option '--{name}' requires an argument"
      else match value? with
        | some _ => .error s!"option '--{name}' doesn't allow an argument"
        | none => .ok (g.add letter "", rest)

def readFrom (s : Shape) : Nat → List String → Given → Except String Given
  | 0, _, g => .ok g
  | _, [], g => .ok g
  | count + 1, word :: rest, g =>
      match word.toList with
      | ['-', '-'] => .ok { g with operands := g.operands ++ rest }
      | '-' :: '-' :: text => do
          let (g, rest) ← long s text rest g
          readFrom s count rest g
      | '-' :: c :: more => do
          let (g, rest) ← letters s rest (c :: more) g
          readFrom s count rest g
      | _ =>
          if s.ordered then .ok { g with operands := g.operands ++ word :: rest }
          else readFrom s count rest { g with operands := g.operands ++ [word] }

/-- Reads the words after the name of a program. -/
def read (s : Shape) (words : List String) : Except String Given :=
  readFrom s words.length words {}

end Given

/-! ### Programs -/

/-- A program: what it does with the words after its name, and its status. -/
abbrev Plain := List String → World → Nat × World

/-- Says what went wrong in a program. -/
def World.blame (program text : String) (w : World) : World :=
  w.complain s!"{program}: {text}\n"

/-- Ends a program that was not used as it should be. -/
def misused (program text : String) (status : Nat) (w : World) : Nat × World :=
  (status, (w.blame program text).complain s!"Try '{program} --help' for more information.\n")

def withOptions (program : String) (s : Shape) (status : Nat) (run : Given → World → Nat × World) :
    Plain := fun words w =>
  match Given.read s words with
  | .error text => misused program text status w
  | .ok given => run given w

end ReviewChannel.Process
