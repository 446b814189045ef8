import ReviewChannel.Toml.Entries
import ReviewChannel.Toml.Moment
import ReviewChannel.Toml.Number
import ReviewChannel.Toml.Text

/-!
Reading TOML keys and values. Arrays and tables between braces may be nested to a limit, and a
dotted key has a greatest number of parts.
-/

namespace ReviewChannel.Toml

/-- How deep arrays and tables between braces may be nested. -/
def nestingLimit : Nat := 80

def partLimit : Nat := 80

/-! ### Keys -/

/-- A character of a key without quotes. -/
def isBare (c : Char) : Bool :=
  c.isAlphanum || c == '-' || c == '_'

def keyPart (cs : List Char) : Option (String × List Char) :=
  match cs with
  | '"' :: rest => Text.line '"' rest
  | '\'' :: rest => Text.line '\'' rest
  | cs =>
      let part := cs.takeWhile isBare
      if part.isEmpty then none else some (String.ofList part, cs.dropWhile isBare)

/-- A key of at most `parts` parts, with blanks around its dots, and what follows it and the blanks
after it. -/
def keyParts : Nat → List Char → Option (List String × List Char)
  | 0, _ => none
  | parts + 1, cs => do
      let (part, cs) ← keyPart (skipBlanks cs)
      match skipBlanks cs with
      | '.' :: rest =>
          let (more, rest) ← keyParts parts rest
          return (part :: more, rest)
      | rest => return ([part], rest)

/-- A key, and what follows it and the blanks after it. -/
def key (cs : List Char) : Option (List String × List Char) :=
  keyParts partLimit cs

/-! ### Values -/

/-- A reader of one value: the value, and what follows it. -/
abbrev ValueReader := List Char → Option (Value × List Char)

/-- A character that may stand in a number, a date or a word: none that blanks, line ends, comments
or other values are made of. -/
def isAtomic (c : Char) : Bool :=
  !(isSpace c || c == '\n' || c == '\r' || c == '#' || c == '=' || c == ',' || c == '[' ||
    c == ']' || c == '\x7b' || c == '\x7d')

/-- Whether an atom goes on with the characters. Quotes begin a text. -/
def goesOn : List Char → Bool
  | [] => false
  | c :: _ => isAtomic c && c != '"' && c != '\''

/-- The characters of a number, a date or a word, and what follows them. Blanks belong to it if it
goes on after them. -/
def atom : List Char → List Char × List Char
  | [] => ([], [])
  | c :: rest =>
      if isAtomic c || (isSpace c && goesOn (skipBlanks rest)) then
        let (front, after) := atom rest
        (c :: front, after)
      else ([], c :: rest)

def atomValue? (cs : List Char) : Option Value :=
  if cs = ['t', 'r', 'u', 'e'] then some (.boolean true)
  else if cs = ['f', 'a', 'l', 's', 'e'] then some (.boolean false)
  else if Moment.isWritten cs then some (.moment (String.ofList cs))
  else Number.read? cs

/-- The items of an array after its bracket, or after a comma. Each item takes at least one
character, so the number of characters bounds the number of items. -/
def items (value : ValueReader) : Nat → List Char → Option (List Value × List Char)
  | 0, _ => none
  | more + 1, cs => do
      match ← skipLines cs with
      | ']' :: rest => return ([], rest)
      | cs =>
          let (v, cs) ← value cs
          match ← skipLines cs with
          | ',' :: rest =>
              let (vs, rest) ← items value more rest
              return (v :: vs, rest)
          | ']' :: rest => return ([v], rest)
          | _ => none

/-- The entries of a table between braces, after its brace or after a comma, added to those before
them. Line ends and comments may stand between all tokens. -/
def pairs (value : ValueReader) : Nat → Entries → List Char → Option (Entries × List Char)
  | 0, _, _ => none
  | more + 1, entries, cs => do
      match ← skipLines cs with
      | '\x7d' :: rest => return (entries, rest)
      | cs =>
          let (path, cs) ← key cs
          match ← skipLines cs with
          | '=' :: rest =>
              let (v, cs) ← value (← skipLines rest)
              let entries ← Entries.assign path v entries
              match ← skipLines cs with
              | ',' :: rest => pairs value more entries rest
              | '\x7d' :: rest => return (entries, rest)
              | _ => none
          | _ => none

/-- A value with at most `depth` arrays and tables around each other, and what follows it. -/
def value : Nat → ValueReader
  | _, '"' :: rest => (Text.anyText '"' rest).map fun (s, rest) => (.text s, rest)
  | _, '\'' :: rest => (Text.anyText '\'' rest).map fun (s, rest) => (.text s, rest)
  | depth + 1, '[' :: rest =>
      (items (value depth) (rest.length + 1) rest).map fun (vs, rest) => (.array .listed vs, rest)
  | depth + 1, '\x7b' :: rest =>
      (pairs (value depth) (rest.length + 1) [] rest).map fun (entries, rest) =>
        (.table .inline entries, rest)
  | _, cs =>
      let (front, after) := atom cs
      (atomValue? front).map (·, after)

end ReviewChannel.Toml
