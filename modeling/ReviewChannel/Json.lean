/-!
JSON texts. A value is written on one line without blanks (`compact`), or over several lines with
two blanks for each level (`pretty`). Only quotes, backslashes and control characters below U+0020
are escaped; every other character stands for itself.
-/

namespace ReviewChannel

/-- A JSON value without numbers. -/
inductive Json where
  | null
  | boolean (b : Bool)
  | text (s : String)
  | array (items : List Json)
  | object (members : List (String × Json))
deriving Repr, Inhabited

namespace Json

/-! ### Texts -/

def hexDigit (n : Nat) : Char :=
  n.digitChar

/-- A character as it stands between quotes. -/
def escape (c : Char) : List Char :=
  if c = '"' then ['\\', '"']
  else if c = '\\' then ['\\', '\\']
  else if c = '\x08' then ['\\', 'b']
  else if c = '\x0c' then ['\\', 'f']
  else if c = '\n' then ['\\', 'n']
  else if c = '\r' then ['\\', 'r']
  else if c = '\t' then ['\\', 't']
  else if c.toNat < 0x20 then
    ['\\', 'u', '0', '0', hexDigit (c.toNat / 16), hexDigit (c.toNat % 16)]
  else [c]

def quoted (s : String) : List Char :=
  '"' :: s.toList.flatMap escape ++ ['"']

/-! ### Layout -/

/-- How the parts of arrays and objects are set apart. -/
structure Layout where
  /-- What stands before an item at a level. -/
  before : Nat → List Char
  /-- What stands between a name and its value. -/
  colon : List Char

/-- Everything on one line, without blanks. -/
def Layout.compact : Layout :=
  ⟨fun _ => [], [':']⟩

/-- Each item on a line of its own, two blanks further in for each level. -/
def Layout.pretty : Layout :=
  ⟨fun level => '\n' :: List.replicate (2 * level) ' ', [':', ' ']⟩

mutual

def layOut (l : Layout) (level : Nat) : Json → List Char
  | .null => ['n', 'u', 'l', 'l']
  | .boolean true => ['t', 'r', 'u', 'e']
  | .boolean false => ['f', 'a', 'l', 's', 'e']
  | .text s => quoted s
  | .array [] => ['[', ']']
  | .array (item :: rest) =>
      '[' :: l.before (level + 1) ++ layOut l (level + 1) item ++ layOutItems l (level + 1) rest ++
        l.before level ++ [']']
  | .object [] => ['\x7b', '\x7d']
  | .object ((name, v) :: rest) =>
      '\x7b' :: l.before (level + 1) ++ quoted name ++ l.colon ++ layOut l (level + 1) v ++
        layOutMembers l (level + 1) rest ++ l.before level ++ ['\x7d']

def layOutItems (l : Layout) (level : Nat) : List Json → List Char
  | [] => []
  | item :: rest => ',' :: l.before level ++ layOut l level item ++ layOutItems l level rest

def layOutMembers (l : Layout) (level : Nat) : List (String × Json) → List Char
  | [] => []
  | (name, v) :: rest =>
      ',' :: l.before level ++ quoted name ++ l.colon ++ layOut l level v ++
        layOutMembers l level rest

end

def compact (v : Json) : String :=
  String.ofList (layOut .compact 0 v)

/-- The value over several lines. -/
def pretty (v : Json) : String :=
  String.ofList (layOut .pretty 0 v)

end Json

end ReviewChannel
