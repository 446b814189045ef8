import ReviewChannel.Toml.Scan

/-!
TOML texts. A text is cut out of the document up to its closing quotes first, and what was cut out
is read then. Between double quotes a backslash escapes; between single quotes everything stands for
itself. Three quotes open a text that may go over several lines.
-/

namespace ReviewChannel.Toml.Text

/-! ### Cutting a text out -/

/-- The characters up to a closing quote on the same line, and what follows it. With `escapes`, a
character after a backslash does not close the text. -/
def cutLine (quote : Char) (escapes : Bool) : List Char → Option (List Char × List Char)
  | [] => none
  | c :: rest =>
      if c = quote then some ([], rest)
      else if c = '\n' then none
      else if escapes && c = '\\' then
        match rest with
        | [] => none
        | d :: rest => (cutLine quote escapes rest).map fun (cut, after) => (c :: d :: cut, after)
      else (cutLine quote escapes rest).map fun (cut, after) => (c :: cut, after)

/-- The quotes at the front that belong to the text before closing ones: two at most. -/
def extraQuotes (quote : Char) (cs : List Char) : Nat :=
  min 2 (cs.takeWhile (· == quote)).length

/-- The characters up to three closing quotes, and what follows them. -/
def cutBlock (quote : Char) (escapes : Bool) : List Char → Option (List Char × List Char)
  | [] => none
  | c :: rest =>
      if c = quote && rest.take 2 = [quote, quote] then
        let extra := extraQuotes quote (rest.drop 2)
        some (List.replicate extra quote, rest.drop (2 + extra))
      else if escapes && c = '\\' then
        match rest with
        | [] => none
        | d :: rest => (cutBlock quote escapes rest).map fun (cut, after) => (c :: d :: cut, after)
      else (cutBlock quote escapes rest).map fun (cut, after) => (c :: cut, after)

/-- The characters without a line end at the front. -/
def dropLineEnd : List Char → List Char
  | '\n' :: rest => rest
  | '\r' :: '\n' :: rest => rest
  | cs => cs

/-! ### Reading what was cut out -/

/-- Whether a text may hold the characters as they stand: no control character but tabs, and in a
text of several lines also line ends. -/
def areAllowed (lines : Bool) : List Char → Bool
  | [] => true
  | '\r' :: '\n' :: rest => lines && areAllowed lines rest
  | c :: rest => (!isControl c || (lines && c == '\n')) && areAllowed lines rest

/-- What the characters of an escaped text stand for, by where the reader is in it. -/
inductive Place where
  | plain
  /-- After a backslash. -/
  | escape
  /-- In the digits of a code point: how many are to come, and the value so far. -/
  | code (digits : Nat) (value : Nat)
  /-- After a backslash that hides a line end: whether the line end has been passed. -/
  | hidden (passed : Bool)
deriving DecidableEq, Repr

/-- The characters with a letter of their own after a backslash. -/
def letterEscape? : Char → Option Char
  | 'b' => some '\x08'
  | 't' => some '\t'
  | 'n' => some '\n'
  | 'f' => some '\x0c'
  | 'r' => some '\r'
  | 'e' => some '\x1b'
  | '"' => some '"'
  | '\\' => some '\\'
  | _ => none

/-- How many digits follow a letter that starts a code point. -/
def codeDigits? : Char → Option Nat
  | 'x' => some 2
  | 'u' => some 4
  | 'U' => some 8
  | _ => none

/-- The character of a code point, if it is one. -/
def scalar? (n : Nat) : Option Char :=
  if n.isValidChar then some (Char.ofNat n) else none

/-- Reads a character at a plain place: where the reader is then, and the character if it stands for
itself. -/
def plainStep (c : Char) : Place × List Char :=
  if c = '\\' then (.escape, []) else (.plain, [c])

/-- Reads one character. A backslash may hide a line end only in a text of several lines. -/
def step (lines : Bool) (place : Place) (c : Char) : Option (Place × List Char) :=
  match place with
  | .plain => some (plainStep c)
  | .escape =>
      match letterEscape? c with
      | some d => some (.plain, [d])
      | none =>
          match codeDigits? c with
          | some n => some (.code n 0, [])
          | none =>
              if lines && (isSpace c || c = '\r') then some (.hidden false, [])
              else if lines && c = '\n' then some (.hidden true, [])
              else none
  | .code digits value =>
      match hexValue? c with
      | none => none
      | some d =>
          if digits ≤ 1 then (scalar? (value * 16 + d)).map fun ch => (.plain, [ch])
          else some (.code (digits - 1) (value * 16 + d), [])
  | .hidden passed =>
      if c = '\n' then some (.hidden true, [])
      else if isSpace c || c = '\r' then some (.hidden passed, [])
      else if passed then some (plainStep c)
      else none

/-- Reads an escaped text from a place in it. -/
def unescapeFrom (lines : Bool) : Place → List Char → Option (List Char)
  | .plain, [] | .hidden true, [] => some []
  | _, [] => none
  | place, c :: rest =>
      match step lines place c with
      | none => none
      | some (place, read) => (unescapeFrom lines place rest).map (read ++ ·)

/-- The text that was cut out from between quotes. -/
def read (escapes lines : Bool) (cut : List Char) : Option String :=
  if areAllowed lines cut then
    if escapes then (unescapeFrom lines .plain cut).map String.ofList else some (String.ofList cut)
  else none

/-- A text on one line, after its opening quote, and what follows it. -/
def line (quote : Char) (cs : List Char) : Option (String × List Char) :=
  let escapes := quote = '"'
  match cutLine quote escapes cs with
  | none => none
  | some (cut, after) => (read escapes false cut).map (·, after)

/-- A text of several lines, after its three opening quotes, and what follows it. A line end right
after them does not count. -/
def block (quote : Char) (cs : List Char) : Option (String × List Char) :=
  let escapes := quote = '"'
  match cutBlock quote escapes (dropLineEnd cs) with
  | none => none
  | some (cut, after) => (read escapes true cut).map (·, after)

/-- A text, after its first quote, and what follows it. -/
def anyText (quote : Char) (cs : List Char) : Option (String × List Char) :=
  if cs.take 2 = [quote, quote] then block quote (cs.drop 2) else line quote cs

end ReviewChannel.Toml.Text
