/-!
Words of a shell's language: pieces of text, quoted or not, and what is put in their place when the
word is expanded. Quotes and backslashes are gone once a word is read; what they protected is
marked.

* `Piece.read` reads the pieces of a word, of a text in double quotes, or of a document.
-/

namespace ReviewChannel.Process.Shell

/-- What is asked of a parameter. -/
inductive Operation where
  | value
  | length
  /-- Another text if there is no value. -/
  | default
  /-- Another value if there is none, for good. -/
  | assign
  /-- A failure if there is no value. -/
  | demand
  /-- Another text if there is a value. -/
  | alternative
  /-- The value without what a pattern matches at one of its ends. -/
  | trim (fromEnd longest : Bool)
  | unknown
deriving DecidableEq, Repr

inductive Piece where
  | text (text : String) (quoted : Bool)
  /-- A parameter. With a colon, an empty value counts as none. -/
  | parameter (name : String) (op : Operation) (colon : Bool) (word : List Piece) (quoted : Bool)
  /-- What a command writes. -/
  | command (source : String) (quoted : Bool)
  /-- The value of an expression. -/
  | arithmetic (expression : List Piece) (quoted : Bool)
deriving Repr, Inhabited

/-- A word: its pieces. -/
abbrev Word := List Piece

namespace Piece

/-- Where pieces stand: what ends them, and what has a meaning among them. -/
inductive Context where
  | word
  | double
  /-- In double quotes in the braces of a parameter. -/
  | innerDouble
  /-- After the sign in the braces of a parameter. -/
  | brace
  /-- The same inside double quotes. -/
  | doubleBrace
  /-- A document, or an expression, up to its end. -/
  | document
deriving DecidableEq, Repr

namespace Context

/-- Whether all that stands here is protected. -/
def isQuoted : Context → Bool
  | word | brace => false
  | double | innerDouble | doubleBrace | document => true

def endsAt : Context → Char → Bool
  | word, c => " \t\n;&|<>()".toList.contains c
  | double, c | innerDouble, c => c = '"'
  | brace, c | doubleBrace, c => c = '\x7d'
  | document, _ => false

def isPlain (context : Context) (c : Char) : Bool :=
  !context.endsAt c && c != '\\' && c != '$' && c != '`' &&
    (c != '"' || context = .document) && (c != '\'' || context.isQuoted)

/-- Whether a backslash before the character only protects it. -/
def escapes (context : Context) (c : Char) : Bool :=
  match context with
  | word | brace => true
  | double => c = '$' || c = '`' || c = '\\' || c = '"'
  | innerDouble | doubleBrace => c = '$' || c = '`' || c = '\\' || c = '"' || c = '\x7d'
  | document => c = '$' || c = '`' || c = '\\'

def doubleInside : Context → Context
  | brace | doubleBrace | innerDouble => innerDouble
  | word | double | document => double

/-- What is said if the end does not come. -/
def fault : Context → String
  | word | document => ""
  | double | innerDouble => "Unterminated quoted string"
  | brace | doubleBrace => "Missing '\x7d'"

end Context

/-- Adds a piece in front. Texts that are protected in the same way become one. -/
def cons : Piece → List Piece → List Piece
  | text s quoted, text t quoted' :: rest =>
      if quoted = quoted' then text (s ++ t) quoted :: rest else text s quoted :: text t quoted' :: rest
  | p, rest => p :: rest

/-! ### Names -/

def startsName (c : Char) : Bool :=
  c.isAlpha || c = '_'

def inName (c : Char) : Bool :=
  c.isAlphanum || c = '_'

def isName (s : String) : Bool :=
  s.toList.head?.any startsName && s.toList.all inName

/-- The characters that are parameters by themselves. -/
def specials : List Char :=
  "@*#?-$!".toList

/-- The parameter in front: a name, digits if `many`, or a single character. -/
def parameterName? (many : Bool) (cs : List Char) : Option (String × List Char) :=
  match cs with
  | [] => none
  | c :: rest =>
      if startsName c then some (String.ofList (cs.takeWhile inName), cs.dropWhile inName)
      else if c.isDigit then
        if many then some (String.ofList (cs.takeWhile Char.isDigit), cs.dropWhile Char.isDigit)
        else some (String.ofList [c], rest)
      else if specials.contains c then some (String.ofList [c], rest)
      else none

/-! ### Commands and expressions in a word -/

/-- What stands before a single quote, and what follows the quote. -/
def single? (cs : List Char) : Option (List Char × List Char) :=
  match cs.dropWhile (· != '\'') with
  | _ :: rest => some (cs.takeWhile (· != '\''), rest)
  | [] => none

/-- What stands before the closing character, and what follows it. Quotes and parentheses inside are
passed as a whole. -/
def enclosed? (closing : Char) : Nat → List Char → Option (List Char × List Char)
  | 0, _ => none
  | _, [] => none
  | count + 1, c :: cs =>
      let after (front : List Char) (rest : List Char) : Option (List Char × List Char) :=
        (enclosed? closing count rest).map fun (inner, rest) => (front ++ inner, rest)
      if c = closing then some ([], cs)
      else match c, cs with
        | '\\', d :: rest => after ['\\', d] rest
        | '\'', rest =>
            if closing = ')' then do
              let (inner, rest) ← single? rest
              after ('\'' :: inner ++ ['\'']) rest
            else after ['\''] rest
        | '"', rest =>
            if closing = ')' then do
              let (inner, rest) ← enclosed? '"' count rest
              after ('"' :: inner ++ ['"']) rest
            else after ['"'] rest
        | '$', '(' :: rest => do
            let (inner, rest) ← enclosed? ')' count rest
            after ('$' :: '(' :: inner ++ [')']) rest
        | '(', rest =>
            if closing = ')' then do
              let (inner, rest) ← enclosed? ')' count rest
              after ('(' :: inner ++ [')']) rest
            else after ['('] rest
        | '`', rest => do
            let (inner, rest) ← enclosed? '`' count rest
            after ('`' :: inner ++ ['`']) rest
        | c, rest => after [c] rest

/-- What stands in double parentheses, and what follows them. A single one that closes nothing is a
character like others. -/
def expression? : Nat → Nat → List Char → Option (List Char × List Char)
  | 0, _, _ => none
  | _, _, [] => none
  | _, 0, ')' :: ')' :: rest => some ([], rest)
  | count + 1, depth, c :: rest =>
      let depth := if c = '(' then depth + 1 else if c = ')' then depth - 1 else depth
      (expression? count depth rest).map fun (inner, rest) => (c :: inner, rest)

/-- The source of a command between backquotes, without the backslashes that protect. -/
def withoutBackslashes (inDouble : Bool) : List Char → List Char
  | '\\' :: c :: rest =>
      if c = '$' || c = '`' || c = '\\' || (inDouble && c = '"') then
        c :: withoutBackslashes inDouble rest
      else '\\' :: c :: withoutBackslashes inDouble rest
  | c :: rest => c :: withoutBackslashes inDouble rest
  | [] => []

/-! ### Reading -/

/-- The pieces between double quotes. The quotes count by themselves, except around all
arguments. -/
def inQuotes (ps : List Piece) : List Piece :=
  match ps with
  | [.parameter "@" .value _ _ _] => ps
  | ps => text "" true :: ps ++ [text "" true]

/-- What is asked of a parameter by the sign after its name, whether a colon stands there, and what
follows. -/
def operation (cs : List Char) : Operation × Bool × List Char :=
  match cs with
  | '\x7d' :: _ => (.value, false, cs)
  | ':' :: '-' :: rest => (.default, true, rest)
  | ':' :: '=' :: rest => (.assign, true, rest)
  | ':' :: '?' :: rest => (.demand, true, rest)
  | ':' :: '+' :: rest => (.alternative, true, rest)
  | '-' :: rest => (.default, false, rest)
  | '=' :: rest => (.assign, false, rest)
  | '?' :: rest => (.demand, false, rest)
  | '+' :: rest => (.alternative, false, rest)
  | '%' :: '%' :: rest => (.trim true true, false, rest)
  | '%' :: rest => (.trim true false, false, rest)
  | '#' :: '#' :: rest => (.trim false true, false, rest)
  | '#' :: rest => (.trim false false, false, rest)
  | cs => (.unknown, false, cs)

/-- Pieces that were read, and the characters after them. -/
abbrev Reading := Except String (List Piece × List Char)

def braced (read : Context → List Char → Reading) (context : Context) (cs : List Char) :
    Except String (Piece × List Char) :=
  let quoted := context.isQuoted
  let whole (name : String) (cs : List Char) : Except String (Piece × List Char) := do
    let (op, colon, rest) := operation cs
    let isTrim := match op with
      | .trim .. => true
      | _ => false
    let (word, rest) ← read (if quoted && !isTrim then .doubleBrace else .brace) rest
    return (.parameter name op colon word quoted, rest)
  let length? : Option (Piece × List Char) := match cs with
    | '#' :: rest =>
        match parameterName? true rest with
        | some (name, '\x7d' :: rest) => some (.parameter name .length false [] quoted, rest)
        | none =>
            match rest with
            | c :: '\x7d' :: rest =>
                if c = '\x7d' then none else some (.parameter "" .unknown false [] quoted, rest)
            | _ => none
        | _ => none
    | _ => none
  match length? with
  | some found => .ok found
  | none =>
      match parameterName? true cs with
      | some (name, rest) => whole name rest
      | none => do
          let (_, rest) ← read (if quoted then .doubleBrace else .brace) cs
          return (.parameter "" .unknown false [] quoted, rest)

/-- What a dollar sign puts into a word. -/
def dollar (read : Context → List Char → Reading) (context : Context) (cs : List Char) :
    Except String (Piece × List Char) :=
  let quoted := context.isQuoted
  let command (cs : List Char) : Except String (Piece × List Char) :=
    match enclosed? ')' (cs.length + 1) cs with
    | some (source, rest) => .ok (.command (String.ofList source) quoted, rest)
    | none => .error "end of file unexpected (expecting \")\")"
  match cs with
  | '(' :: '(' :: rest =>
      match expression? (rest.length + 1) 0 rest with
      | some (inner, rest) => do
          let (pieces, _) ← read .document inner
          return (.arithmetic pieces quoted, rest)
      | none => .error "Missing '))'"
  | '(' :: rest => command rest
  | '\x7b' :: rest => braced read context rest
  | cs =>
      match parameterName? false cs with
      | some (name, rest) => .ok (.parameter name .value false [] quoted, rest)
      | none => .ok (.text "$" quoted, cs)

/-- Reads pieces up to their end, at most `count` of them. -/
def read : Nat → Context → List Char → Reading
  | 0, context, _ => .error context.fault
  | _, context, [] =>
      if context = .word || context = .document then .ok ([], []) else .error context.fault
  | count + 1, context, c :: rest =>
      let quoted := context.isQuoted
      let go (p : Piece) (rest : List Char) : Reading := do
        let (ps, rest) ← read count context rest
        return (cons p ps, rest)
      if context.endsAt c then .ok ([], if context = .word then c :: rest else rest)
      else if context.isPlain c then
        let run := (c :: rest).takeWhile context.isPlain
        go (.text (String.ofList run) quoted) ((c :: rest).drop run.length)
      else if c = '\\' then
        match rest with
        | [] => go (.text "\\" true) []
        | '\n' :: rest => read count context rest
        | d :: rest =>
            if context.escapes d then go (.text (String.ofList [d]) true) rest
            else go (.text (String.ofList ['\\', d]) quoted) rest
      else if c = '\'' then
        match single? rest with
        | some (inner, rest) => go (.text (String.ofList inner) true) rest
        | none => .error "Unterminated quoted string"
      else if c = '"' then do
        let (inner, rest) ← read count context.doubleInside rest
        let (ps, rest) ← read count context rest
        return ((inQuotes inner).foldr cons ps, rest)
      else if c = '`' then
        match enclosed? '`' (rest.length + 1) rest with
        | some (source, rest) =>
            let inDouble := context = .double || context = .innerDouble || context = .doubleBrace
            go (.command (String.ofList (withoutBackslashes inDouble source)) quoted) rest
        | none => .error "EOF in backquote substitution"
      else do
        let (p, rest) ← dollar (read count) context rest
        go p rest

/-! ### Texts -/

/-- The text of a word of which nothing is protected and nothing is to be put in. -/
def plain? : Word → Option String
  | [.text s false] => some s
  | _ => none

def isQuoted : Piece → Bool
  | .text _ quoted | .parameter _ _ _ _ quoted | .command _ quoted | .arithmetic _ quoted => quoted

def spelling : Piece → String
  | .text s _ => s
  | .parameter name .. => "$" ++ name
  | .command source _ => "$(" ++ source ++ ")"
  | .arithmetic .. => "$(())"

end Piece

end ReviewChannel.Process.Shell
