import ReviewChannel.Process.Shell.Word

/-!
Tokens of a shell's language: words, the signs that join and redirect, and ends of lines. A document
that stands below its line becomes a token right after its sign.

* `Token.ofText` cuts a text into tokens.
-/

namespace ReviewChannel.Process.Shell

inductive Lexeme where
  | word (pieces : Word)
  /-- A number right before a redirection. -/
  | descriptor (number : Nat)
  | sign (text : String)
  /-- What a document holds, after its sign. -/
  | document (pieces : Word)
  | newline
  /-- What is wrong with the rest of the text. -/
  | fault (text : String)
deriving Repr, Inhabited

structure Token where
  lexeme : Lexeme
  line : Nat
deriving Repr, Inhabited

namespace Token

/-- The signs, a longer one before those with which it begins. -/
def signs : List String :=
  ["&&", "||", ";;", "<<-", "<<", "<&", "<>", ">>", ">&", ">|", "&", "|", ";", "(", ")", "<", ">"]

def sign? (cs : List Char) : Option (String × List Char) :=
  (signs.find? fun s => s.toList.isPrefixOf cs).map fun s => (s, cs.drop s.length)

def lineEnds (cs : List Char) : Nat :=
  cs.count '\n'

def firstLine (cs : List Char) : List Char × Option (List Char) :=
  match cs.dropWhile (· != '\n') with
  | _ :: rest => (cs.takeWhile (· != '\n'), some rest)
  | [] => (cs, none)

/-- The lines before the one that ends a document, and what follows that one. -/
def documentLines (tabs : Bool) (ending : List Char) : Nat → List Char → List Char × List Char
  | 0, cs => ([], cs)
  | _, [] => ([], [])
  | count + 1, cs =>
      let (line, after) := firstLine cs
      let line := if tabs then line.dropWhile (· == '\t') else line
      if line = ending then ([], after.getD [])
      else
        let (more, rest) := documentLines tabs ending count (after.getD [])
        (line ++ (if after.isSome then ['\n'] else []) ++ more, rest)

/-- The document whose sign stands before the characters: its pieces, and the characters without it
and without the word that ends it. -/
def document (tabs : Bool) (cs : List Char) : Except String (Option (Word × List Char)) := do
  let cs := cs.dropWhile fun c => c = ' ' || c = '\t'
  let (delimiter, rest) ← Piece.read (cs.length + 1) .word cs
  if delimiter.isEmpty then return none
  else
    let ending := (String.join (delimiter.map Piece.spelling)).toList
    let (line, after) := firstLine rest
    match after with
    | none => return some ([], rest)
    | some below =>
        let (text, below) := documentLines tabs ending (below.length + 1) below
        let rest := line ++ '\n' :: below
        if delimiter.any Piece.isQuoted then
          return some ([.text (String.ofList text) true], rest)
        else
          let (pieces, _) ← Piece.read (text.length + 1) .document text
          return some (pieces, rest)

/-- The number that a word spells right before a redirection. -/
def descriptor? (pieces : Word) (rest : List Char) : Option Nat :=
  match rest with
  | '<' :: _ | '>' :: _ => (Piece.plain? pieces).bind String.toNat?
  | _ => none

/-- Cuts at most `count` tokens. `hidden` lines have been taken out of the text after the line that
is being read. -/
def ofChars : Nat → Nat → Nat → List Char → List Token
  | 0, _, _, _ => []
  | _, _, _, [] => []
  | count + 1, line, hidden, c :: cs =>
      if c = '\n' then ⟨.newline, line⟩ :: ofChars count (line + 1 + hidden) 0 cs
      else if c = ' ' || c = '\t' then ofChars count line hidden cs
      else if c = '#' then ofChars count line hidden (cs.dropWhile (· != '\n'))
      else if c = '\\' && cs.head? = some '\n' then ofChars count (line + 1) hidden (cs.drop 1)
      else match sign? (c :: cs) with
        | some (s, rest) =>
            if s = "<<" || s = "<<-" then
              match document (s = "<<-") rest with
              | .error text => [⟨.fault text, line⟩]
              | .ok none => ⟨.sign s, line⟩ :: ofChars count line hidden rest
              | .ok (some (pieces, after)) =>
                  ⟨.sign "<<", line⟩ :: ⟨.document pieces, line⟩ ::
                    ofChars count line (hidden + (lineEnds rest - lineEnds after)) after
            else ⟨.sign s, line⟩ :: ofChars count line hidden rest
        | none =>
            match Piece.read (cs.length + 2) .word (c :: cs) with
            | .error text => [⟨.fault text, line⟩]
            | .ok (pieces, rest) =>
                let lexeme := match descriptor? pieces rest with
                  | some n => .descriptor n
                  | none => .word pieces
                ⟨lexeme, line⟩ ::
                  ofChars count (line + (lineEnds cs - lineEnds rest)) hidden rest

def ofText (text : String) : List Token :=
  ofChars (text.length + 1) 1 0 text.toList

/-- The word that a token is, if nothing in it is protected. -/
def plain? (t : Token) : Option String :=
  match t.lexeme with
  | .word pieces => Piece.plain? pieces
  | _ => none

def describe (t : Token) : String :=
  match t.lexeme with
  | .word pieces =>
      match Piece.plain? pieces with
      | some s =>
          if ["!", "case", "do", "done", "elif", "else", "esac", "fi", "for", "if", "in", "then",
              "until", "while", "\x7b", "\x7d"].contains s then s!"\"{s}\"" else "word"
      | none => "word"
  | .sign s => if s.startsWith "<" || s.startsWith ">" then "redirection" else s!"\"{s}\""
  | .newline => "newline"
  | .descriptor _ | .document _ => "redirection"
  | .fault text => text

end Token

end ReviewChannel.Process.Shell
