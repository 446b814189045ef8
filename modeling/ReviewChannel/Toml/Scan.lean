/-!
The surface of a TOML document: blanks, line ends, comments and digits.

* `skipBlanks` passes blanks on a line.
* `skipLines` passes blanks, line ends and comments, where a value may go over several lines.
* `endLine` passes what may stand after an expression, up to and with the end of its line.
-/

namespace ReviewChannel.Toml

def isSpace (c : Char) : Bool :=
  c == ' ' || c == '\t'

/-- A control character other than a tab. None may stand in a comment or a text on one line. -/
def isControl (c : Char) : Bool :=
  (c.toNat < 0x20 && c != '\t') || c.toNat == 0x7F

def skipBlanks (cs : List Char) : List Char :=
  cs.dropWhile isSpace

/-- Passes blanks, line ends and comments, from inside a comment or not. A carriage return must
stand before a line feed. -/
def skipLinesFrom (comment : Bool) : List Char → Option (List Char)
  | [] => some []
  | '\r' :: '\n' :: rest => skipLinesFrom false rest
  | c :: rest =>
      if c = '\n' then skipLinesFrom false rest
      else if comment then
        if isControl c then none else skipLinesFrom true rest
      else if isSpace c then skipLinesFrom false rest
      else if c = '#' then skipLinesFrom true rest
      else some (c :: rest)

/-- Passes blanks, line ends and comments. -/
def skipLines (cs : List Char) : Option (List Char) :=
  skipLinesFrom false cs

/-- Passes the rest of a comment and the end of its line. -/
def endComment : List Char → Option (List Char)
  | [] => some []
  | '\r' :: '\n' :: rest => some rest
  | c :: rest =>
      if c = '\n' then some rest
      else if isControl c then none
      else endComment rest

/-- Passes blanks, a comment and the end of the line; nothing else may be there. -/
def endLine (cs : List Char) : Option (List Char) :=
  match skipBlanks cs with
  | [] => some []
  | '\n' :: rest => some rest
  | '\r' :: '\n' :: rest => some rest
  | '#' :: rest => endComment rest
  | _ => none

def hexValue? (c : Char) : Option Nat :=
  if c.isDigit then some (c.toNat - '0'.toNat)
  else if 'a' ≤ c && c ≤ 'f' then some (c.toNat - 'a'.toNat + 10)
  else if 'A' ≤ c && c ≤ 'F' then some (c.toNat - 'A'.toNat + 10)
  else none

def digitValue? (base : Nat) (c : Char) : Option Nat :=
  (hexValue? c).filter (· < base)

end ReviewChannel.Toml
