/-!
Backslash escapes in texts of octets. Which escapes there are is said by a record (`Rules`); an
escape that the rules do not know stands for itself.
-/

namespace ReviewChannel.Process.Escapes

/-- Which escapes are read, beyond those for line ends, tabs and the like. -/
structure Rules where
  /-- Octal digits right after the backslash, up to three of them. -/
  octal : Bool := true
  /-- A zero before the octal digits that is not one of the three. -/
  zeroFirst : Bool := false
  /-- Hexadecimal digits after an `x`, and the escape character. -/
  hexadecimal : Bool := false
  /-- The escape character by its letter. -/
  escapeLetter : Bool := false
  /-- A double quote. -/
  quote : Bool := false
  /-- An escape that ends the whole output. -/
  stops : Bool := false
deriving DecidableEq, Repr

def isOctal (c : Char) : Bool :=
  '0' ≤ c && c ≤ '7'

def hexValue? (c : Char) : Option Nat :=
  if c.isDigit then some (c.toNat - '0'.toNat)
  else if 'a' ≤ c && c ≤ 'f' then some (c.toNat - 'a'.toNat + 10)
  else if 'A' ≤ c && c ≤ 'F' then some (c.toNat - 'A'.toNat + 10)
  else none

/-- The character of an octet that digits of a base write. -/
def octetOf (base : Nat) (digits : List Char) : Char :=
  Char.ofNat (digits.foldl (fun n c => n * base + (hexValue? c).getD 0) 0 % 256)

/-- At most `count` characters from the front for which the test holds, and those after them. -/
def takeSome (test : Char → Bool) (count : Nat) (cs : List Char) : List Char × List Char :=
  let front := (cs.take count).takeWhile test
  (front, cs.drop front.length)

def letter? (c : Char) : Option Char :=
  match c with
  | 'a' => some '\x07'
  | 'b' => some '\x08'
  | 'f' => some '\x0c'
  | 'n' => some '\n'
  | 'r' => some '\r'
  | 't' => some '\t'
  | 'v' => some '\x0b'
  | '\\' => some '\\'
  | _ => none

/-- What stands after a backslash: what it writes, or `none` to stop, and what follows it. -/
def read (rules : Rules) (cs : List Char) : Option (List Char) × List Char :=
  match cs with
  | [] => (some ['\\'], [])
  | c :: rest =>
      match letter? c with
      | some written => (some [written], rest)
      | none =>
          if c = 'c' && rules.stops then (none, rest)
          else if c = 'e' && rules.escapeLetter then (some ['\x1b'], rest)
          else if c = '"' && rules.quote then (some ['"'], rest)
          else if c = '0' && rules.zeroFirst then
            let (digits, rest) := takeSome isOctal 3 rest
            (some [octetOf 8 digits], rest)
          else if isOctal c && rules.octal then
            let (digits, rest) := takeSome isOctal 3 (c :: rest)
            (some [octetOf 8 digits], rest)
          else if c = 'x' && rules.hexadecimal then
            match takeSome (fun c => (hexValue? c).isSome) 2 rest with
            | ([], rest) => (some ['\\', 'x'], rest)
            | (digits, rest) => (some [octetOf 16 digits], rest)
          else (some ['\\', c], rest)

/-- Reads all escapes of at most `count` characters: what they write, and whether to stop there. -/
def readAllFrom (rules : Rules) : Nat → List Char → List Char × Bool
  | 0, _ => ([], false)
  | _, [] => ([], false)
  | count + 1, '\\' :: rest =>
      match read rules rest with
      | (none, _) => ([], true)
      | (some written, rest) =>
          let (more, stopped) := readAllFrom rules count rest
          (written ++ more, stopped)
  | count + 1, c :: rest =>
      let (more, stopped) := readAllFrom rules count rest
      (c :: more, stopped)

/-- Reads all escapes: what they write, and whether to stop there. -/
def readAll (rules : Rules) (cs : List Char) : List Char × Bool :=
  readAllFrom rules (cs.length + 1) cs

end ReviewChannel.Process.Escapes
