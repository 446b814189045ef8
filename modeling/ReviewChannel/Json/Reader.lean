import ReviewChannel.Json

/-!
Reading JSON texts, however they are laid out. Numbers are not read, since no value here has any.

* `readText` reads what stands between quotes: plain characters, short escapes, and escapes of code
  units, of which two stand for a character beyond U+FFFF.
* `readValue` reads a value from the front of a text, `readItems` and `readMembers` what stands in
  arrays and objects.
* `parse` reads a text that is one value, and `member?` finds a part of it.
-/

namespace ReviewChannel.Json

/-! ### Gaps -/

/-- Whether a character may stand between the parts of a text and mean nothing. -/
def isGap (c : Char) : Bool :=
  c = ' ' || c = '\t' || c = '\n' || c = '\r'

/-- The text without the gap at its front. -/
def skipGap (cs : List Char) : List Char :=
  cs.dropWhile isGap

/-- What follows a symbol, which may have a gap before it. -/
def expect (symbol : Char) (cs : List Char) : Option (List Char) :=
  match skipGap cs with
  | c :: rest => if c = symbol then some rest else none
  | [] => none

/-! ### Texts -/

def hexValue? (c : Char) : Option Nat :=
  if '0' ≤ c ∧ c ≤ '9' then some (c.toNat - '0'.toNat)
  else if 'a' ≤ c ∧ c ≤ 'f' then some (c.toNat - 'a'.toNat + 10)
  else if 'A' ≤ c ∧ c ≤ 'F' then some (c.toNat - 'A'.toNat + 10)
  else none

/-- Reads four hexadecimal digits: the code unit, and what follows. -/
def readUnit : List Char → Option (Nat × List Char)
  | a :: b :: c :: d :: rest => do
      let a ← hexValue? a
      let b ← hexValue? b
      let c ← hexValue? c
      let d ← hexValue? d
      return (((a * 16 + b) * 16 + c) * 16 + d, rest)
  | _ => none

/-- Whether a code unit is the first of two. -/
def isLeading (unit : Nat) : Bool :=
  0xD800 ≤ unit && unit < 0xDC00

/-- Whether a code unit is the second of two. -/
def isTrailing (unit : Nat) : Bool :=
  0xDC00 ≤ unit && unit < 0xE000

/-- Reads the character of one or two code units, after the first `\u`. -/
def readPoint (cs : List Char) : Option (Char × List Char) := do
  let (first, rest) ← readUnit cs
  if isTrailing first then none
  else if isLeading first then
    match rest with
    | '\\' :: 'u' :: rest => do
        let (second, rest) ← readUnit rest
        if isTrailing second then
          return (Char.ofNat (0x10000 + (first - 0xD800) * 0x400 + (second - 0xDC00)), rest)
        else none
    | _ => none
  else return (Char.ofNat first, rest)

/-- Reads what stands after a backslash. -/
def readEscape : List Char → Option (Char × List Char)
  | '"' :: rest => some ('"', rest)
  | '\\' :: rest => some ('\\', rest)
  | '/' :: rest => some ('/', rest)
  | 'b' :: rest => some ('\x08', rest)
  | 'f' :: rest => some ('\x0c', rest)
  | 'n' :: rest => some ('\n', rest)
  | 'r' :: rest => some ('\r', rest)
  | 't' :: rest => some ('\t', rest)
  | 'u' :: rest => readPoint rest
  | _ => none

/-- Reads one character between quotes. A control character must be escaped. -/
def readChar : List Char → Option (Char × List Char)
  | '\\' :: rest => readEscape rest
  | c :: rest => if c = '"' || c.toNat < 0x20 then none else some (c, rest)
  | [] => none

/-- Reads characters up to the quote that ends them, at most as many as `fuel`. -/
def readChars : Nat → List Char → Option (List Char × List Char)
  | 0, _ => none
  | _ + 1, '"' :: rest => some ([], rest)
  | fuel + 1, cs => do
      let (c, rest) ← readChar cs
      let (others, rest) ← readChars fuel rest
      return (c :: others, rest)

/-- Reads a text after the quote before it. Each of its characters takes one at least. -/
def readText (cs : List Char) : Option (String × List Char) := do
  let (chars, rest) ← readChars cs.length cs
  return (String.ofList chars, rest)

/-! ### Values -/

mutual

/-- Reads a value, with at most `fuel` values in it. -/
def readValue : Nat → List Char → Option (Json × List Char)
  | 0, _ => none
  | fuel + 1, cs =>
      match skipGap cs with
      | 'n' :: 'u' :: 'l' :: 'l' :: rest => some (.null, rest)
      | 't' :: 'r' :: 'u' :: 'e' :: rest => some (.boolean true, rest)
      | 'f' :: 'a' :: 'l' :: 's' :: 'e' :: rest => some (.boolean false, rest)
      | '"' :: rest => do
          let (s, rest) ← readText rest
          return (.text s, rest)
      | '[' :: rest =>
          match expect ']' rest with
          | some rest => some (.array [], rest)
          | none => do
              let (items, rest) ← readItems fuel rest
              return (.array items, rest)
      | '\x7b' :: rest =>
          match expect '\x7d' rest with
          | some rest => some (.object [], rest)
          | none => do
              let (members, rest) ← readMembers fuel rest
              return (.object members, rest)
      | _ => none

/-- Reads the items of an array, with the bracket that ends it. -/
def readItems : Nat → List Char → Option (List Json × List Char)
  | 0, _ => none
  | fuel + 1, cs => do
      let (item, rest) ← readValue fuel cs
      match expect ']' rest with
      | some rest => return ([item], rest)
      | none =>
          let (items, rest) ← readItems fuel (← expect ',' rest)
          return (item :: items, rest)

/-- Reads the members of an object, with the brace that ends it. -/
def readMembers : Nat → List Char → Option (List (String × Json) × List Char)
  | 0, _ => none
  | fuel + 1, cs => do
      let (name, rest) ← readText (← expect '"' cs)
      let (value, rest) ← readValue fuel (← expect ':' rest)
      match expect '\x7d' rest with
      | some rest => return ([(name, value)], rest)
      | none =>
          let (members, rest) ← readMembers fuel (← expect ',' rest)
          return ((name, value) :: members, rest)

end

/-- The value of a text that is one value. -/
def parse (text : String) : Option Json := do
  let (value, rest) ← readValue (text.toList.length + 1) text.toList
  if skipGap rest = [] then return value else none

/-! ### Parts of a value -/

def member? (name : String) : Json → Option Json
  | object members => members.lookup name
  | null | boolean _ | text _ | array _ => none

def text? : Json → Option String
  | text s => some s
  | null | boolean _ | array _ | object _ => none

/-- The truth value of a value that is one. -/
def boolean? : Json → Option Bool
  | boolean b => some b
  | null | text _ | array _ | object _ => none

end ReviewChannel.Json
