/-!
UTF-8 between octets and text.

Octets are read one at a time. What a character still awaits is a `Pending` value, so the reader is
a machine with one state and its output is a list of parts: a character, or a mark that an
ill-formed part stood there. An ill-formed part is the longest start of a character that the next
octet does not continue, and counts once.

* `parts` cuts every list of octets into characters and ill-formed parts.
* `decodeLossy` shows each ill-formed part as U+FFFD, so it reads every list of octets.
* `decode?` reads only well-formed octets.
* `encode` writes a text.
-/

namespace ReviewChannel.Utf8

/-- The unfinished start of a character. -/
structure Pending where
  /-- The bits of the code point that have been read. -/
  bits : Nat
  /-- The least octet that continues the character. -/
  low : UInt8
  /-- The greatest octet that continues the character. -/
  high : UInt8
  /-- How many octets follow the next one. -/
  after : Nat
deriving DecidableEq, Repr

/-- What one octet can be when no character is unfinished. -/
inductive Lead where
  | whole (c : Char)
  | first (p : Pending)
  | illFormed
deriving DecidableEq, Repr

/-- The role of an octet that begins a character. The bounds on the second octet keep out overlong
forms, surrogates and code points above U+10FFFF. -/
def lead (b : UInt8) : Lead :=
  let n := b.toNat
  if n < 0x80 then .whole (Char.ofNat n)
  else if n < 0xC2 then .illFormed
  else if n < 0xE0 then .first ⟨n - 0xC0, 0x80, 0xBF, 0⟩
  else if n = 0xE0 then .first ⟨0, 0xA0, 0xBF, 1⟩
  else if n = 0xED then .first ⟨0xD, 0x80, 0x9F, 1⟩
  else if n < 0xF0 then .first ⟨n - 0xE0, 0x80, 0xBF, 1⟩
  else if n = 0xF0 then .first ⟨0, 0x90, 0xBF, 2⟩
  else if n < 0xF4 then .first ⟨n - 0xF0, 0x80, 0xBF, 2⟩
  else if n = 0xF4 then .first ⟨4, 0x80, 0x8F, 2⟩
  else .illFormed

/-- Whether the octet continues the unfinished character. -/
def Pending.continues (p : Pending) (b : UInt8) : Bool :=
  p.low ≤ b && b ≤ p.high

/-- The code point bits after one more octet. -/
def Pending.extend (p : Pending) (b : UInt8) : Nat :=
  p.bits * 64 + b.toNat % 64

/-- The parts that end before an octet that begins a character, and what is unfinished after it. -/
def begin (b : UInt8) : List (Option Char) × Option Pending :=
  match lead b with
  | .whole c => ([some c], none)
  | .first p => ([], some p)
  | .illFormed => ([none], none)

/-- Reads one octet: the parts that it ends, and what is unfinished after it. -/
def step : Option Pending → UInt8 → List (Option Char) × Option Pending
  | none, b => begin b
  | some p, b =>
      if p.continues b then
        match p.after with
        | 0 => ([some (Char.ofNat (p.extend b))], none)
        | n + 1 => ([], some ⟨p.extend b, 0x80, 0xBF, n⟩)
      else (none :: (begin b).1, (begin b).2)

/-- The parts of the octets after an unfinished start. -/
def partsFrom : Option Pending → List UInt8 → List (Option Char)
  | none, [] => []
  | some _, [] => [none]
  | s, b :: rest => (step s b).1 ++ partsFrom (step s b).2 rest

/-- The characters of the octets in order, with `none` for each ill-formed part. -/
def parts (octets : List UInt8) : List (Option Char) :=
  partsFrom none octets

/-- The characters of the octets, with U+FFFD for each ill-formed part. -/
def decodeChars (octets : List UInt8) : List Char :=
  (parts octets).map (·.getD '\uFFFD')

/-- The text of the octets, with U+FFFD for each ill-formed part. -/
def decodeLossy (octets : List UInt8) : String :=
  String.ofList (decodeChars octets)

/-- The text of well-formed octets. -/
def decode? (octets : List UInt8) : Option String :=
  ((parts octets).mapM id).map String.ofList

/-- The octets of a list of characters. -/
def encodeChars (text : List Char) : List UInt8 :=
  text.flatMap String.utf8EncodeChar

def encode (text : String) : List UInt8 :=
  encodeChars text.toList

end ReviewChannel.Utf8
