import ReviewChannel.Toml.Scan
import ReviewChannel.Toml.Value

/-!
TOML numbers. Single underscores may stand between digits, and a decimal number has no leading
zeros. A number in another base has no sign.

A whole number is judged twice. What is read here is its shape: after the first underscore any
characters may follow, as long as underscores stand between hexadecimal digits, and a number in
another base may lack its digits. Such a number is misspelt, which matters only to a reader that
asks for its value.
-/

namespace ReviewChannel.Toml.Number

/-- The value of digits with single underscores between them. -/
def digitsFrom (base value : Nat) : List Char → Option Nat
  | [] => some value
  | '_' :: c :: rest => do
      let d ← digitValue? base c
      digitsFrom base (value * base + d) rest
  | c :: rest => do
      let d ← digitValue? base c
      digitsFrom base (value * base + d) rest

def digits? (base : Nat) : List Char → Option Nat
  | [] => none
  | '_' :: _ => none
  | cs => digitsFrom base 0 cs

def sign (cs : List Char) : Option Char × List Char :=
  match cs with
  | '-' :: rest => (some '-', rest)
  | '+' :: rest => (some '+', rest)
  | cs => (none, cs)

def signed (sign : Option Char) (n : Nat) : Int :=
  if sign = some '-' then -(n : Int) else n

/-- The characters of a decimal number, and whether an underscore stood between them and the sign,
where it does not count; `none` if they begin with a zero that must not be there. -/
def withoutLead? (sign : Option Char) (cs : List Char) : Option (Bool × List Char) :=
  match cs with
  | '_' :: rest => if sign.isSome then some (true, rest) else none
  | '0' :: c :: _ => if c.isDigit || c == '_' then none else some (false, cs)
  | cs => some (false, cs)

/-! ### Whole numbers -/

/-- Whether the characters begin with a hexadecimal digit. -/
def startsHex (cs : List Char) : Bool :=
  (cs.head?.bind hexValue?).isSome

/-- Whether each underscore after a first character stands between two hexadecimal digits. -/
def underscoresFit : List Char → Bool
  | [] => true
  | [_] => true
  | a :: '_' :: rest => (hexValue? a).isSome && startsHex rest && underscoresFit rest
  | _ :: rest => underscoresFit rest

/-- The whole number that the characters write. They may be misspelt after their first underscore,
which is one of their own or one before them. -/
def whole? (sign : Option Char) (afterUnderscore : Bool) (cs : List Char) : Option Value :=
  match digits? 10 cs with
  | some n => some (.integer (signed sign n))
  | none =>
      if startsHex cs && underscoresFit cs &&
          (afterUnderscore || (cs.dropWhile Char.isDigit).head? = some '_') then some .misspelt
      else none

/-- The whole number of a base that the digits write. -/
def based? (base : Nat) (cs : List Char) : Option Value :=
  if cs.isEmpty then some .misspelt else (digits? base cs).map fun n => .integer n

/-! ### Numbers with a fraction or an exponent -/

/-- The characters before the first for which the test holds, and those after it. -/
def splitAt? (test : Char → Bool) (cs : List Char) : Option (List Char × List Char) :=
  match cs.dropWhile (!test ·) with
  | [] => none
  | _ :: after => some (cs.takeWhile (!test ·), after)

/-- How many digits the characters hold. -/
def places (cs : List Char) : Nat :=
  cs.countP (· != '_')

/-- A whole number and the digits after its point. -/
def pointed? (cs : List Char) : Option (Nat × Nat) := do
  match splitAt? (· == '.') cs with
  | none => return (← digits? 10 cs, 0)
  | some (before, after) =>
      let n ← digits? 10 before
      let fraction ← digits? 10 after
      return (n * Nat.pow 10 (places after) + fraction, places after)

def decimal? (sign : Option Char) (cs : List Char) : Option Decimal := do
  let negative := sign = some '-'
  match splitAt? (fun c => c == 'e' || c == 'E') cs with
  | none =>
      let (n, scale) ← pointed? cs
      return .finite negative n (-scale)
  | some (before, after) =>
      let (n, scale) ← pointed? before
      let (down, power) := Number.sign after
      let e ← digits? 10 power
      return .finite negative n (signed down e - scale)

/-! ### Numbers -/

/-- Whether a character belongs to a point or an exponent. -/
def isFractional (c : Char) : Bool :=
  c == '.' || c == 'e' || c == 'E'

/-- The number that the characters write, if they write one. A space ends every number. -/
def read? (cs : List Char) : Option Value :=
  match cs with
  | '0' :: 'x' :: rest => based? 16 rest
  | '0' :: 'o' :: rest => based? 8 rest
  | '0' :: 'b' :: rest => based? 2 rest
  | _ => do
      let (sign, rest) := sign cs
      if rest = ['i', 'n', 'f'] then return .decimal (.infinite (sign = some '-'))
      else if rest = ['n', 'a', 'n'] then return .decimal .notANumber
      else
        let (afterUnderscore, digits) ← withoutLead? sign rest
        if digits.contains ' ' then none
        else if digits.any isFractional then (decimal? sign digits).map .decimal
        else whole? sign afterUnderscore digits

end ReviewChannel.Toml.Number
