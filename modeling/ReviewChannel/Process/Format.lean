import ReviewChannel.Process.Escapes
import ReviewChannel.Process.Fraction

/-!
Formats: a text with conversions, each of which writes one argument. A format is used again as long
as arguments are left; where they run out, conversions write empty texts and zeros.

* `Format.parse` cuts a format into segments.
* `Format.run` writes the arguments.
-/

namespace ReviewChannel.Process.Format

/-- How a kind of program reads formats. -/
structure Dialect where
  escapes : Escapes.Rules
  /-- The escapes in an argument that is to be read for them. -/
  argumentEscapes : Escapes.Rules
  /-- The letters of conversions. -/
  letters : List Char
  /-- The binary digits of numbers with a fraction. -/
  precision : Nat
  /-- The letters of sizes, which do not matter. -/
  sizes : List Char := []

/-- A width or a precision: given as a number, or by an argument. -/
inductive Amount where
  | given (n : Nat)
  | argument
deriving DecidableEq, Repr

structure Conversion where
  flags : List Char := []
  width : Option Amount := none
  precision : Option Amount := none
  letter : Char
deriving DecidableEq, Repr

inductive Segment where
  | text (cs : List Char)
  | conversion (c : Conversion)
  /-- The end of all output. -/
  | stop
  /-- No conversion: its text. -/
  | faulty (text : String)
deriving DecidableEq, Repr

/-- A width or precision at the front. -/
def amount? (cs : List Char) : Option Amount × List Char :=
  match cs with
  | '*' :: rest => (some .argument, rest)
  | cs =>
      let digits := cs.takeWhile Char.isDigit
      if digits.isEmpty then (none, cs)
      else (some (.given (Fraction.natOf digits)), cs.dropWhile Char.isDigit)

/-- The conversion after a percent sign, and what follows it. -/
def conversion (d : Dialect) (cs : List Char) : Segment × List Char :=
  let isFlag (c : Char) : Bool := "-+ #0'".toList.contains c
  let flags := cs.takeWhile isFlag
  let (width, rest) := amount? (cs.dropWhile isFlag)
  let (precision, rest) := match rest with
    | '.' :: rest =>
        let (precision, rest) := amount? rest
        (some (precision.getD (.given 0)), rest)
    | rest => (none, rest)
  match rest.dropWhile d.sizes.contains with
  | letter :: rest =>
      if d.letters.contains letter then (.conversion { flags, width, precision, letter }, rest)
      else
        let written := cs.take (cs.length - rest.length)
        (.faulty (String.ofList ('%' :: written)), rest)
  | [] => (.faulty (String.ofList ('%' :: cs)), [])

/-- The segments of at most `count` characters. -/
def parseFrom (d : Dialect) : Nat → List Char → List Segment
  | 0, _ => []
  | _, [] => []
  | count + 1, '\\' :: rest =>
      match Escapes.read d.escapes rest with
      | (none, _) => [.stop]
      | (some written, rest) => .text written :: parseFrom d count rest
  | count + 1, '%' :: '%' :: rest => .text ['%'] :: parseFrom d count rest
  | count + 1, '%' :: rest =>
      let (segment, rest) := conversion d rest
      segment :: parseFrom d count rest
  | count + 1, c :: rest => .text [c] :: parseFrom d count rest

def parse (d : Dialect) (format : String) : List Segment :=
  parseFrom d (format.length + 1) format.toList

/-! ### Arguments as numbers -/

/-- What is wrong with an argument that should be a number. -/
inductive Fault where
  | noNumber
  /-- Something follows the number. -/
  | extra
  | outOfRange
deriving DecidableEq, Repr

/-- The digits of a base and their value, at the front of a text. -/
def natIn (base : Nat) (cs : List Char) : Nat × List Char :=
  let isDigit (c : Char) : Bool := (Escapes.hexValue? c).any (· < base)
  ((cs.takeWhile isDigit).foldl (fun n c => n * base + (Escapes.hexValue? c).getD 0) 0,
    cs.dropWhile isDigit)

/-- The whole number at the front of a text, in the notation that its beginning says: hexadecimal,
octal or decimal. -/
def integer? (cs : List Char) : Option (Int × List Char) :=
  let (negative, cs) := match cs with
    | '-' :: rest => (true, rest)
    | '+' :: rest => (false, rest)
    | cs => (false, cs)
  let (n, rest) := match cs with
    | '0' :: 'x' :: d :: rest | '0' :: 'X' :: d :: rest =>
        if (Escapes.hexValue? d).isSome then natIn 16 (d :: rest) else (0, cs.drop 1)
    | '0' :: rest => natIn 8 ('0' :: rest)
    | cs => natIn 10 cs
  if rest.length = cs.length then none else some (if negative then -(n : Int) else n, rest)

/-- The number of the character after a quote, if the argument is one. -/
def characterCode? (cs : List Char) : Option Nat :=
  match cs with
  | '"' :: c :: _ | '\'' :: c :: _ => some c.toNat
  | _ => none

/-- A text without blanks at its front. -/
def trimFront (cs : List Char) : List Char :=
  cs.dropWhile fun c => c = ' ' || c = '\t' || c = '\n'

/-- The whole number that an argument writes, and what is wrong with it. -/
def integerOf (least greatest : Int) (argument : String) : Int × Option Fault :=
  let cs := argument.toList
  if cs.isEmpty then (0, none)
  else match characterCode? cs with
    | some code => (code, none)
    | none =>
        match integer? (trimFront cs) with
        | none => (0, some .noNumber)
        | some (n, rest) =>
            if n < least then (least, some .outOfRange)
            else if greatest < n then (greatest, some .outOfRange)
            else (n, if rest.isEmpty then none else some .extra)

/-- The number with a fraction that an argument writes, and what is wrong with it. -/
def fractionOf (precision : Nat) (argument : String) : Fraction × Option Fault :=
  let cs := argument.toList
  if cs.isEmpty then ({ numerator := 0 }, none)
  else match characterCode? cs with
    | some code => ({ numerator := code }, none)
    | none =>
        match Fraction.read? (trimFront cs) with
        | none => ({ numerator := 0 }, some .noNumber)
        | some (value, rest) =>
            (value.rounded precision, if rest.isEmpty then none else some .extra)

/-! ### Writing -/

def pad (left : Bool) (width : Nat) (cs : List Char) : List Char :=
  let blanks := List.replicate (width - cs.length) ' '
  if left then cs ++ blanks else blanks ++ cs

/-- A number filled up: between its sign and its digits with zeros, or with blanks. -/
def padNumber (flags : List Char) (zeros : Bool) (width : Nat) (sign digits : List Char) :
    List Char :=
  if zeros && flags.contains '0' && !flags.contains '-' then
    sign ++ List.replicate (width - sign.length - digits.length) '0' ++ digits
  else pad (flags.contains '-') width (sign ++ digits)

def signOf (flags : List Char) (negative : Bool) : List Char :=
  if negative then ['-']
  else if flags.contains '+' then ['+']
  else if flags.contains ' ' then [' ']
  else []

/-- How many numbers there are without a sign. -/
def wordSize : Nat := Nat.pow 2 64

/-- A whole number as a conversion writes it. -/
def writeInteger (c : Conversion) (width : Nat) (precision : Option Nat) (n : Int) : List Char :=
  let fill (ds : List Char) : List Char := match precision with
    | some p => List.replicate (p - ds.length) '0' ++ ds
    | none => ds
  if c.letter = 'd' || c.letter = 'i' then
    padNumber c.flags precision.isNone width (signOf c.flags (n < 0))
      (fill (Nat.toDigits 10 n.natAbs))
  else
    let word := (n % (wordSize : Int)).toNat
    let base := if c.letter = 'u' then 10 else if c.letter = 'o' then 8 else 16
    let digits := Nat.toDigits base word
    let digits := if c.letter = 'X' then digits.map Char.toUpper else digits
    let marked := c.flags.contains '#' && word ≠ 0
    let sign := if marked && base = 16 then ['0', c.letter] else []
    let digits := if marked && base = 8 then '0' :: digits else digits
    padNumber c.flags precision.isNone width sign (fill digits)

def writeFraction (c : Conversion) (width : Nat) (precision : Option Nat) (r : Fraction) :
    List Char :=
  let places := precision.getD 6
  let digits :=
    if c.letter = 'f' || c.letter = 'F' then r.fixed places
    else if c.letter = 'e' || c.letter = 'E' then r.exponential c.letter places
    else r.general (if c.letter = 'G' then 'E' else 'e') (max places 1)
  padNumber c.flags true width (signOf c.flags r.negative) digits

/-- Whether a word can stand without quotes. -/
def isPlain (c : Char) : Bool :=
  c.isAlphanum || "%+,-./:=@_^".toList.contains c

/-- A word between quotes, if it needs them. -/
def quoted (word : List Char) : List Char :=
  if !word.isEmpty && word.all isPlain then word
  else '\'' :: (word.flatMap fun c => if c = '\'' then ['\'', '\\', '\'', '\''] else [c]) ++ ['\'']

/-! ### Running a format -/

structure Run where
  written : List Char := []
  arguments : List String
  /-- What was wrong with arguments, last first. -/
  faults : List (String × Fault) := []
  stopped : Bool := false
  /-- The text of what is no conversion. -/
  faulty : Option String := none

namespace Run

def take (r : Run) : Option String × Run :=
  match r.arguments with
  | [] => (none, r)
  | a :: rest => (some a, { r with arguments := rest })

def add (cs : List Char) (r : Run) : Run :=
  { r with written := r.written ++ cs }

def note (argument : String) (fault : Option Fault) (r : Run) : Run :=
  match fault with
  | some fault => { r with faults := (argument, fault) :: r.faults }
  | none => r

/-- The value of a width or precision. -/
def amount (a : Option Amount) (r : Run) : Option Int × Run :=
  match a with
  | none => (none, r)
  | some (.given n) => (some n, r)
  | some .argument =>
      let (argument, r) := r.take
      let argument := argument.getD ""
      let (n, fault) := integerOf (-(Nat.pow 2 31 : Int)) ((Nat.pow 2 31 : Int) - 1) argument
      (some n, r.note argument fault)

def convert (d : Dialect) (c : Conversion) (r : Run) : Run :=
  let (width, r) := r.amount c.width
  let (precision, r) := r.amount c.precision
  let c := if width.any (· < 0) then { c with flags := '-' :: c.flags } else c
  let width := (width.getD 0).natAbs
  let precision := precision.bind fun n => if n < 0 then none else some n.toNat
  let (argument, r) := r.take
  let text := (argument.getD "").toList
  let left := c.flags.contains '-'
  let cut (cs : List Char) : List Char := match precision with
    | some n => cs.take n
    | none => cs
  match c.letter with
  | 's' => r.add (pad left width (cut text))
  | 'c' => r.add (pad left width (text.take 1))
  | 'q' => r.add (pad left width (quoted text))
  | 'b' =>
      let (written, stopped) := Escapes.readAll d.argumentEscapes text
      { r.add (pad left width (cut written)) with stopped }
  | letter =>
      let argument := argument.getD ""
      if "diouxX".toList.contains letter then
        let isSigned := letter = 'd' || letter = 'i'
        let greatest : Int := (Nat.pow 2 (if isSigned then 63 else 64) : Int) - 1
        let (n, fault) := integerOf (-(Nat.pow 2 63 : Int)) greatest argument
        (r.note argument fault).add (writeInteger c width precision n)
      else
        let (value, fault) := fractionOf d.precision argument
        (r.note argument fault).add (writeFraction c width precision value)

/-- Carries out the segments of a format once. -/
def once (d : Dialect) : List Segment → Run → Run
  | [], r => r
  | segment :: rest, r =>
      if r.stopped then r
      else match segment with
        | .text cs => once d rest (r.add cs)
        | .stop => { r with stopped := true }
        | .faulty text => { r with stopped := true, faulty := some text }
        | .conversion c => once d rest (r.convert d c)

/-- Carries out the segments as often as there are arguments for, at most `count` times. -/
def again (d : Dialect) (segments : List Segment) : Nat → Run → Run
  | 0, r => r
  | count + 1, r =>
      let before := r.arguments.length
      let r := once d segments r
      if r.stopped || r.arguments.isEmpty || r.arguments.length = before then r
      else again d segments count r

end Run

def run (d : Dialect) (format : String) (arguments : List String) : Run :=
  Run.again d (parse d format) (arguments.length + 1) { arguments }

end ReviewChannel.Process.Format
