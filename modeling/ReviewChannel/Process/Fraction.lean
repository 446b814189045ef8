/-!
Numbers with a fraction as they are written: a decimal text is read, rounded to a binary number of a
precision, and written in positional or scientific notation. All arithmetic is exact, on fractions
of natural numbers.
-/

namespace ReviewChannel.Process

/-- A number that is not negative, as a fraction, with its sign. -/
structure Fraction where
  negative : Bool := false
  numerator : Nat
  denominator : Nat := 1
deriving DecidableEq, Repr

namespace Fraction

/-- The quotient of two numbers, rounded to the nearest number, and to an even one if two are as
near. -/
def roundDiv (n d : Nat) : Nat :=
  let q := n / d
  let r := n % d
  if 2 * r < d then q
  else if d < 2 * r then q + 1
  else if q % 2 = 0 then q else q + 1

/-- The fraction rounded to a binary number with a count of digits. -/
def rounded (digits : Nat) (r : Fraction) : Fraction :=
  if r.numerator = 0 then r
  else
    let shift : Int := (digits : Int) - ((r.numerator.log2 : Int) - r.denominator.log2)
    let numerator := if shift < 0 then r.numerator else r.numerator * Nat.pow 2 shift.toNat
    let denominator := if shift < 0 then r.denominator * Nat.pow 2 (-shift).toNat else r.denominator
    let extra := (numerator / denominator).log2 + 1 - digits
    let mantissa := roundDiv numerator (denominator * Nat.pow 2 extra) * Nat.pow 2 extra
    if shift < 0 then { r with numerator := mantissa * Nat.pow 2 (-shift).toNat, denominator := 1 }
    else { r with numerator := mantissa, denominator := Nat.pow 2 shift.toNat }

/-- The digits of a number, at least `count` of them. -/
def digits (count n : Nat) : List Char :=
  let ds := Nat.toDigits 10 n
  List.replicate (count - ds.length) '0' ++ ds

/-- The digits with a point before the last `places` of them. -/
def pointed (places : Nat) (ds : List Char) : List Char :=
  if places = 0 then ds else ds.take (ds.length - places) ++ '.' :: ds.drop (ds.length - places)

/-- Positional notation with a count of places. -/
def fixed (places : Nat) (r : Fraction) : List Char :=
  pointed places (digits (places + 1) (roundDiv (r.numerator * Nat.pow 10 places) r.denominator))

/-- The digits of a number that is not zero, one before the point and `places` after it, with the
power of ten of a number that is at least that power. -/
def scaled (places : Nat) (r : Fraction) (power : Int) : Nat :=
  let shift : Int := places - power
  if shift < 0 then roundDiv r.numerator (r.denominator * Nat.pow 10 (-shift).toNat)
  else roundDiv (r.numerator * Nat.pow 10 shift.toNat) r.denominator

/-- The power of ten of a number that is not zero. -/
def powerOf (r : Fraction) : Int :=
  let guess : Int :=
    ((Nat.toDigits 10 r.numerator).length : Int) - (Nat.toDigits 10 r.denominator).length
  if (scaled 0 r guess) = 0 ||
      r.numerator * Nat.pow 10 (-guess).toNat < r.denominator * Nat.pow 10 guess.toNat
  then guess - 1 else guess

/-- The digits in scientific notation and their power of ten. -/
def scientific (places : Nat) (r : Fraction) : Nat × Int :=
  if r.numerator = 0 then (0, 0)
  else
    let power := r.powerOf
    let n := scaled places r power
    if n < Nat.pow 10 (places + 1) then (n, power) else (n / 10, power + 1)

/-- The exponent as it is written. -/
def exponent (letter : Char) (power : Int) : List Char :=
  letter :: (if power < 0 then '-' else '+') :: digits 2 power.natAbs

/-- Scientific notation with a count of places. -/
def exponential (letter : Char) (places : Nat) (r : Fraction) : List Char :=
  let (n, power) := r.scientific places
  let ds := digits (places + 1) n
  pointed places ds ++ exponent letter power

/-- The digits without zeros at the end of their fraction. -/
def withoutZeros (cs : List Char) : List Char :=
  if cs.contains '.' then
    let cs := (cs.reverse.dropWhile (· == '0'))
    (if cs.head? = some '.' then cs.drop 1 else cs).reverse
  else cs

/-- The shorter notation for a count of digits: positional if the power of ten is small. -/
def general (letter : Char) (count : Nat) (r : Fraction) : List Char :=
  let places := count - 1
  let (n, power) := r.scientific places
  if power < -4 || places < power then
    withoutZeros (pointed places (digits (places + 1) n)) ++ exponent letter power
  else withoutZeros (r.fixed ((places : Int) - power).toNat)

/-! ### Reading -/

def natOf (cs : List Char) : Nat :=
  cs.foldl (fun n c => n * 10 + (c.toNat - '0'.toNat)) 0

/-- The number at the front of a text, and what follows it; `none` if there is none. -/
def read? (cs : List Char) : Option (Fraction × List Char) :=
  let (negative, cs) := match cs with
    | '-' :: rest => (true, rest)
    | '+' :: rest => (false, rest)
    | cs => (false, cs)
  let front := cs.takeWhile Char.isDigit
  let rest := cs.dropWhile Char.isDigit
  let (places, rest) := match rest with
    | '.' :: after => (after.takeWhile Char.isDigit, after.dropWhile Char.isDigit)
    | rest => ([], rest)
  if front.isEmpty && places.isEmpty then none
  else
    let value : Fraction :=
      { negative, numerator := natOf (front ++ places), denominator := Nat.pow 10 places.length }
    let power? : Option (Bool × Nat × List Char) := match rest with
      | 'e' :: after | 'E' :: after =>
          let (down, after) := match after with
            | '-' :: more => (true, more)
            | '+' :: more => (false, more)
            | more => (false, more)
          let ds := after.takeWhile Char.isDigit
          if ds.isEmpty then none else some (down, min (natOf ds) 5000, after.dropWhile Char.isDigit)
      | _ => none
    match power? with
    | none => some (value, rest)
    | some (true, power, rest) =>
        some ({ value with denominator := value.denominator * Nat.pow 10 power }, rest)
    | some (false, power, rest) =>
        some ({ value with numerator := value.numerator * Nat.pow 10 power }, rest)

end Fraction

end ReviewChannel.Process
