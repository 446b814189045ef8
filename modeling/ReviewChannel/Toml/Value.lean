/-!
TOML values. A number keeps the exact value that was written, so that its range is a question for
whoever reads it; a table keeps how it came to be, because that decides what may still be added.

* `Value.isReadable` says that every number inside has a value that a reader can hold.
-/

namespace ReviewChannel.Toml

inductive TableForm where
  /-- By a header of its own, or as the whole document. -/
  | defined
  /-- By the header of a table inside it. -/
  | implied
  /-- By a dotted key. -/
  | dotted
  /-- Between braces. -/
  | inline
deriving DecidableEq, Repr

inductive ArrayForm where
  /-- Between brackets. -/
  | listed
  /-- By the headers of its tables. -/
  | tables
deriving DecidableEq, Repr

/-- A number with a fraction or an exponent. -/
inductive Decimal where
  /-- The digits times a power of ten. -/
  | finite (negative : Bool) (digits : Nat) (exponent : Int)
  | infinite (negative : Bool)
  | notANumber
deriving DecidableEq, Repr

inductive Value where
  | text (s : String)
  | integer (n : Int)
  /-- What begins like a whole number and goes on as none, so that no reader can hold it. -/
  | misspelt
  | decimal (d : Decimal)
  | boolean (b : Bool)
  /-- A date, a time, or both, as it was written. -/
  | moment (written : String)
  | array (form : ArrayForm) (items : List Value)
  | table (form : TableForm) (entries : List (String × Value))
deriving Repr, Inhabited

/-- The entries of a table, in the order in which they were written. -/
abbrev Entries := List (String × Value)

/-! ### Numbers that can be read -/

def leastInteger : Int := -(Nat.pow 2 127 : Int)

def greatestInteger : Int := (Nat.pow 2 128 : Int) - 1

/-- The least magnitude that rounds to no finite double: half a unit above the greatest one. -/
def doubleLimit : Nat := Nat.pow 2 1024 - Nat.pow 2 970

def digitCount (n : Nat) : Nat :=
  (Nat.toDigits 10 n).length

/-- Whether a number rounds to a finite double. Far from the limit the count of digits decides. -/
def Decimal.isReadable : Decimal → Bool
  | finite _ digits exponent =>
      let magnitude := exponent + digitCount digits
      if digits = 0 || magnitude < 0 then true
      else if 400 < magnitude then false
      else if 0 ≤ exponent then digits * Nat.pow 10 exponent.toNat < doubleLimit
      else digits < doubleLimit * Nat.pow 10 (-exponent).toNat
  | infinite _ | notANumber => true

mutual

/-- Whether every number in the value can be read. -/
def Value.isReadable : Value → Bool
  | .integer n => leastInteger ≤ n && n ≤ greatestInteger
  | .misspelt => false
  | .decimal d => d.isReadable
  | .array _ items => allReadable items
  | .table _ entries => entriesReadable entries
  | .text _ | .boolean _ | .moment _ => true

/-- Whether every value of the list can be read. -/
def allReadable : List Value → Bool
  | [] => true
  | v :: rest => v.isReadable && allReadable rest

def entriesReadable : List (String × Value) → Bool
  | [] => true
  | (_, v) :: rest => v.isReadable && entriesReadable rest

end

end ReviewChannel.Toml
