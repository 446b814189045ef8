import ReviewChannel.Text.Quoted

/-!
Diagnostics: lines that tell how the work goes on, for whoever wants to know. Each has a level, and
only those up to the level that was asked for are written. A text with ends of lines in it goes on
over several lines.

* `Diagnostic.line` is what a diagnostic writes.
-/

namespace ReviewChannel

/-- How much a diagnostic matters, what matters most first. -/
inductive Level where
  | warning
  | notice
  | detail
deriving DecidableEq, Repr

namespace Level

/-- The place of a level in their order. -/
def rank : Level → Nat
  | warning => 0
  | notice => 1
  | detail => 2

/-- What a level is called, in five columns. -/
def label : Level → String
  | warning => " WARN"
  | notice => " INFO"
  | detail => "DEBUG"

/-- The level that is asked for by a count of `-v`. A quiet program starts with warnings. -/
def ofCount (quiet : Bool) : Nat → Level
  | 0 => if quiet then warning else notice
  | _ => detail

end Level

/-- What is told of the work. -/
structure Diagnostic where
  level : Level
  text : String
  /-- Named values. -/
  fields : List (String × String) := []
deriving DecidableEq, Repr

namespace Diagnostic

/-- A character of a text. One that could take control of a terminal is written by its code. -/
def visible (c : Char) : List Char :=
  if c = '\x1b' || c = '\x07' || c = '\x08' || c = '\x0c' || c = '\x7f' then
    let digits := Quoted.hex c.toNat
    '\\' :: 'x' :: (if digits.length = 1 then '0' :: digits else digits)
  else if '\u0080' ≤ c && c ≤ '\u009f' then
    ['\\', 'u', '\x7b'] ++ Quoted.hex c.toNat ++ ['\x7d']
  else [c]

/-- What a diagnostic writes at a time, if diagnostics up to a level are written. -/
def line (stamp : String) (limit : Level) (d : Diagnostic) : String :=
  if limit.rank < d.level.rank then ""
  else
    let text := String.ofList (d.text.toList.flatMap visible)
    let fields := d.fields.map fun (name, value) => s!" {name}={value}"
    s!"{stamp} {d.level.label} {text}" ++ String.join fields ++ "\n"

end Diagnostic

end ReviewChannel
