/-!
TOML dates and times: a date of the calendar, a time of day, or both, then with an offset or
without. Seconds may be left out, and a fraction follows seconds only.
-/

namespace ReviewChannel.Toml.Moment

/-- The number of a fixed count of digits, and what follows them. -/
def digits? (count : Nat) (cs : List Char) : Option (Nat × List Char) :=
  let front := cs.take count
  if front.length = count && front.all Char.isDigit then
    some (front.foldl (fun n c => n * 10 + (c.toNat - '0'.toNat)) 0, cs.drop count)
  else none

def pass? (c : Char) : List Char → Option (List Char)
  | d :: rest => if c = d then some rest else none
  | [] => none

/-- Whether the year has a 29th of February. -/
def isLeap (year : Nat) : Bool :=
  year % 4 == 0 && (year % 100 != 0 || year % 400 == 0)

def daysIn (year month : Nat) : Nat :=
  if month = 2 then (if isLeap year then 29 else 28)
  else if month = 4 || month = 6 || month = 9 || month = 11 then 30
  else 31

def date? (cs : List Char) : Option (List Char) := do
  let (year, cs) ← digits? 4 cs
  let (month, cs) ← digits? 2 (← pass? '-' cs)
  let (day, cs) ← digits? 2 (← pass? '-' cs)
  if 1 ≤ month && month ≤ 12 && 1 ≤ day && day ≤ daysIn year month then some cs else none

def fraction? (cs : List Char) : Option (List Char) :=
  match cs with
  | '.' :: rest =>
      if (rest.takeWhile Char.isDigit).isEmpty then none else some (rest.dropWhile Char.isDigit)
  | cs => some cs

/-- Passes the seconds of a time, if there are any. The sixty-first second of a minute may be
named. -/
def seconds? (cs : List Char) : Option (List Char) :=
  match cs with
  | ':' :: rest => do
      let (second, rest) ← digits? 2 rest
      if second ≤ 60 then fraction? rest else none
  | cs => some cs

/-- Passes hours and minutes. -/
def clock? (cs : List Char) : Option (List Char) := do
  let (hour, cs) ← digits? 2 cs
  let (minute, cs) ← digits? 2 (← pass? ':' cs)
  if hour ≤ 23 && minute ≤ 59 then some cs else none

def time? (cs : List Char) : Option (List Char) := do
  seconds? (← clock? cs)

def offset? (cs : List Char) : Option (List Char) :=
  match cs with
  | 'Z' :: rest | 'z' :: rest => some rest
  | '+' :: rest | '-' :: rest => clock? rest
  | cs => some cs

/-- Passes a date, a time, or both. -/
def pass (cs : List Char) : Option (List Char) :=
  match date? cs with
  | none => time? cs
  | some [] => some []
  | some (c :: rest) =>
      if c = 'T' || c = 't' || c = ' ' then do offset? (← time? rest) else none

/-- Whether the characters write a date, a time, or both. -/
def isWritten (cs : List Char) : Bool :=
  pass cs == some []

end ReviewChannel.Toml.Moment
