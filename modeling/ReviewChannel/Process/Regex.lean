import ReviewChannel.Process.Pattern

/-!
Regular expressions, basic and extended. Of all matches the one that begins first is taken, and each
repetition takes as much as it can.

* `Regex.parse?` reads an expression.
* `Regex.find?` finds the first match in a line: where it begins and ends, and its groups.
-/

namespace ReviewChannel.Process

/-- A regular expression. -/
inductive Regex where
  | empty
  | char (c : Char)
  | any
  | oneOf (negated : Bool) (items : List Pattern.Item)
  | sequence (a b : Regex)
  | either (a b : Regex)
  /-- A repetition, of `least` times or more, and at most `most` times if that is given. -/
  | repeated (a : Regex) (least : Nat) (most : Option Nat)
  | group (number : Nat) (a : Regex)
  | lineStart
  | lineEnd
  /-- What a group has matched before. -/
  | same (number : Nat)
deriving Repr, Inhabited

namespace Regex

/-! ### Reading -/

/-- A reader of a part of an expression: the part, the number of the next group, and what
follows. -/
abbrev Reader := Nat → List Char → Option (Regex × Nat × List Char)

/-- The bounds of a repetition after its brace, and what follows the closing one. -/
def bounds? (extended : Bool) (cs : List Char) : Option (Nat × Option Nat × List Char) :=
  let number (cs : List Char) : Option Nat × List Char :=
    let ds := cs.takeWhile Char.isDigit
    (if ds.isEmpty then none else some (ds.foldl (fun n c => n * 10 + (c.toNat - 48)) 0),
      cs.dropWhile Char.isDigit)
  let close (cs : List Char) : Option (List Char) :=
    match extended, cs with
    | true, '\x7d' :: rest => some rest
    | false, '\\' :: '\x7d' :: rest => some rest
    | _, _ => none
  let (least, rest) := number cs
  match rest with
  | ',' :: rest =>
      let (most, rest) := number rest
      (close rest).map fun rest => (least.getD 0, most, rest)
  | rest => (close rest).map fun rest => (least.getD 0, least, rest)

def repetitions (extended : Bool) : Nat → Regex → List Char → Option (Regex × List Char)
  | 0, r, cs => some (r, cs)
  | count + 1, r, cs =>
      match extended, cs with
      | _, '*' :: rest => repetitions extended count (.repeated r 0 none) rest
      | true, '+' :: rest | false, '\\' :: '+' :: rest =>
          repetitions extended count (.repeated r 1 none) rest
      | true, '?' :: rest | false, '\\' :: '?' :: rest =>
          repetitions extended count (.repeated r 0 (some 1)) rest
      | true, '\x7b' :: rest | false, '\\' :: '\x7b' :: rest => do
          let (least, most, rest) ← bounds? extended rest
          repetitions extended count (.repeated r least most) rest
      | _, cs => some (r, cs)

def letterClass? (c : Char) : Option Regex :=
  let word : List Pattern.Item := [.named "alnum", .range '_' '_']
  match c with
  | 'w' => some (.oneOf false word)
  | 'W' => some (.oneOf true word)
  | 's' => some (.oneOf false [.named "space"])
  | 'S' => some (.oneOf true [.named "space"])
  | 'n' => some (.char '\n')
  | 't' => some (.char '\t')
  | _ => none

/-- A single part, without its repetitions. `start` says that nothing stands before it. -/
def atom (extended : Bool) (inner : Reader) (start : Bool) : Reader := fun n cs =>
  let inGroup (rest : List Char) : Option (Regex × Nat × List Char) := do
    let (r, next, rest) ← inner (n + 1) rest
    match extended, rest with
    | true, ')' :: rest | false, '\\' :: ')' :: rest => some (.group n r, next, rest)
    | _, _ => none
  match cs with
  | '.' :: rest => some (.any, n, rest)
  | '[' :: rest =>
      match Pattern.brackets? (rest.map fun c => (c, c != '!')) with
      | some (.oneOf negated items, after) =>
          some (.oneOf negated items, n, after.map (·.1))
      | _ => none
  | '^' :: rest =>
      if start || extended then some (.lineStart, n, rest) else some (.char '^', n, rest)
  | '$' :: rest =>
      let atEnd := match rest with
        | [] | '\\' :: ')' :: _ | '\\' :: '|' :: _ => true
        | _ => false
      if atEnd || extended then some (.lineEnd, n, rest) else some (.char '$', n, rest)
  | '(' :: rest => if extended then inGroup rest else some (.char '(', n, rest)
  | '\\' :: c :: rest =>
      if c = '(' && !extended then inGroup rest
      else if c.isDigit && c != '0' then some (.same (c.toNat - 48), n, rest)
      else match letterClass? c with
        | some r => some (r, n, rest)
        | none => some (.char c, n, rest)
  | ['\\'] => none
  | c :: rest => some (.char c, n, rest)
  | [] => none

/-- Whether an alternative ends in front of the characters. -/
def endsHere (extended : Bool) (cs : List Char) : Bool :=
  match extended, cs with
  | _, [] => true
  | true, '|' :: _ | true, ')' :: _ | false, '\\' :: '|' :: _ | false, '\\' :: ')' :: _ => true
  | _, _ => false

/-- Parts one after the other, at most `count` of them. -/
def branch (extended : Bool) (inner : Reader) : Nat → Bool → Reader
  | 0, _, _, _ => none
  | count + 1, start, n, cs =>
      if endsHere extended cs then some (.empty, n, cs)
      else do
        let (r, n, rest) ← match cs with
          | '*' :: rest => if start then some (.char '*', n, rest) else atom extended inner start n cs
          | _ => atom extended inner start n cs
        let (r, rest) ← if r matches .lineStart then some (r, rest)
          else repetitions extended (rest.length + 1) r rest
        let (more, n, rest) ← branch extended inner count (r matches .lineStart) n rest
        return (.sequence r more, n, rest)

def alternatives (extended : Bool) (inner : Reader) : Nat → Reader
  | 0, _, _ => none
  | count + 1, n, cs => do
      let (r, n, rest) ← branch extended inner (cs.length + 1) true n cs
      match extended, rest with
      | true, '|' :: rest | false, '\\' :: '|' :: rest =>
          let (s, n, rest) ← alternatives extended inner count n rest
          return (.either r s, n, rest)
      | _, rest => return (r, n, rest)

/-- A whole expression with at most `depth` groups around each other. -/
def expression (extended : Bool) : Nat → Reader
  | 0, _, _ => none
  | depth + 1, n, cs =>
      alternatives extended (expression extended depth) (cs.length + 1) n cs

def parse? (extended : Bool) (text : String) : Option Regex :=
  match expression extended (text.length + 1) 1 text.toList with
  | some (r, _, []) => some r
  | _ => none

/-- The expression that matches just a text. -/
def literal (text : String) : Regex :=
  text.toList.foldr (fun c r => .sequence (.char c) r) .empty

/-! ### Matching -/

/-- Where a match has come to: how many characters are passed, what follows, and the groups. -/
structure State where
  position : Nat
  rest : List Char
  groups : List (Nat × List Char) := []
deriving Repr

/-- How a line is matched. -/
structure Mode where
  ignoreCase : Bool := false
deriving DecidableEq, Repr

/-- Whether two characters count as the same. -/
def Mode.same (m : Mode) (a b : Char) : Bool :=
  if m.ignoreCase then a.toLower == b.toLower else a == b

def Mode.takes (m : Mode) (negated : Bool) (items : List Pattern.Item) (c : Char) : Bool :=
  if m.ignoreCase then
    (items.any (·.holds c.toLower) || items.any (·.holds c.toUpper)) != negated
  else Pattern.takes negated items c

/-- Matches an expression and then what comes after it, in at most `steps` steps. -/
def run (m : Mode) : Nat → Regex → State → (State → Option State) → Option State
  | 0, _, _, _ => none
  | steps + 1, r, s, after =>
      match r with
      | .empty => after s
      | .char c =>
          match s.rest with
          | d :: rest =>
              if m.same c d then after { s with position := s.position + 1, rest } else none
          | [] => none
      | .any =>
          match s.rest with
          | _ :: rest => after { s with position := s.position + 1, rest }
          | [] => none
      | .oneOf negated items =>
          match s.rest with
          | d :: rest =>
              if m.takes negated items d then after { s with position := s.position + 1, rest }
              else none
          | [] => none
      | .sequence a b => run m steps a s fun s => run m steps b s after
      | .either a b =>
          match run m steps a s after with
          | some s => some s
          | none => run m steps b s after
      | .repeated a least most =>
          let more : Option State :=
            if most = some 0 then none
            else run m steps a s fun t =>
              if t.position = s.position && least = 0 then none
              else run m steps (.repeated a (least - 1) (most.map (· - 1))) t after
          match more with
          | some s => some s
          | none => if least = 0 then after s else none
      | .group number a =>
          run m steps a s fun t =>
            let taken := s.rest.take (t.position - s.position)
            after { t with groups := (number, taken) :: t.groups.filter (·.1 != number) }
      | .lineStart => if s.position = 0 then after s else none
      | .lineEnd => if s.rest.isEmpty then after s else none
      | .same number =>
          let text := (s.groups.lookup number).getD []
          if text.length ≤ s.rest.length && (List.zipWith m.same text s.rest).all id then
            after { s with
              position := s.position + text.length, rest := s.rest.drop text.length }
          else none

structure Match where
  start : Nat
  stop : Nat
  groups : List (Nat × List Char)
deriving Repr

def stepLimit : Nat := 100000

/-- The first match at a position or after it. -/
def findFrom (m : Mode) (r : Regex) : Nat → List Char → Option Match
  | position, rest =>
      match run m stepLimit r { position, rest } some with
      | some s => some { start := position, stop := s.position, groups := s.groups }
      | none =>
          match rest with
          | [] => none
          | _ :: rest => findFrom m r (position + 1) rest
termination_by _ rest => rest.length

def find? (m : Mode) (r : Regex) (line : List Char) : Option Match :=
  findFrom m r 0 line

end Regex

end ReviewChannel.Process
