import ReviewChannel.Process.Condition

/-!
Conditions as a shell reads them. A word that could be a sign is looked at together with the words
after it: a test of one operand is a plain word if a comparison follows it, and so is an opening
parenthesis at the end.

* `Condition.holds` says whether a condition holds, or why it is none.
-/

namespace ReviewChannel.Process.Shell.Condition

open ReviewChannel.Process.Condition (Partial comparison? standing? fileTest? number?)

/-! ### Words -/

inductive Role where
  | unary (letter : Char)
  | binary
  | negation
  | both
  | either
  | opening
  | closing
deriving DecidableEq, Repr

/-- What a word is by itself, if it is no plain word. -/
def role? (word : String) : Option Role :=
  match word with
  | "!" => some .negation
  | "-a" => some .both
  | "-o" => some .either
  | "(" => some .opening
  | ")" => some .closing
  | _ =>
      if (comparison? word).isSome || ["=", "!=", "<", ">", "-nt", "-ot", "-ef"].contains word then
        some .binary
      else match word.toList with
        | ['-', letter] =>
            if "rwxefdcbpugkstznhOGLS".toList.contains letter then some (.unary letter) else none
        | _ => none

/-- Whether a test of one operand is a plain word before the words. -/
def isOperand : List String → Bool
  | [] => true
  | [_] => false
  | word :: _ => role? word = some .binary

/-- What the word in front is, given those after it. -/
def roleOf? : List String → Option Role
  | [] => none
  | word :: rest =>
      match role? word with
      | some (.unary letter) => if isOperand rest then none else some (.unary letter)
      | some .opening => if rest.isEmpty then none else some .opening
      | role => role

/-! ### Tests -/

/-- The number that a word spells within 64 binary digits. -/
def integer (word : String) : Except String Int :=
  match (number? word).filter fun n => -(Nat.pow 2 63 : Int) ≤ n && n < (Nat.pow 2 63 : Int) with
  | some n => .ok n
  | none => .error s!"Illegal number: {word}"

def unary (w : World) (letter : Char) (operand : String) : Except String Bool :=
  if letter = 'n' then .ok !operand.isEmpty
  else if letter = 'z' then .ok operand.isEmpty
  else if letter = 't' then do
    let _ ← integer operand
    return false
  else .ok ((fileTest? w letter operand).getD false)

def binary (w : World) (a op b : String) : Except String Bool :=
  match comparison? op with
  | some compare => do return compare (← integer a) (← integer b)
  | none =>
      match op with
      | "=" => .ok (a == b)
      | "!=" => .ok (a != b)
      | "<" => .ok (a < b)
      | ">" => .ok (b < a)
      | "-ef" => .ok ((standing? w a).isSome && standing? w a == standing? w b)
      | _ => .ok false

/-! ### Conditions of several

A condition ends at its last word, which is the first of the words that are given back. -/

/-- A single condition. The end counts as one that does not hold. -/
def primary (w : World) (whole : List String → Partial) (words : List String) : Partial :=
  match roleOf? words, words with
  | _, [] => .ok (false, [])
  | some .opening, _ :: inner =>
      if roleOf? inner = some .closing then .ok (false, inner)
      else do
        let (value, last) ← whole inner
        if roleOf? (last.drop 1) = some .closing then return (value, last.drop 1)
        else .error "closing paren expected"
  | some (.unary letter), _ :: operand :: rest => do
      return (← unary w letter operand, operand :: rest)
  | _, a :: op :: rest =>
      if role? op = some .binary then
        match rest with
        | b :: rest => do return (← binary w a op b, b :: rest)
        | [] => .error s!"{op}: argument expected"
      else .ok (!a.isEmpty, words)
  | _, [a] => .ok (!a.isEmpty, words)

/-- A single condition with exclamation marks before it. -/
def negation (w : World) (whole : List String → Partial) : List String → Partial
  | [] => primary w whole []
  | word :: rest =>
      if roleOf? (word :: rest) = some .negation then
        if rest.isEmpty then .ok (true, [word])
        else do
          let (value, last) ← negation w whole rest
          return (!value, last)
      else primary w whole (word :: rest)

/-- Conditions that a sign joins, at most `count` of them. -/
def joined (operand : List String → Partial) (sign : Role) (join : Bool → Bool → Bool) :
    Nat → List String → Partial
  | 0, words => operand words
  | count + 1, words => do
      let (value, last) ← operand words
      if roleOf? (last.drop 1) = some sign then do
        let (other, last) ← joined operand sign join count (last.drop 2)
        return (join value other, last)
      else return (value, last)

/-- A whole condition with at most `depth` parentheses around each other. -/
def whole (w : World) : Nat → List String → Partial
  | 0, _ => .error "closing paren expected"
  | depth + 1, words =>
      joined (joined (negation w (whole w depth)) .both (· && ·) words.length) .either (· || ·)
        words.length words

def holdsAll (w : World) (words : List String) : Except String Bool := do
  let (value, last) ← whole w (words.length + 1) words
  match last with
  | word :: _ :: _ => .error s!"{word}: unexpected operator"
  | _ => return value

/-- Whether a condition holds, or why it is none. Few words have a meaning by their number. -/
def holds (w : World) (words : List String) : Except String Bool :=
  match words with
  | [] => .ok false
  | ["(", a, ")"] => if role? a = some .binary then binary w "(" a ")" else holdsAll w [a]
  | ["(", a, b, ")"] => holdsAll w [a, b]
  | [a, op, b] =>
      if role? op = some .binary then binary w a op b
      else if a = "!" then do return !(← holdsAll w [op, b])
      else holdsAll w words
  | "!" :: [a, op, b] => do
      if role? op = some .binary then return !(← binary w a op b)
      else if a = "(" && b = ")" then return !(← holdsAll w [op])
      else return !(← holdsAll w [a, op, b])
  | words => holdsAll w words

end ReviewChannel.Process.Shell.Condition
