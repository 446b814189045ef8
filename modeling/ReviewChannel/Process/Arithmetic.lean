import ReviewChannel.Process.Format

/-!
Arithmetic of a shell: whole numbers of 64 binary digits, variables, operators by precedence, and
assignments to variables.

* `Arithmetic.ofText` reads an expression.
* `Arithmetic.eval` gives its value and the values that it assigns.
-/

namespace ReviewChannel.Process.Arithmetic

inductive Term where
  | number (n : Int)
  | variable (name : String)
  | unary (op : String) (a : Term)
  | binary (op : String) (a b : Term)
  | choice (condition a b : Term)
  /-- An assignment, of what an operator makes of the variable and the term if there is one. -/
  | assign (name op : String) (a : Term)
deriving Repr, Inhabited

/-! ### Symbols -/

inductive Symbol where
  | number (n : Int)
  | name (text : String)
  | sign (text : String)
  /-- A character with no meaning. -/
  | stray (c : Char)
deriving DecidableEq, Repr

/-- The greatest number. A greater one that is written counts as this one. -/
def greatest : Int := (Nat.pow 2 63 : Int) - 1

def isBlank (c : Char) : Bool :=
  c = ' ' || c = '\t' || c = '\n'

def startsName (c : Char) : Bool :=
  c.isAlpha || c = '_'

def inName (c : Char) : Bool :=
  c.isAlphanum || c = '_'

/-- The signs, a longer one before those with which it begins. -/
def signs : List String :=
  ["<<=", ">>=", "<<", ">>", "<=", ">=", "==", "!=", "&&", "||", "+=", "-=", "*=", "/=", "%=", "&=",
   "^=", "|=", "+", "-", "*", "/", "%", "&", "^", "|", "<", ">", "=", "!", "~", "(", ")", "?", ":"]

/-- The symbols of a text of at most `count` characters. -/
def symbols : Nat → List Char → List Symbol
  | 0, _ => []
  | _, [] => []
  | count + 1, c :: cs =>
      if isBlank c then symbols count cs
      else if c.isDigit then
        match Format.integer? (c :: cs) with
        | some (n, rest) => .number (min n greatest) :: symbols count rest
        | none => .stray c :: symbols count cs
      else if startsName c then
        let name := (c :: cs).takeWhile inName
        .name (String.ofList name) :: symbols count ((c :: cs).drop name.length)
      else match signs.find? fun s => s.toList.isPrefixOf (c :: cs) with
        | some s => .sign s :: symbols count ((c :: cs).drop s.length)
        | none => .stray c :: symbols count cs

/-! ### Reading -/

/-- The operators of two terms, from the loosest on. -/
def levels : List (List String) :=
  [["||"], ["&&"], ["|"], ["^"], ["&"], ["==", "!="], ["<=", ">=", "<", ">"], ["<<", ">>"],
   ["+", "-"], ["*", "/", "%"]]

/-- The signs of assignments, each with its operator. -/
def assigning : List (String × String) :=
  [("=", ""), ("<<=", "<<"), (">>=", ">>"), ("+=", "+"), ("-=", "-"), ("*=", "*"), ("/=", "/"),
   ("%=", "%"), ("&=", "&"), ("^=", "^"), ("|=", "|")]

/-- A reader of a term. -/
abbrev Reader := List Symbol → Except String (Term × List Symbol)

/-- A term without operators of two terms. -/
def primary (whole : Reader) : Reader
  | .number n :: rest => .ok (.number n, rest)
  | .name x :: rest => .ok (.variable x, rest)
  | .sign "(" :: rest => do
      let (t, rest) ← whole rest
      match rest with
      | .sign ")" :: rest => return (t, rest)
      | _ => .error "expecting ')'"
  | .sign op :: rest =>
      if op = "-" || op = "+" || op = "~" || op = "!" then do
        let (t, rest) ← primary whole rest
        return (.unary op t, rest)
      else .error "expecting primary"
  | _ => .error "expecting primary"

/-- Terms that operators of a level join, from the left, at most `count` of them. -/
def join (operand : Reader) (ops : List String) : Nat → Term → Reader
  | 0, t, symbols => .ok (t, symbols)
  | count + 1, t, .sign op :: rest =>
      if ops.contains op then do
        let (other, rest) ← operand rest
        join operand ops count (.binary op t other) rest
      else .ok (t, .sign op :: rest)
  | _, t, symbols => .ok (t, symbols)

/-- A term with the operators of some levels. -/
def levelled (single : Reader) : List (List String) → Reader
  | [], symbols => single symbols
  | ops :: more, symbols => do
      let (t, rest) ← levelled single more symbols
      join (levelled single more) ops rest.length t rest

/-- A choice by a condition, or a term without one, with at most `count` choices. -/
def choice (whole : Reader) : Nat → Reader
  | 0, _ => .error "expecting primary"
  | count + 1, symbols => do
      let (t, rest) ← levelled (primary whole) levels symbols
      match rest with
      | .sign "?" :: rest =>
          let (a, rest) ← whole rest
          match rest with
          | .sign ":" :: rest =>
              let (b, rest) ← choice whole count rest
              return (.choice t a b, rest)
          | _ => .error "expecting ':'"
      | rest => return (t, rest)

/-- A whole expression with at most `depth` terms inside each other. -/
def whole : Nat → Reader
  | 0, _ => .error "expecting primary"
  | depth + 1, symbols =>
      match symbols with
      | .name x :: .sign s :: rest =>
          match assigning.lookup s with
          | some op => do
              let (t, rest) ← whole depth rest
              return (.assign x op t, rest)
          | none => choice (whole depth) (symbols.length + 1) symbols
      | symbols => choice (whole depth) (symbols.length + 1) symbols

/-- The expression that a text writes, or what is wrong with it. -/
def ofText (text : String) : Except String Term := do
  let all := symbols text.length text.toList
  let (t, rest) ← whole (all.length + 1) all
  if rest.isEmpty then return t else .error "expecting EOF"

/-! ### Values -/

/-- A number within 64 binary digits. -/
def wrap (n : Int) : Int :=
  n.bmod (Nat.pow 2 64)

def truth (b : Bool) : Int :=
  if b then 1 else 0

/-- What an operator makes of two numbers. -/
def apply (op : String) (m n : Int) : Except String Int :=
  let words (f : UInt64 → UInt64 → UInt64) : Int :=
    let word (n : Int) : UInt64 := UInt64.ofNat (n % (Nat.pow 2 64 : Int)).toNat
    wrap ((f (word m) (word n)).toNat : Int)
  match op with
  | "+" => .ok (wrap (m + n))
  | "-" => .ok (wrap (m - n))
  | "*" => .ok (wrap (m * n))
  | "/" => if n = 0 then .error "division by zero" else .ok (wrap (m.tdiv n))
  | "%" => if n = 0 then .error "division by zero" else .ok (wrap (m.tmod n))
  | "<<" => .ok (words (· <<< ·))
  | ">>" => .ok (m.shiftRight (n % 64).toNat)
  | "&" => .ok (words (· &&& ·))
  | "|" => .ok (words (· ||| ·))
  | "^" => .ok (words (· ^^^ ·))
  | "==" => .ok (truth (m == n))
  | "!=" => .ok (truth (m != n))
  | "<" => .ok (truth (m < n))
  | ">" => .ok (truth (m > n))
  | "<=" => .ok (truth (m ≤ n))
  | ">=" => .ok (truth (m ≥ n))
  | _ => .ok n

/-- Values of variables, the latest first. -/
abbrev Bindings := List (String × String)

def numberOf (look : String → Option String) (bindings : Bindings) (name : String) :
    Except String Int :=
  match (bindings.lookup name <|> look name).getD "" with
  | "" => .ok 0
  | value =>
      match Format.integer? (value.toList.dropWhile isBlank) with
      | some (n, rest) =>
          if rest.all isBlank && wrap n = n then .ok n else .error s!"Illegal number: {value}"
      | none =>
          if value.toList.all isBlank then .ok 0 else .error s!"Illegal number: {value}"

/-- The value of an expression, and the values that it assigns to variables. -/
def eval (look : String → Option String) : Term → Bindings → Except String (Int × Bindings)
  | .number n, bindings => .ok (wrap n, bindings)
  | .variable name, bindings => do return (← numberOf look bindings name, bindings)
  | .unary op a, bindings => do
      let (n, bindings) ← eval look a bindings
      let value := if op = "-" then wrap (-n)
        else if op = "~" then -n - 1
        else if op = "!" then truth (n == 0)
        else n
      return (value, bindings)
  | .binary op a b, bindings => do
      let (m, bindings) ← eval look a bindings
      if op = "&&" && m = 0 then return (0, bindings)
      else if op = "||" && m ≠ 0 then return (1, bindings)
      else
        let (n, bindings) ← eval look b bindings
        if op = "&&" || op = "||" then return (truth (n != 0), bindings)
        else return (← apply op m n, bindings)
  | .choice condition a b, bindings => do
      let (n, bindings) ← eval look condition bindings
      if n ≠ 0 then eval look a bindings else eval look b bindings
  | .assign name op a, bindings => do
      let (n, bindings) ← eval look a bindings
      let value ← if op.isEmpty then pure n else do
        apply op (← numberOf look bindings name) n
      return (value, (name, toString value) :: bindings)

end ReviewChannel.Process.Arithmetic
