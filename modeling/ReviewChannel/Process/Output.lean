import ReviewChannel.Process.Format
import ReviewChannel.Process.Given

/-!
Programs that write what their words say: `echo`, `printf`, `seq`, `yes`, `basename`, `dirname`.
-/

namespace ReviewChannel.Process.Programs

/-! ### Words -/

/-- The escapes that `echo` reads when it is asked to. -/
def echoEscapes : Escapes.Rules :=
  { octal := true, zeroFirst := true, hexadecimal := true, escapeLetter := true, stops := true }

/-- The options at the front of the words of `echo`, and the other words. A word with any other
letter in it is no option. -/
def echoOptions : List String → List Char × List String
  | [] => ([], [])
  | word :: rest =>
      match word.toList with
      | '-' :: c :: more =>
          if (c :: more).all fun c => c = 'n' || c = 'e' || c = 'E' then
            let (options, words) := echoOptions rest
            (c :: more ++ options, words)
          else ([], word :: rest)
      | _ => ([], word :: rest)

/-- Writes the words with a blank between each two. -/
def echo : Plain := fun words w =>
  let (options, words) := echoOptions words
  let text := (" ".intercalate words).toList
  let escapes := (options.reverse.find? (· != 'n')) = some 'e'
  let (text, stopped) := if escapes then Escapes.readAll echoEscapes text else (text, false)
  let ending := if stopped || options.contains 'n' then [] else ['\n']
  w.emit "echo" (String.ofList (text ++ ending)) 0

def printfDialect : Format.Dialect :=
  { escapes :=
      { octal := true, hexadecimal := true, escapeLetter := true, quote := true, stops := true }
    argumentEscapes :=
      { octal := true, zeroFirst := true, hexadecimal := true, escapeLetter := true, stops := true }
    letters := "diouxXfFeEgGcsbq".toList
    precision := 64
    sizes := "hlLjtz".toList }

/-- The text of what is wrong with an argument of `printf`. -/
def faultText (argument : String) : Format.Fault → String
  | .noNumber => s!"'{argument}': expected a numeric value"
  | .extra => s!"'{argument}': value not completely converted"
  | .outOfRange => s!"'{argument}': Numerical result out of range"

def printf : Plain := fun words w =>
  let words := if words.head? = some "--" then words.drop 1 else words
  match words with
  | [] => misused "printf" "missing operand" 1 w
  | format :: arguments =>
      let run := Format.run printfDialect format arguments
      let w := run.faults.reverse.foldl
        (fun w (argument, fault) => w.blame "printf" (faultText argument fault)) w
      let w := match run.faulty with
        | some text => w.blame "printf" s!"{text}: invalid conversion specification"
        | none => w
      w.emit "printf" (String.ofList run.written)
        (if run.faulty.isSome || !run.faults.isEmpty then 1 else 0)

/-! ### Numbers -/

/-- The places after the point of a number. -/
def placesOf (word : String) : Nat :=
  (((word.toList.dropWhile (· != '.')).drop 1).takeWhile Char.isDigit).length

/-- A number as a whole multiple of a power of ten. -/
def scaledInt (places : Nat) (r : Fraction) : Int :=
  let n := r.numerator * Nat.pow 10 places / r.denominator
  if r.negative then -(n : Int) else n

/-- The numbers from the first to the last, at most `count` of them. -/
def countUp (first step last : Int) : Nat → List Int
  | 0 => []
  | count + 1 =>
      if (0 < step && last < first) || (step < 0 && first < last) then []
      else first :: countUp (first + step) step last count

def countLimit : Nat := 100000

/-- A number with places after its point. -/
def withPlaces (places : Nat) (n : Int) : List Char :=
  let digits := Fraction.pointed places (Fraction.digits (places + 1) n.natAbs)
  if n < 0 then '-' :: digits else digits

/-- A word with zeros in front, after its sign. -/
def fillZeros (width : Nat) (cs : List Char) : List Char :=
  match cs with
  | '-' :: rest => '-' :: List.replicate (width - cs.length) '0' ++ rest
  | cs => List.replicate (width - cs.length) '0' ++ cs

def seqRun (g : Given) (w : World) : Nat × World :=
  let separator := (g.value? 's').getD "\n"
  let bounds? : Option (String × String × String) := match g.operands with
    | [last] => some ("1", "1", last)
    | [first, last] => some (first, "1", last)
    | [first, step, last] => some (first, step, last)
    | _ => none
  match bounds? with
  | none => misused "seq" (if g.operands.isEmpty then "missing operand" else "extra operand") 1 w
  | some (first, step, last) =>
      let read (word : String) : Except String Fraction := match Fraction.read? word.toList with
        | some (r, []) => .ok r
        | _ => .error s!"invalid floating point argument: '{word}'"
      match read first, read step, read last with
      | .ok a, .ok b, .ok c =>
          let places := max (placesOf first) (placesOf step)
          if b.numerator = 0 then misused "seq" s!"invalid Zero increment value: '{step}'" 1 w
          else
            let numbers := countUp (scaledInt places a) (scaledInt places b) (scaledInt places c)
              countLimit
            let texts := numbers.map (withPlaces places)
            let width := (texts.map List.length).foldl max 0
            let texts := if g.has 'w' then texts.map (fillZeros width) else texts
            let text := separator.intercalate (texts.map String.ofList)
            w.emit "seq" (if numbers.isEmpty then "" else text ++ "\n") 0
      | .error text, _, _ | _, .error text, _ | _, _, .error text => misused "seq" text 1 w

/-- Whether a word is a negative number, and so no option. -/
def isNegative (word : String) : Bool :=
  match word.toList with
  | '-' :: c :: _ => c.isDigit || c = '.'
  | _ => false

def seq : Plain := fun words =>
  let options := words.takeWhile fun word => word.startsWith "-" && !isNegative word
  let marked := if options.contains "--" || words.any isNegative = false then words
    else
      let front := words.takeWhile (!isNegative ·)
      front ++ "--" :: words.drop front.length
  withOptions "seq" { plain := "w", valued := "s", long := [("separator", 's'), ("equal-width", 'w')] }
    1 seqRun marked

/-- How often a word is written that is to be written without end: more often than anybody reads. -/
def endless : Nat := 2000

/-- Writes its words again and again. -/
def yes : Plain := fun words w =>
  let line := (if words.isEmpty then "y" else " ".intercalate words) ++ "\n"
  w.emit "yes" (String.join (List.replicate endless line)) 0

/-! ### Paths -/

def withoutSlashes (cs : List Char) : List Char :=
  match (cs.reverse.dropWhile (· == '/')).reverse with
  | [] => cs.take 1
  | cs => cs

/-- The last component of a path. -/
def lastComponent (path : String) : String :=
  let cs := withoutSlashes path.toList
  if cs = ['/'] then "/" else String.ofList (cs.reverse.takeWhile (· != '/')).reverse

/-- The path without its last component. -/
def directoryPart (path : String) : String :=
  let cs := withoutSlashes path.toList
  if cs = ['/'] then "/"
  else if !cs.contains '/' then "."
  else String.ofList (withoutSlashes (cs.reverse.dropWhile (· != '/')).reverse)

/-- A name without an ending, unless it is the ending itself. -/
def withoutSuffix (suffix name : String) : String :=
  if name != suffix && name.endsWith suffix then
    String.ofList (name.toList.take (name.length - suffix.length))
  else name

/-- Writes the last components of paths. -/
def basename : Plain :=
  withOptions "basename" { plain := "az", valued := "s", ordered := true } 1 fun g w =>
    let suffix := (g.value? 's').getD ""
    let names : Option (List String) := match g.operands with
      | [] => none
      | [path] => some [withoutSuffix suffix (lastComponent path)]
      | [path, suffix] =>
          if g.has 'a' || g.has 's' then
            some (g.operands.map fun path => withoutSuffix ((g.value? 's').getD "") (lastComponent path))
          else some [withoutSuffix suffix (lastComponent path)]
      | paths =>
          if g.has 'a' || g.has 's' then some (paths.map fun path => withoutSuffix suffix (lastComponent path))
          else none
    match names with
    | some names => w.emit "basename" (String.join (names.map (· ++ "\n"))) 0
    | none => misused "basename" (if g.operands.isEmpty then "missing operand" else "extra operand") 1 w

def dirname : Plain :=
  withOptions "dirname" { plain := "z" } 1 fun g w =>
    if g.operands.isEmpty then misused "dirname" "missing operand" 1 w
    else w.emit "dirname" (String.join (g.operands.map (directoryPart · ++ "\n"))) 0

end ReviewChannel.Process.Programs
