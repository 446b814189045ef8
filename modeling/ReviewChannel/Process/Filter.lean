import ReviewChannel.Process.Condition
import ReviewChannel.Process.Escapes
import ReviewChannel.Process.Fraction
import ReviewChannel.Process.Given
import ReviewChannel.Process.Pattern

/-!
Programs that pass on what they read, changed or in part: `cat`, `head`, `tail`, `wc`, `sort`,
`uniq`, `tr`, `cut`, `tee`, `rev`, `tac`, `nl` and `paste`.
-/

namespace ReviewChannel.Process.Programs

/-! ### Input -/

/-- Lines, and whether the last one has its end. -/
structure Lines where
  lines : List String
  ended : Bool := true

/-- The pieces of a text between line ends, with the piece so far in reverse. -/
def cutAtLineEnds : List Char → List Char → List (List Char)
  | [], piece => [piece.reverse]
  | c :: rest, piece =>
      if c = '\n' then piece.reverse :: cutAtLineEnds rest [] else cutAtLineEnds rest (c :: piece)

def linesOfText (text : List Char) : Lines :=
  let pieces := cutAtLineEnds text []
  let ended := text.getLast? = some '\n' || text.isEmpty
  { lines := (if ended then pieces.dropLast else pieces).map String.ofList, ended }

/-- The text of lines that all have their ends. -/
def unlines (lines : List String) : String :=
  String.join (lines.map (· ++ "\n"))

def Lines.text (l : Lines) : String :=
  if l.ended then unlines l.lines else "\n".intercalate l.lines

def charsOf (octets : List UInt8) : List Char :=
  (Octets.toText octets).toList

/-- Reads the files of the paths, or the input if there are none: those that could be read, and
whether all could. `describe` names a path in the text of its failure. -/
def readFilesAs (program : String) (describe : String → String) (paths : List String) (w : World) :
    List (String × List Char) × Bool × World :=
  let paths := if paths.isEmpty then ["-"] else paths
  paths.foldl (fun (files, good, w) path =>
    match w.readFile path with
    | .ok (octets, w) => (files ++ [(path, charsOf octets)], good, w)
    | .error e => (files, false, w.blame program s!"{describe path}: {e.bareMessage}"))
    ([], true, w)

/-- Reads the files of the paths, or the input if there are none. -/
def readFiles (program : String) : List String → World → List (String × List Char) × Bool × World :=
  readFilesAs program id

/-- The status of a program for which all went well or not. -/
def statusOf (good : Bool) : Nat :=
  if good then 0 else 1

def padLeft (width : Nat) (text : String) : String :=
  "".pushn ' ' (width - text.length) ++ text

/-! ### Whole files -/

/-- The visible form of a character that is not a tab or a line end. -/
def visible (c : Char) : List Char :=
  let plain (n : Nat) : List Char :=
    if n < 32 then ['^', Char.ofNat (n + 64)]
    else if n = 127 then ['^', '?']
    else [Char.ofNat n]
  if c = '\n' || c = '\t' then [c]
  else if c.toNat < 128 then plain c.toNat
  else 'M' :: '-' :: plain (c.toNat - 128)

/-- How lines are shown. -/
structure Listing where
  numbers : Bool := false
  /-- Whether empty lines get no number. -/
  skipEmpty : Bool := false
  squeeze : Bool := false
  showEnds : Bool := false
  showTabs : Bool := false
  showOthers : Bool := false

/-- A line as it is shown, without its number. -/
def Listing.show (l : Listing) (line : List Char) : List Char :=
  let line := if l.showOthers then line.flatMap visible else line
  if l.showTabs then line.flatMap fun c => if c = '\t' then ['^', 'I'] else [c] else line

/-- The lines of pieces as they are shown. The number of the next line comes first; the last piece
is a line without its end, and nothing if it is empty. -/
def Listing.showAll (l : Listing) : Nat → Bool → List String → List Char
  | _, _, [] => []
  | number, wasEmpty, line :: rest =>
      let cs := line.toList
      let isLast := rest.isEmpty
      if (l.squeeze && cs.isEmpty && wasEmpty) && !isLast then l.showAll number true rest
      else if isLast && cs.isEmpty then []
      else
        let numbered := l.numbers && !(l.skipEmpty && cs.isEmpty)
        let front := if numbered then (padLeft 6 (toString number) ++ "\t").toList else []
        let ending := if isLast then [] else if l.showEnds then ['$', '\n'] else ['\n']
        front ++ l.show cs ++ ending ++
          l.showAll (if numbered then number + 1 else number) cs.isEmpty rest

/-- Writes files one after the other. -/
def cat : Plain :=
  withOptions "cat"
    { plain := "nbsETAvetu"
      long := [("number", 'n'), ("number-nonblank", 'b'), ("squeeze-blank", 's'), ("show-ends", 'E'),
        ("show-tabs", 'T'), ("show-all", 'A'), ("show-nonprinting", 'v')] } 1 fun g w =>
    let l : Listing :=
      { numbers := g.has 'n' || g.has 'b', skipEmpty := g.has 'b', squeeze := g.has 's'
        showEnds := g.has 'E' || g.has 'A' || g.has 'e'
        showTabs := g.has 'T' || g.has 'A' || g.has 't'
        showOthers := g.has 'v' || g.has 'A' || g.has 'e' || g.has 't' }
    let (files, good, w) := readFiles "cat" g.operands w
    let text := files.flatMap (·.2)
    let isPlain := !(l.numbers || l.squeeze || l.showEnds || l.showTabs || l.showOthers)
    let shown :=
      if isPlain then text
      else
        let lines := linesOfText text
        l.showAll 1 false (if lines.ended then lines.lines ++ [""] else lines.lines)
    w.emit "cat" (String.ofList shown) (statusOf good)

/-- Writes the files in the opposite order of lines. -/
def tac : Plain :=
  withOptions "tac" {} 1 fun g w =>
    let (files, good, w) := readFiles "tac" g.operands w
    let text := files.map fun (_, cs) =>
      let l := linesOfText cs
      match l.ended, l.lines.reverse with
      | false, last :: before => last ++ unlines before
      | _, lines => unlines lines
    w.emit "tac" (String.join text) (statusOf good)

/-- Writes each line backwards. -/
def rev : Plain :=
  withOptions "rev" {} 1 fun g w =>
    let (files, good, w) := readFiles "rev" g.operands w
    let text := files.map fun (_, cs) =>
      let l := linesOfText cs
      { l with lines := l.lines.map fun line => String.ofList line.toList.reverse : Lines }.text
    w.emit "rev" (String.join text) (statusOf good)

/-- Writes the lines with numbers, except empty ones. -/
def nl : Plain :=
  withOptions "nl" { valued := "b" } 1 fun g w =>
    let (files, good, w) := readFiles "nl" g.operands w
    let all := g.value? 'b' = some "a"
    let (text, _) := (linesOfText (files.flatMap (·.2))).lines.foldl (fun (text, number) line =>
      if line.isEmpty && !all then (text ++ "       \n", number)
      else (text ++ padLeft 6 (toString number) ++ "\t" ++ line ++ "\n", number + 1)) ("", 1)
    w.emit "nl" text (statusOf good)

/-! ### Parts -/

/-- The words with a number right after a dash read as the option for lines. -/
def withCounts (words : List String) : List String :=
  words.flatMap fun word =>
    match word.toList with
    | '-' :: c :: more =>
        if c.isDigit && more.all Char.isDigit then ["-n", String.ofList (c :: more)] else [word]
    | _ => [word]

def withHeadings (g : Given) (files : List (String × List Char)) (part : List Char → String) :
    String :=
  let headed := (1 < g.operands.length || g.has 'v') && !g.has 'q'
  let texts := files.zipIdx.map fun ((path, cs), i) =>
    let name := if path = "-" then "standard input" else path
    let heading := if i = 0 then s!"==> {name} <==\n" else s!"\n==> {name} <==\n"
    (if headed then heading else "") ++ part cs
  String.join texts

/-- The options of programs that write a part of their input. -/
def partShape : Shape :=
  { plain := "qvz", valued := "nc"
    long := [("lines", 'n'), ("bytes", 'c'), ("quiet", 'q'), ("silent", 'q'), ("verbose", 'v')] }

def endedLines (cs : List Char) : List (List Char) :=
  let l := linesOfText cs
  let lines := l.lines.map (·.toList)
  match l.ended, lines.reverse with
  | false, last :: before => (before.map (· ++ ['\n'])).reverse ++ [last]
  | _, _ => lines.map (· ++ ['\n'])

/-- Writes the first lines or octets of files. -/
def head : Plain := fun words =>
  withOptions "head" partShape 1 (fun g w =>
    let octets := g.value? 'c'
    let amount := (octets <|> g.value? 'n').getD "10"
    match Condition.number? amount with
    | none =>
        let unit := if octets.isSome then "bytes" else "lines"
        (1, w.blame "head" s!"invalid number of {unit}: '{amount}'")
    | some n =>
        let (files, good, w) := readFiles "head" g.operands w
        let part {α : Type} (xs : List α) : List α :=
          if n < 0 || amount.startsWith "-" then xs.take (xs.length - n.natAbs) else xs.take n.natAbs
        let text := withHeadings g files fun cs =>
          String.ofList (if octets.isSome then part cs else (part (endedLines cs)).flatten)
        w.emit "head" text (statusOf good)) (withCounts words)

/-- Writes the last lines or octets of files. -/
def tail : Plain := fun words =>
  withOptions "tail" partShape 1 (fun g w =>
    let octets := g.value? 'c'
    let amount := (octets <|> g.value? 'n').getD "10"
    match Condition.number? amount with
    | none =>
        let unit := if octets.isSome then "bytes" else "lines"
        (1, w.blame "tail" s!"invalid number of {unit}: '{amount}'")
    | some n =>
        let (files, good, w) := readFiles "tail" g.operands w
        let part {α : Type} (xs : List α) : List α :=
          if amount.startsWith "+" then xs.drop (n.natAbs - 1)
          else xs.drop (xs.length - n.natAbs)
        let text := withHeadings g files fun cs =>
          String.ofList (if octets.isSome then part cs else (part (endedLines cs)).flatten)
        w.emit "tail" text (statusOf good)) (withCounts words)

/-! ### Counts -/

def countWords : Bool → List Char → Nat
  | inWord, [] => if inWord then 1 else 0
  | inWord, c :: rest =>
      if Pattern.inClass "space" c then (if inWord then 1 else 0) + countWords false rest
      else countWords true rest

/-- Counts lines, words and octets. -/
def wc : Plain :=
  withOptions "wc"
    { plain := "lwcm", long := [("lines", 'l'), ("words", 'w'), ("bytes", 'c'), ("chars", 'm')] } 1
    fun g w =>
    let isPipe := match w.channel? 0 with
      | some (_, .file ..) => false
      | _ => true
    let (files, good, w) := readFiles "wc" g.operands w
    let all := g.options.isEmpty
    let counts (cs : List Char) : List Nat :=
      (if all || g.has 'l' then [cs.count '\n'] else []) ++
      (if all || g.has 'w' then [countWords false cs] else []) ++
      (if all || g.has 'c' || g.has 'm' then [cs.length] else [])
    let sum := (files.map (·.2)).flatten
    let rows := files.map fun (path, cs) =>
      (counts cs, if g.operands.isEmpty then "" else " " ++ path)
    let total (f : List Char → Nat) : Nat := files.foldl (fun n (_, cs) => n + f cs) 0
    let totals := (if all || g.has 'l' then [total (·.count '\n')] else []) ++
      (if all || g.has 'w' then [total (countWords false)] else []) ++
      (if all || g.has 'c' || g.has 'm' then [sum.length] else [])
    let rows := if 1 < g.operands.length then rows ++ [(totals, " total")] else rows
    let single := (counts []).length = 1 && g.operands.length ≤ 1
    let fromPipe := (g.operands.isEmpty || g.operands.contains "-") && isPipe
    let width := if single then 1 else if fromPipe then 7 else (toString sum.length).length
    let text := rows.map fun (numbers, name) =>
      " ".intercalate (numbers.map fun n => padLeft width (toString n)) ++ name ++ "\n"
    w.emit "wc" (String.join text) (statusOf good)

/-! ### Order -/

/-- Whether a text comes before another one or is the same, character by character. -/
def textLe : List Char → List Char → Bool
  | [], _ => true
  | _ :: _, [] => false
  | a :: as, b :: bs => a < b || (a == b && textLe as bs)

/-- The number at the front of a line, in thousandths of thousandths. -/
def leadingNumber (line : String) : Int :=
  match Fraction.read? (line.toList.dropWhile fun c => c = ' ' || c = '\t') with
  | some (r, _) =>
      let n := r.numerator * 1000000 / r.denominator
      if r.negative then -(n : Int) else n
  | none => 0

/-- The fields of a line, with the blanks in front of each, and the field so far in reverse. -/
def cutAtBlanks : List Char → List Char → Bool → List (List Char)
  | [], field, _ => [field.reverse]
  | c :: rest, field, inField =>
      if c = ' ' || c = '\t' then
        if inField then field.reverse :: cutAtBlanks rest [c] false
        else cutAtBlanks rest (c :: field) false
      else cutAtBlanks rest (c :: field) true

/-- The fields of a line: between blanks, which belong to the field after them, or between
separators. -/
def fieldsOfLine (separator : Option Char) (cs : List Char) : List (List Char) :=
  match separator with
  | some c => ((String.ofList cs).splitToList (· == c)).map (·.toList)
  | none => cutAtBlanks cs [] false

def keyOfLine (separator : Option Char) (spec : String) (line : String) : String :=
  let bounds := spec.splitToList (· == ',')
  let field (text : String) : Nat := Fraction.natOf (text.toList.takeWhile Char.isDigit)
  let fields := fieldsOfLine separator line.toList
  let first := field (bounds.headD "1") - 1
  let count := match bounds with
    | [_, last] => field last - first
    | _ => fields.length
  let between := match separator with
    | some c => [c]
    | none => []
  String.ofList (between.intercalate ((fields.drop first).take count))

def sort : Plain :=
  withOptions "sort"
    { plain := "rnufbshgVMcCz", valued := "ktoST"
      long := [("reverse", 'r'), ("numeric-sort", 'n'), ("unique", 'u'), ("ignore-case", 'f'),
        ("key", 'k'), ("field-separator", 't'), ("output", 'o')] } 2 fun g w =>
    let (files, good, w) := readFiles "sort" g.operands w
    let lines := files.flatMap fun (_, cs) => (linesOfText cs).lines
    let separator := (g.value? 't').bind (·.toList.head?)
    let spec := g.value? 'k'
    let letters := (spec.getD "").toList
    let numeric := g.has 'n' || letters.contains 'n'
    let folded := g.has 'f' || letters.contains 'f'
    let reverse := g.has 'r' || letters.contains 'r'
    let key (line : String) : String :=
      let part := match spec with
        | some spec => keyOfLine separator spec line
        | none => line
      if folded then String.ofList (part.toList.map Char.toUpper) else part
    let keyLe (a b : String) : Bool :=
      if numeric then leadingNumber (key a) ≤ leadingNumber (key b)
      else textLe (key a).toList (key b).toList
    let same (a b : String) : Bool := keyLe a b && keyLe b a
    let le (a b : String) : Bool :=
      if same a b then
        if g.has 's' || g.has 'u' then true
        else if reverse then textLe b.toList a.toList else textLe a.toList b.toList
      else if reverse then keyLe b a else keyLe a b
    let sorted := lines.mergeSort le
    let sorted := if g.has 'u' then
        sorted.foldr (fun line kept => match kept with
          | next :: rest => if same line next then line :: rest else line :: kept
          | [] => [line]) []
      else sorted
    let status := if good then 0 else 2
    if g.has 'c' then (if lines = sorted then 0 else 1, w)
    else match g.value? 'o' with
      | some path =>
          match w.writeFile .truncate path (Octets.ofText (unlines sorted)) with
          | .ok w => (status, w)
          | .error e => (2, w.blame "sort" s!"open failed: {path}: {e.bareMessage}")
      | none => w.emit "sort" (unlines sorted) status

/-- Runs of lines that count as the same, each with its first line and its length. -/
def runsOf (same : String → String → Bool) (lines : List String) : List (String × Nat) :=
  lines.foldr (fun line runs => match runs with
    | (next, n) :: rest => if same line next then (line, n + 1) :: rest else (line, 1) :: runs
    | [] => [(line, 1)]) []

/-- Writes one line of each run of equal lines. -/
def uniq : Plain :=
  withOptions "uniq"
    { plain := "cdui", valued := "fsw", long := [("count", 'c'), ("repeated", 'd'), ("unique", 'u')] } 1
    fun g w =>
    let (files, good, w) := readFiles "uniq" (g.operands.take 1) w
    let same (a b : String) : Bool :=
      if g.has 'i' then a.toLower == b.toLower else a == b
    let runs := (runsOf same (linesOfText (files.flatMap (·.2))).lines).filter fun (_, n) =>
      !(g.has 'd' && n = 1) && !(g.has 'u' && n ≠ 1)
    let text := unlines (runs.map fun (line, n) =>
      if g.has 'c' then padLeft 7 (toString n) ++ " " ++ line else line)
    match g.operands[1]? with
    | some path =>
        match w.writeFile .truncate path (Octets.ofText text) with
        | .ok w => (statusOf good, w)
        | .error e => (1, w.blame "uniq" s!"{path}: {e.bareMessage}")
    | none => w.emit "uniq" text (statusOf good)

/-! ### Characters and fields -/

/-- The characters of a set, in order: single ones, escapes, ranges and classes. -/
def setFrom : Nat → List Char → List Char
  | 0, _ => []
  | _, [] => []
  | count + 1, '\\' :: rest =>
      match Escapes.read { octal := true } rest with
      | (some ['\\', c], rest) => c :: setFrom count rest
      | (some written, rest) => written ++ setFrom count rest
      | (none, rest) => setFrom count rest
  | count + 1, '[' :: ':' :: rest =>
      let name := rest.takeWhile (· != ':')
      match rest.drop name.length with
      | ':' :: ']' :: after =>
          ((List.range 256).map Char.ofNat).filter (Pattern.inClass (String.ofList name)) ++
            setFrom count after
      | _ => '[' :: ':' :: setFrom count rest
  | count + 1, a :: '-' :: b :: rest =>
      if a ≤ b then
        (List.range (b.toNat - a.toNat + 1)).map (fun i => Char.ofNat (a.toNat + i)) ++
          setFrom count rest
      else a :: setFrom count ('-' :: b :: rest)
  | count + 1, c :: rest => c :: setFrom count rest

def setOf (word : String) : List Char :=
  setFrom (word.length + 1) word.toList

/-- One character of each run of a character of the set. -/
def squeeze (set : List Char) : List Char → List Char
  | a :: b :: rest =>
      if a = b && set.contains a then squeeze set (b :: rest) else a :: squeeze set (b :: rest)
  | cs => cs

/-- Replaces, removes or squeezes characters of the input. -/
def tr : Plain :=
  withOptions "tr"
    { plain := "dscCt", ordered := true
      long := [("delete", 'd'), ("squeeze-repeats", 's'), ("complement", 'c')] } 1 fun g w =>
    match g.operands with
    | [] => misused "tr" "missing operand" 1 w
    | first :: more =>
        match w.readAll 0 with
        | .error e => (1, w.blame "tr" s!"read error: {e.bareMessage}")
        | .ok (octets, w) =>
            let cs := charsOf octets
            let from₁ := setOf first
            let into := more.head?.map setOf
            let complement := g.has 'c' || g.has 'C'
            let isIn (c : Char) : Bool := from₁.contains c != complement
            if g.has 'd' then
              let kept := cs.filter (!isIn ·)
              w.emit "tr" (String.ofList (match into with
                | some set => if g.has 's' then squeeze set kept else kept
                | none => kept)) 0
            else match into with
              | none =>
                  if g.has 's' then
                    let set := if complement then
                        ((List.range 256).map Char.ofNat).filter isIn else from₁
                    w.emit "tr" (String.ofList (squeeze set cs)) 0
                  else misused "tr" s!"missing operand after '{first}'" 1 w
              | some into =>
                  let last := into.getLast?.getD ' '
                  let change (c : Char) : Char :=
                    if complement then if isIn c then last else c
                    else match from₁.reverse.findIdx? (· == c) with
                      | some i => into[from₁.length - 1 - i]?.getD last
                      | none => c
                  let changed := cs.map change
                  w.emit "tr" (String.ofList (if g.has 's' then squeeze into changed else changed)) 0

/-- Whether a list of ranges, as in `1,3-5,7-`, holds a number. -/
def inList (spec : String) (n : Nat) : Bool :=
  (spec.splitToList (· == ',')).any fun part =>
    let number (cs : List Char) : Option Nat := (String.ofList cs).toNat?
    let first := part.toList.takeWhile (· != '-')
    match part.toList.dropWhile (· != '-') with
    | [] => number first = some n
    | _ :: last =>
        (number first).getD 1 ≤ n && (if last.isEmpty then true else n ≤ (number last).getD 0)

/-- Writes parts of each line. -/
def cut : Plain :=
  withOptions "cut"
    { plain := "sn", valued := "dfcb"
      long := [("delimiter", 'd'), ("fields", 'f'), ("characters", 'c'), ("bytes", 'b'),
        ("only-delimited", 's')] } 1 fun g w =>
    let columns := g.value? 'c' <|> g.value? 'b'
    if columns.isNone && !g.has 'f' then
      misused "cut" "you must specify a list of bytes, characters, or fields" 1 w
    else
      let (files, good, w) := readFiles "cut" g.operands w
      let delimiter := ((g.value? 'd').bind (·.toList.head?)).getD '\t'
      let pick {α : Type} (spec : String) (xs : List α) : List α :=
        (xs.zipIdx.filter fun (_, i) => inList spec (i + 1)).map (·.1)
      let part (line : String) : Option String :=
        match columns with
        | some spec => some (String.ofList (pick spec line.toList))
        | none =>
            if line.toList.contains delimiter then
              some ((String.singleton delimiter).intercalate
                (pick ((g.value? 'f').getD "") (line.splitToList (· == delimiter))))
            else if g.has 's' then none else some line
      let lines := files.flatMap fun (_, cs) => (linesOfText cs).lines
      w.emit "cut" (unlines (lines.filterMap part)) (statusOf good)

/-- Writes the lines of files side by side, or the lines of each file in a row. -/
def paste : Plain :=
  withOptions "paste" { plain := "s", valued := "d" } 1 fun g w =>
    let (files, good, w) := readFiles "paste" g.operands w
    let between := (g.value? 'd').getD "\t"
    let columns := files.map fun (_, cs) => (linesOfText cs).lines
    let rows := if g.has 's' then columns
      else
        let height := (columns.map List.length).foldl max 0
        (List.range height).map fun i => columns.map fun column => column[i]?.getD ""
    w.emit "paste" (unlines (rows.map between.intercalate)) (statusOf good)

/-- Writes the input to the output and to files. -/
def tee : Plain :=
  withOptions "tee" { plain := "aip", long := [("append", 'a')] } 1 fun g w =>
    match w.readAll 0 with
    | .error e => (1, w.blame "tee" s!"read error: {e.bareMessage}")
    | .ok (octets, w) =>
        let (good, w) := g.operands.foldl (fun (good, w) path =>
          match w.writeFile (if g.has 'a' then .append else .truncate) path octets with
          | .ok w => (good, w)
          | .error e => (false, w.blame "tee" s!"{path}: {e.bareMessage}")) (true, w)
        w.emit "tee" (Octets.toText octets) (statusOf good)

end ReviewChannel.Process.Programs
