import ReviewChannel.Process.Pattern

/-!
Fields: what a text falls apart into. An expanded text is a list of runs, and each run says what
separates fields in it. A separator that is blank separates together with the blanks around it; any
other one separates by itself.

* `fieldsOf` gives the fields of runs, or only a number of them, of which the last one is the rest.
-/

namespace ReviewChannel.Process.Shell

/-- A part of an expanded text. -/
inductive Glyph where
  /-- A character that may have a meaning in a pattern. -/
  | active (c : Char)
  /-- A protected character. -/
  | fixed (c : Char)
  /-- A quote: the field counts also if nothing else is in it. -/
  | mark
  /-- The end of an argument among others. -/
  | stop
deriving DecidableEq, Repr

/-- What separates fields in a run. -/
inductive Separation where
  | nothing
  /-- Separators and the ends of arguments. -/
  | separators
  /-- Only the ends of arguments. -/
  | arguments
deriving DecidableEq, Repr

/-- A stretch of an expanded text. -/
structure Run where
  separation : Separation
  glyphs : List Glyph
deriving Repr

namespace Glyph

def marked? : Glyph → Option Marked
  | active c => some (c, true)
  | fixed c => some (c, false)
  | mark | stop => none

def ofText (quoted : Bool) (s : String) : List Glyph :=
  s.toList.map (if quoted then fixed else active)

def marks (gs : List Glyph) : List Marked :=
  gs.filterMap marked?

def spell (gs : List Glyph) : String :=
  Pattern.text (marks gs)

end Glyph

/-! ### Cutting -/

structure Cutting where
  /-- The fields, the latest first. -/
  fields : List (List Glyph) := []
  /-- The glyphs of the field that has begun, the latest first. -/
  current : List Glyph := []
  /-- Whether the last field was ended by a blank, so that a separator after it ends no other
  one. -/
  spaced : Bool := false
  /-- How many more fields there may be; `none` for any number. -/
  left : Option Nat := none
  /-- How much of the last field counts, if only separators have followed. -/
  kept : Option Nat := none
  /-- Whether the last run with separators has held whole arguments. -/
  whole : Bool := false

/-- Whether a glyph separates fields, and whether it does so as a blank. -/
def separates (separators : List Char) (separation : Separation) (g : Glyph) : Bool × Bool :=
  match g with
  | .stop => (true, true)
  | .active c | .fixed c =>
      let isOne := separation = .separators && separators.contains c
      (isOne, isOne && (c = ' ' || c = '\t' || c = '\n'))
  | .mark => (false, false)

/-- Goes past a glyph of the last field, which takes the rest. -/
def Cutting.pastLast (g : Glyph) (isOne isBlank : Bool) (t : Cutting) : Cutting :=
  let kept := if isBlank then t.kept <|> some t.current.length
    else if isOne && t.spaced then t.kept else none
  { t with current := g :: t.current, kept, spaced := t.spaced && isBlank }

/-- Goes past a glyph. After a run of whole arguments, blanks are separators like others. -/
def Cutting.past (separators : List Char) (separation : Separation) (wholeBefore : Bool) (g : Glyph)
    (t : Cutting) : Cutting :=
  let (isOne, isBlank) := separates separators separation g
  if t.left = some 0 then t.pastLast g isOne isBlank
  else if t.spaced then
    if isOne then { t with current := [], spaced := isBlank }
    else { t with current := [g], spaced := false }
  else if isOne then
    let spaced := isBlank && !(wholeBefore || separation = .arguments)
    if spaced && t.current.isEmpty then t
    else match t.left with
      | some 1 => { t with left := some 0, kept := some t.current.length, spaced,
                           current := g :: t.current }
      | left => { t with fields := t.current.reverse :: t.fields, current := [], spaced,
                         left := left.map (· - 1) }
  else { t with current := g :: t.current }

def Cutting.pastRun (separators : List Char) (t : Cutting) (r : Run) : Cutting :=
  if r.separation = .nothing then { t with current := r.glyphs.reverse ++ t.current }
  else
    let before := t.whole
    r.glyphs.foldl (fun t g => t.past separators r.separation before g)
      { t with spaced := false, whole := r.separation = .arguments }

/-- The fields when the text is over. -/
def Cutting.finish (t : Cutting) : List (List Glyph) :=
  let last := match t.kept with
    | some count => t.current.reverse.take count
    | none => t.current.reverse
  (if t.whole || !last.isEmpty then last :: t.fields else t.fields).reverse

/-- The fields of runs: any number of them, or at most `limit`. -/
def fieldsOf (separators : List Char) (limit : Option Nat) (runs : List Run) : List (List Glyph) :=
  (runs.foldl (Cutting.pastRun separators) { left := limit }).finish

end ReviewChannel.Process.Shell
