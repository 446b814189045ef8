import ReviewChannel.Text.Lines

/-!
Laws of lines: a line feed cuts octets in two, wherever it stands.

* `cutLines_append_lineFeed` — the pieces before it and the pieces after it are cut by themselves.
* `rawLinesOf_append` — octets that are empty or end with a line feed can be followed by anything.
* `rawLinesOf_flatMap` — lines that are written one after the other are read as these lines.
* `Splits` — the rule by which octets are cut into lines, and `linesOf_eq_iff` — these are the lines
  of the octets, and no others are.
-/

namespace ReviewChannel

theorem cutLines_ne_nil (octets : List UInt8) : cutLines octets ≠ [] := by
  cases octets with
  | nil => exact List.cons_ne_nil _ _
  | cons b rest =>
      rw [cutLines]
      split
      · exact List.cons_ne_nil _ _
      · split <;> exact List.cons_ne_nil _ _

/-- A line feed cuts octets into those before it and those after it. -/
theorem cutLines_append_lineFeed (before after : List UInt8) :
    cutLines (before ++ lineFeed :: after) = cutLines before ++ cutLines after := by
  induction before with
  | nil => rfl
  | cons b before ih =>
      rw [List.cons_append, cutLines, cutLines, ih]
      split
      · rfl
      · obtain ⟨line, more, first⟩ := List.exists_cons_of_ne_nil (cutLines_ne_nil before)
        rw [first]
        rfl

/-- Octets without a line feed are one piece. -/
theorem cutLines_of_not_mem {octets : List UInt8} (none : lineFeed ∉ octets) :
    cutLines octets = [octets] := by
  induction octets with
  | nil => rfl
  | cons b rest ih =>
      rw [List.mem_cons, not_or] at none
      rw [cutLines, if_neg (Ne.symm none.1), ih none.2]

/-- Whether octets are whole lines: there are none, or the last one is a line feed. -/
def Ended (octets : List UInt8) : Prop :=
  octets = [] ∨ ∃ before, octets = before ++ [lineFeed]

/-- Whole lines can be followed by anything. -/
theorem rawLinesOf_append {octets : List UInt8} (ended : Ended octets) (after : List UInt8) :
    rawLinesOf (octets ++ after) = rawLinesOf octets ++ rawLinesOf after := by
  rcases ended with rfl | ⟨before, rfl⟩
  · rfl
  · have whole : rawLinesOf (before ++ [lineFeed]) = cutLines before := by
      simp [rawLinesOf, cutLines_append_lineFeed, cutLines]
    rw [whole, List.append_assoc, List.singleton_append]
    simp only [rawLinesOf, cutLines_append_lineFeed]
    have last := List.getLast?_eq_some_getLast (cutLines_ne_nil after)
    rw [List.getLast?_append, last, Option.some_or,
      List.dropLast_append_of_ne_nil (cutLines_ne_nil after)]
    split <;> rfl

theorem rawLinesOf_line {line : List UInt8} (none : lineFeed ∉ line) :
    rawLinesOf (line ++ [lineFeed]) = [line] := by
  simp [rawLinesOf, cutLines_append_lineFeed, cutLines_of_not_mem none, cutLines]

/-- Lines that are written one after the other are read as these lines. -/
theorem rawLinesOf_flatMap {lines : List (List UInt8)} (none : ∀ line ∈ lines, lineFeed ∉ line) :
    rawLinesOf (lines.flatMap (· ++ [lineFeed])) = lines := by
  induction lines with
  | nil => rfl
  | cons line lines ih =>
      have first := none line (List.mem_cons_self ..)
      rw [List.flatMap_cons, rawLinesOf_append (Or.inr ⟨line, rfl⟩), rawLinesOf_line first,
        ih fun l mem => none l (List.mem_cons_of_mem _ mem), List.singleton_append]

/-! ### Lines without their ends -/

/-- Octets are cut into lines: a line goes on to the next line feed, and a carriage return before
that is not part of it; octets without a line feed are one line, unless there are none. -/
inductive Splits : List UInt8 → List (List UInt8) → Prop where
  | nil : Splits [] []
  | last {line : List UInt8} (nonempty : line ≠ []) (none : lineFeed ∉ line) : Splits line [line]
  | line {line rest : List UInt8} {lines : List (List UInt8)} (none : lineFeed ∉ line)
      (bare : line.getLast? ≠ some carriageReturn) (later : Splits rest lines) :
      Splits (line ++ lineFeed :: rest) (line :: lines)
  | returned {line rest : List UInt8} {lines : List (List UInt8)} (none : lineFeed ∉ line)
      (later : Splits rest lines) :
      Splits (line ++ carriageReturn :: lineFeed :: rest) (line :: lines)

theorem dropReturn_concat (line : List UInt8) : dropReturn (line ++ [carriageReturn]) = line := by
  simp [dropReturn]

theorem dropReturn_of_bare {line : List UInt8} (bare : line.getLast? ≠ some carriageReturn) :
    dropReturn line = line := by
  rw [List.getLast?_eq_head?_reverse] at bare
  unfold dropReturn
  split
  · rename_i b before reversed
    rw [reversed, List.head?_cons, ne_eq, Option.some.injEq] at bare
    exact if_neg bare
  · rename_i reversed
    exact (List.reverse_eq_nil_iff.mp reversed).symm

/-- All pieces before the last ones were ended. -/
theorem linesOfPieces_append (pieces : List (List UInt8)) {more : List (List UInt8)}
    (some : more ≠ []) :
    linesOfPieces (pieces ++ more) = pieces.map dropReturn ++ linesOfPieces more := by
  induction pieces with
  | nil => rfl
  | cons piece pieces ih =>
      have later : pieces ++ more ≠ [] := List.append_ne_nil_of_right_ne_nil _ some
      obtain ⟨next, others, eq⟩ := List.exists_cons_of_ne_nil later
      rw [List.cons_append, List.map_cons, List.cons_append, ← ih, eq]
      rfl

/-- The first line of octets with a line feed. -/
theorem linesOf_append_lineFeed {line : List UInt8} (none : lineFeed ∉ line) (rest : List UInt8) :
    linesOf (line ++ lineFeed :: rest) = dropReturn line :: linesOf rest := by
  rw [linesOf, cutLines_append_lineFeed, cutLines_of_not_mem none,
    linesOfPieces_append _ (cutLines_ne_nil rest)]
  rfl

theorem linesOf_of_not_mem {line : List UInt8} (nonempty : line ≠ []) (none : lineFeed ∉ line) :
    linesOf line = [line] := by
  rw [linesOf, cutLines_of_not_mem none, linesOfPieces, if_neg (by simpa using nonempty)]

/-- Octets that end with a line feed can be followed by any lines. -/
theorem linesOf_append (before after : List UInt8) :
    linesOf (before ++ lineFeed :: after) = linesOf (before ++ [lineFeed]) ++ linesOf after := by
  rw [linesOf, linesOf, cutLines_append_lineFeed, cutLines_append_lineFeed,
    linesOfPieces_append _ (cutLines_ne_nil after), linesOfPieces_append _ (cutLines_ne_nil [])]
  simp [cutLines, linesOfPieces, linesOf]

/-- Octets are cut into their lines. The recursion goes from one line feed to the next. -/
theorem splits_linesOf (octets : List UInt8) : Splits octets (linesOf octets) := by
  by_cases ended : lineFeed ∈ octets
  · obtain ⟨line, rest, eq, none⟩ := List.eq_append_cons_of_mem ended
    have shorter : rest.length < octets.length := by
      rw [eq, List.length_append, List.length_cons]
      omega
    have later := splits_linesOf rest
    rw [eq, linesOf_append_lineFeed none]
    by_cases returned : line.getLast? = some carriageReturn
    · obtain ⟨front, rfl⟩ := List.getLast?_eq_some_iff.mp returned
      rw [dropReturn_concat, List.append_assoc]
      exact .returned (fun mem => none (List.mem_append_left _ mem)) later
    · rw [dropReturn_of_bare returned]
      exact .line none returned later
  · by_cases empty : octets = []
    · rw [empty]
      exact .nil
    · rw [linesOf_of_not_mem empty ended]
      exact .last empty ended
termination_by octets.length

/-- The lines of octets are those into which they are cut. -/
theorem linesOf_eq_iff {octets : List UInt8} {lines : List (List UInt8)} :
    linesOf octets = lines ↔ Splits octets lines := by
  constructor
  · rintro rfl
    exact splits_linesOf octets
  · intro splits
    induction splits with
    | nil => rfl
    | last nonempty none => exact linesOf_of_not_mem nonempty none
    | line none bare _ ih => rw [linesOf_append_lineFeed none, dropReturn_of_bare bare, ih]
    | @returned line rest lines none _ ih =>
        have unended : lineFeed ∉ line ++ [carriageReturn] := by
          simpa [lineFeed, carriageReturn] using none
        have read := linesOf_append_lineFeed unended rest
        rw [List.append_assoc, List.singleton_append] at read
        rw [read, dropReturn_concat, ih]

end ReviewChannel
