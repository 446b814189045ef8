import Mathlib.Tactic.ByContra
import ReviewChannel.Connection
import ReviewChannel.Proofs.LogLines

/-!
The protocol log on a file whose writes may be short, fail, and succeed again later.

* `Sink.Honest` — a file that has at its end what it says it took, and nothing else.
* `Writer.given` — what a writer has of all that it was given, in the file or in the buffer.
  Emptying the buffer keeps it (`Writer.given_flush`); a piece adds itself, or a part of it if it
  fails (`Writer.given_put`).
* `ProtocolLog.Leaves` — what a call leaves of its line, by its result
  (`ProtocolLog.append_leaves`).
* `ProtocolLog.Breaks` — a call leaves a piece of its line without the end. Only a call that fails
  does, and only with a line as large as the buffer or one that fills it up
  (`ProtocolLog.refused_of_breaks`).
* `ProtocolLog.given_appendEach` — calls of which none breaks leave whole lines.
* `ProtocolLog.log_survives_faults` — so a call that succeeds ends a file of whole lines.
* `ProtocolLog.not_allLinesLogged` — a file may have lines that are of no event.
-/

namespace ReviewChannel

/-! ### Files that may fail -/

/-- A file that has at its end what it says it took. If it fails, it took nothing. -/
structure Sink.Honest {σ : Type} [Sink σ] (content : σ → List UInt8) : Prop where
  took : ∀ {octets : List UInt8} {file file' : σ} {n : Nat},
    Sink.offer octets file = (.ok n, file') → content file' = content file ++ octets.take n
  failed : ∀ {octets : List UInt8} {file file' : σ} {e : SystemError},
    Sink.offer octets file = (.error e, file') → content file' = content file

namespace Script

/-- A file is honest, whatever its script says. -/
theorem honest : Sink.Honest Script.content where
  took {octets file file' n} offered := by
    simp only [Sink.offer, offer] at offered
    cases outcome : file.outcome file.writes with
    | error e => simp [outcome] at offered
    | ok most =>
        rw [outcome] at offered
        obtain ⟨count, rfl⟩ := Prod.mk.inj offered
        obtain rfl := Except.ok.inj count
        exact congrArg _ List.take_eq_take_min
  failed {octets file file' e} offered := by
    simp only [Sink.offer, offer] at offered
    cases outcome : file.outcome file.writes with
    | error e' =>
        rw [outcome] at offered
        obtain ⟨-, rfl⟩ := Prod.mk.inj offered
        rfl
    | ok most => simp [outcome] at offered

/-- No write fails any more. -/
def Recovers (file : Script) : Prop :=
  ∀ write, file.writes ≤ write → ∃ more, file.outcome write = .ok (more + 1)

theorem willing_of_recovers : Sink.Willing Script.content Recovers where
  offer {file} b rest good := by
    obtain ⟨more, outcome⟩ := good file.writes (Nat.le_refl _)
    refine ⟨min more rest.length, (offer (b :: rest) file).2, ?_, ?_, ?_⟩
    · simp only [Sink.offer, offer, outcome, List.length_cons, Nat.add_min_add_right]
    · simp only [offer, outcome, List.take_succ_cons]
      rw [List.take_eq_take_min]
    · simp only [offer, outcome]
      exact fun write later => good write (Nat.le_of_succ_le later)

end Script

variable {σ : Type} [Sink σ] {content : σ → List UInt8}

/-! ### What a writer was given -/

namespace Writer

omit [Sink σ] in
/-- What a writer has of all that it was given, in the file or in the buffer. -/
def given (content : σ → List UInt8) (w : Writer σ) : List UInt8 :=
  content w.file ++ w.pending

/-- A file that is offered octets takes the front of them, and all of them unless it fails. -/
theorem offerAll_honest (honest : Sink.Honest content) (stalled : SystemError)
    (octets : List UInt8) (file : σ) :
    ∃ result left file' taken, offerAll stalled octets file = (result, left, file') ∧
      octets = taken ++ left ∧ content file' = content file ++ taken ∧
      (result = .ok () ↔ left = []) := by
  -- Each offer leaves a shorter rest, which need not be the tail.
  induction length : octets.length using Nat.strongRecOn generalizing octets file with
  | ind n ih =>
      subst length
      cases octets with
      | nil =>
          refine ⟨.ok (), [], file, [], ?_, rfl, (List.append_nil _).symm, by simp⟩
          rw [offerAll]
      | cons b rest =>
          rw [offerAll]
          generalize offered : Sink.offer (b :: rest) file = answered
          obtain ⟨answer, next⟩ := answered
          cases answer with
          | error e =>
              exact ⟨.error e, b :: rest, next, [], rfl, rfl,
                (honest.failed offered).trans (List.append_nil _).symm, by simp⟩
          | ok count =>
              have grown := honest.took offered
              cases count with
              | zero => exact ⟨.error stalled, b :: rest, next, [], rfl, rfl, grown, by simp⟩
              | succ count =>
                  have shorter : (rest.drop count).length < (b :: rest).length := by
                    rw [List.length_drop, List.length_cons]
                    omega
                  obtain ⟨result, left, last, taken, all, split, whole, ended⟩ :=
                    ih _ shorter (rest.drop count) next rfl
                  refine ⟨result, left, last, (b :: rest).take (count + 1) ++ taken, all, ?_, ?_,
                    ended⟩
                  · rw [List.append_assoc, ← split, List.take_succ_cons, List.cons_append,
                      List.take_append_drop]
                  · rw [whole, grown, List.append_assoc]

/-- Emptying the buffer keeps what was given, also if it fails. -/
theorem given_flush (honest : Sink.Honest content) (w : Writer σ) :
    w.flush.2.given content = w.given content ∧ (w.flush.1 = .ok () ↔ w.flush.2.pending = []) := by
  obtain ⟨result, left, file, taken, offered, split, grown, ended⟩ :=
    offerAll_honest honest (.custom "failed to write the buffered data") w.pending w.file
  rw [flush, offered]
  refine ⟨?_, ended⟩
  rw [given, given, grown, List.append_assoc, ← split]

/-- What a piece adds to what was given: itself, or a part of it if it fails. Only a piece that is
as large as the buffer is given in part. -/
inductive Adds (piece : List UInt8) : Except SystemError Unit → List UInt8 → Prop where
  | whole : Adds piece (.ok ()) piece
  | part {front : List UInt8} (e : SystemError) (begins : front <+: piece) (unended : front ≠ piece)
      (large : front ≠ [] → capacity ≤ piece.length) : Adds piece (.error e) front

/-- A piece that fits, or that finds the buffer empty, adds itself or a beginning of itself. -/
theorem given_putFitting (honest : Sink.Honest content) (piece : List UInt8) {w : Writer σ}
    (empty : capacity ≤ piece.length → w.pending = []) :
    ∃ added, Adds piece (w.putFitting piece).1 added ∧
      (w.putFitting piece).2.given content = w.given content ++ added := by
  unfold putFitting
  by_cases large : capacity ≤ piece.length
  · obtain ⟨result, left, file, taken, offered, split, grown, ended⟩ :=
      offerAll_honest honest (.custom "failed to write whole buffer") piece w.file
    rw [if_pos large, offered]
    have given : Writer.given content { w with file } = w.given content ++ taken := by
      rw [Writer.given, Writer.given, grown, empty large, List.append_nil, List.append_nil]
    refine ⟨taken, ?_, given⟩
    cases result with
    | ok _ =>
        rw [ended.mp rfl, List.append_nil] at split
        exact split ▸ .whole
    | error e =>
        have unended : left ≠ [] := by
          intro all
          cases ended.mpr all
        refine .part e ⟨left, split.symm⟩ ?_ fun _ => large
        intro all
        rw [all] at split
        exact unended (List.self_eq_append_right.mp split)
  · rw [if_neg large]
    exact ⟨piece, .whole, (List.append_assoc ..).symm⟩

/-- A piece adds itself to what was given, or a part of it if it fails. -/
theorem given_put (honest : Sink.Honest content) (piece : List UInt8) (w : Writer σ) :
    ∃ added, Adds piece (w.put piece).1 added ∧
      (w.put piece).2.given content = w.given content ++ added := by
  unfold put
  by_cases fits : piece.length < capacity - w.pending.length
  · rw [if_pos fits]
    exact ⟨piece, .whole, (List.append_assoc ..).symm⟩
  · rw [if_neg fits]
    by_cases spills : capacity - w.pending.length < piece.length
    · rw [if_pos spills]
      obtain ⟨kept, emptied⟩ := w.given_flush honest
      generalize w.flush = flushed at kept emptied
      obtain ⟨result, w'⟩ := flushed
      cases result with
      | error e =>
          have nonempty : [] ≠ piece := by
            rintro rfl
            exact Nat.not_lt_zero _ spills
          refine ⟨[], .part e (List.nil_prefix ..) nonempty (absurd rfl), ?_⟩
          exact kept.trans (List.append_nil _).symm
      | ok _ =>
          obtain ⟨added, adds, given⟩ := given_putFitting honest piece (w := w') fun _ =>
            emptied.mp rfl
          exact ⟨added, adds, given.trans (congrArg (· ++ added) kept)⟩
    · rw [if_neg spills]
      apply given_putFitting honest piece
      intro large
      -- The piece is as long as the room in the buffer, so all of it is free.
      have positive : 0 < capacity := by decide
      refine List.length_eq_zero_iff.mp ?_
      omega

omit content in
/-- A single octet is taken unless the buffer is full. -/
theorem full_of_put_error {b : UInt8} {w : Writer σ} {e : SystemError}
    (failed : (w.put [b]).1 = .error e) : capacity ≤ w.pending.length := by
  unfold put at failed
  by_cases fits : [b].length < capacity - w.pending.length
  · rw [if_pos fits] at failed
    cases failed
  · rw [if_neg fits] at failed
    by_cases spills : capacity - w.pending.length < [b].length
    · rw [List.length_singleton] at spills
      omega
    · have small : ¬ capacity ≤ [b].length := by simp [capacity]
      rw [if_neg spills, putFitting, if_neg small] at failed
      cases failed

/-- A single octet adds itself, or nothing if the buffer was full. -/
theorem given_put_octet (honest : Sink.Honest content) (b : UInt8) (w : Writer σ) :
    ((w.put [b]).1 = .ok () ∧ (w.put [b]).2.given content = w.given content ++ [b]) ∨
      ∃ e, (w.put [b]).1 = .error e ∧ (w.put [b]).2.given content = w.given content ∧
        capacity ≤ w.pending.length := by
  obtain ⟨added, adds, given⟩ := w.given_put honest [b]
  have full (e : SystemError) := w.full_of_put_error (b := b) (e := e)
  generalize (w.put [b]).1 = result at adds full
  cases adds with
  | whole => exact Or.inl ⟨rfl, given⟩
  | part e begins unended large =>
      have nothing : added = [] := by
        by_contra some
        have lone := large some
        simp [capacity] at lone
      rw [nothing, List.append_nil] at given
      exact Or.inr ⟨e, rfl, given, full e rfl⟩

/-- A piece that was taken leaves a full buffer only if it filled it up. -/
theorem length_of_put_full (honest : Sink.Honest content) {piece : List UInt8} {w : Writer σ}
    (nonempty : piece ≠ []) (taken : (w.put piece).1 = .ok ())
    (full : capacity ≤ (w.put piece).2.pending.length) :
    w.pending.length + piece.length = capacity := by
  have positive : 0 < capacity := by decide
  have some := List.length_pos_iff.mpr nonempty
  unfold put at taken full
  by_cases fits : piece.length < capacity - w.pending.length
  · rw [if_pos fits, List.length_append] at full
    omega
  · rw [if_neg fits] at taken full
    by_cases spills : capacity - w.pending.length < piece.length
    · rw [if_pos spills] at taken full
      have emptied := (w.given_flush honest).2
      generalize w.flush = flushed at taken full emptied
      obtain ⟨result, w'⟩ := flushed
      cases result with
      | error e => cases taken
      | ok _ =>
          have empty : w'.pending = [] := emptied.mp rfl
          unfold putFitting at full
          by_cases large : capacity ≤ piece.length
          · simp only [if_pos large, empty, List.length_nil] at full
            omega
          · simp only [if_neg large, empty, List.nil_append] at full
            omega
    · omega

end Writer

namespace ProtocolLog

open Writer (given capacity)

/-! ### One call -/

/-- What a call leaves of its line, in the file or in the buffer, by its result. If it could not
write, that is a part of the line without the end. -/
inductive Leaves (stamp : String) (event : LogEvent) :
    Except LogFailure Unit → List UInt8 → Prop where
  | whole : Leaves stamp event (.ok ()) (lineOctets stamp event)
  | waits (e : SystemError) : Leaves stamp event (.error (.notFlushed e)) (lineOctets stamp event)
  | part {front : List UInt8} (e : SystemError)
      (begins : front <+: Utf8.encode (event.line stamp)) :
      Leaves stamp event (.error (.notWritten e)) front

theorem Leaves.refused {stamp : String} {event : LogEvent} {result : Except LogFailure Unit}
    {left : List UInt8} (h : Leaves stamp event result left) :
    left = lineOctets stamp event ∨ ∃ e, result = .error (.notWritten e) := by
  cases h with
  | whole => exact Or.inl rfl
  | waits e => exact Or.inl rfl
  | part e => exact Or.inr ⟨e, rfl⟩

theorem encode_line_ne_nil (stamp : String) (event : LogEvent) :
    Utf8.encode (event.line stamp) ≠ [] := by
  intro none
  have empty := Utf8.decode?_encode (event.line stamp)
  rw [none] at empty
  have chars : (event.line stamp).toList = [] := by
    rw [← Option.some.inj empty]
    rfl
  have some := Json.length_layOut_pos .compact 0 (event.entry stamp)
  rw [LogEvent.line, Json.compact, String.toList_ofList] at chars
  rw [chars] at some
  exact absurd some (Nat.lt_irrefl 0)

/-- How a call can change what was given: it adds what it leaves of its line. If that is a part, the
line is as large as the buffer or has filled it up. If the call succeeds, nothing waits. -/
theorem append_leaves (honest : Sink.Honest content) (stamp : String) (event : LogEvent)
    (w : Writer σ) :
    ∃ left, Leaves stamp event (append stamp event w).1 left ∧
      (append stamp event w).2.given content = w.given content ++ left ∧
      ((append stamp event w).1 = .ok () → (append stamp event w).2.pending = []) ∧
      (left ≠ [] → left ≠ lineOctets stamp event →
        capacity ≤ (Utf8.encode (event.line stamp)).length ∨
          w.pending.length + (Utf8.encode (event.line stamp)).length = capacity) := by
  obtain ⟨added, adds, given⟩ := w.given_put honest (Utf8.encode (event.line stamp))
  have full := w.length_of_put_full honest (encode_line_ne_nil stamp event)
  unfold append
  generalize w.put (Utf8.encode (event.line stamp)) = written at adds given full
  obtain ⟨result, w₁⟩ := written
  cases adds with
  | part e begins unended large =>
      refine ⟨added, .part e begins, given, fun ok => ?_, fun some _ => Or.inl (large some)⟩
      cases ok
  | whole =>
      have feed := w₁.given_put_octet honest lineFeed
      dsimp only
      generalize w₁.put [lineFeed] = ended at feed
      obtain ⟨result', w₂⟩ := ended
      rcases feed with ⟨rfl, given'⟩ | ⟨e, rfl, given', spills⟩
      · have all : w₂.given content = w.given content ++ lineOctets stamp event := by
          rw [given', given, lineOctets, List.append_assoc]
        obtain ⟨kept, emptied⟩ := w₂.given_flush honest
        dsimp only
        generalize w₂.flush = flushed at kept emptied
        obtain ⟨result'', w₃⟩ := flushed
        cases result'' with
        | error e =>
            refine ⟨_, .waits e, kept.trans all, fun ok => ?_, fun _ other => absurd rfl other⟩
            cases ok
        | ok _ =>
            exact ⟨_, .whole, kept.trans all, fun _ => emptied.mp rfl,
              fun _ other => absurd rfl other⟩
      · refine ⟨_, .part e (List.prefix_refl _), given'.trans given, fun ok => ?_, fun _ _ => ?_⟩
        · cases ok
        · exact Or.inr (full rfl spills)

/-- If the disk is full, a short line waits in an empty buffer. -/
theorem append_of_full {stamp : String} {event : LogEvent} {w : Writer σ} {e : SystemError}
    {file : σ} (empty : w.pending = []) (short : (lineOctets stamp event).length < capacity)
    (full : Sink.offer (lineOctets stamp event) w.file = (.error e, file)) :
    append stamp event w =
      (.error (.notFlushed e), { file, pending := lineOctets stamp event }) := by
  have room := short
  rw [lineOctets, List.length_append, List.length_singleton] at room
  have line : w.put (Utf8.encode (event.line stamp)) =
      (.ok (), { w with pending := Utf8.encode (event.line stamp) }) := by
    rw [Writer.put, empty, List.length_nil, if_pos (by omega), List.nil_append]
  have feed : Writer.put [lineFeed] { w with pending := Utf8.encode (event.line stamp) } =
      (.ok (), { w with pending := lineOctets stamp event }) := by
    rw [Writer.put, List.length_singleton, if_pos (by dsimp only; omega), lineOctets]
  have stuck : ∀ stalled, Writer.offerAll stalled (lineOctets stamp event) w.file =
      (.error e, lineOctets stamp event, file) := by
    intro stalled
    obtain ⟨b, rest, octets⟩ := List.exists_cons_of_ne_nil
      (List.append_ne_nil_of_right_ne_nil (Utf8.encode (event.line stamp))
        (List.cons_ne_nil lineFeed []))
    rw [lineOctets, octets] at full ⊢
    rw [Writer.offerAll, full]
  rw [append, line]
  dsimp only
  rw [feed]
  dsimp only
  rw [Writer.flush, stuck]

/-- A call breaks the log: it leaves a part of its line in the file or in the buffer, and not the
end. -/
def Breaks (content : σ → List UInt8) (stamp : String) (event : LogEvent) (w : Writer σ) : Prop :=
  ∃ front, front ≠ [] ∧ front <+: Utf8.encode (event.line stamp) ∧
    (append stamp event w).2.given content = w.given content ++ front

theorem not_lineOctets_prefix (stamp : String) (event : LogEvent) :
    ¬ lineOctets stamp event <+: Utf8.encode (event.line stamp) := by
  intro begins
  have shorter := begins.length_le
  rw [lineOctets, List.length_append, List.length_singleton] at shorter
  omega

/-- Only a call that could not write breaks the log, and only with a line that is as large as the
buffer, or that filled up what had been left in it. -/
theorem refused_of_breaks (honest : Sink.Honest content) {stamp : String} {event : LogEvent}
    {w : Writer σ} (breaks : Breaks content stamp event w) :
    (∃ e, (append stamp event w).1 = .error (.notWritten e)) ∧
      (capacity ≤ (Utf8.encode (event.line stamp)).length ∨
        w.pending.length + (Utf8.encode (event.line stamp)).length = capacity) := by
  obtain ⟨front, some, begins, adds⟩ := breaks
  obtain ⟨left, leaves, given, -, large⟩ := append_leaves honest stamp event w
  obtain rfl : front = left := List.append_cancel_left (adds.symm.trans given)
  have unended : front ≠ lineOctets stamp event := by
    intro all
    rw [all] at begins
    exact not_lineOctets_prefix stamp event begins
  exact ⟨leaves.refused.resolve_left unended, large some unended⟩

/-! ### Several calls -/

/-- No call breaks the log. -/
def Unbroken (content : σ → List UInt8) : List (String × LogEvent) → Writer σ → Prop
  | [], _ => True
  | (stamp, event) :: rest, w =>
      ¬ Breaks content stamp event w ∧ Unbroken content rest (append stamp event w).2

/-- The events of calls that could write: their lines are in the file or in the buffer. -/
def writtenOf : List (String × LogEvent) → List (Except LogFailure Unit) →
    List (String × LogEvent)
  | _ :: events, .error (.notWritten _) :: results => writtenOf events results
  | event :: events, _ :: results => event :: writtenOf events results
  | _, _ => []

theorem writtenOf_sublist (events : List (String × LogEvent))
    (results : List (Except LogFailure Unit)) : (writtenOf events results).Sublist events := by
  induction events, results using writtenOf.induct with
  | case1 event events e results ih => exact ih.cons event
  | case2 event events result results other ih =>
      rw [writtenOf]
      · exact ih.cons_cons event
      · exact other
  | case3 events results other none =>
      rw [writtenOf]
      · exact List.nil_sublist _
      · exact other
      · exact none

/-- What was given stays, whatever fails. -/
theorem given_begins (honest : Sink.Honest content) (events : List (String × LogEvent))
    (w : Writer σ) : w.given content <+: (appendEach events w).2.given content := by
  induction events generalizing w with
  | nil => exact List.prefix_refl _
  | cons event events ih =>
      obtain ⟨stamp, event⟩ := event
      obtain ⟨left, -, given, -⟩ := append_leaves honest stamp event w
      have first : w.given content <+: (append stamp event w).2.given content :=
        ⟨left, given.symm⟩
      exact first.trans (ih _)

/-- A call that does not break the log leaves all of its line, or nothing if it could not write. -/
theorem given_of_not_breaks (honest : Sink.Honest content) {stamp : String} {event : LogEvent}
    {w : Writer σ} (whole : ¬ Breaks content stamp event w)
    (results : List (Except LogFailure Unit)) (rest : List (String × LogEvent)) :
    (append stamp event w).2.given content ++ linesOctets (writtenOf rest results) =
      w.given content ++ linesOctets
        (writtenOf ((stamp, event) :: rest) ((append stamp event w).1 :: results)) := by
  obtain ⟨left, leaves, given, -⟩ := append_leaves honest stamp event w
  have part : left <+: Utf8.encode (event.line stamp) → left = [] := by
    intro begins
    by_contra some
    exact whole ⟨left, some, begins, given⟩
  rw [given, List.append_assoc]
  generalize (append stamp event w).1 = result at leaves
  cases leaves with
  | whole => rfl
  | waits e => rfl
  | part e begins =>
      rw [part begins]
      rfl

/-- Calls that do not break the log leave the lines of the events that were written, in order. -/
theorem given_appendEach (honest : Sink.Honest content) {events : List (String × LogEvent)}
    {w : Writer σ} (unbroken : Unbroken content events w) :
    (appendEach events w).2.given content =
      w.given content ++ linesOctets (writtenOf events (appendEach events w).1) := by
  induction events generalizing w with
  | nil => exact (List.append_nil _).symm
  | cons event events ih =>
      obtain ⟨stamp, event⟩ := event
      obtain ⟨whole, later⟩ := unbroken
      exact (ih later).trans (given_of_not_breaks honest whole _ events)

/-- Whatever fails, and whichever events are logged, a log in a file of whole lines goes on:

* a call succeeds when no write fails any more;
* a call that succeeds leaves nothing waiting, and its line, with the end, at the end of the file,
  after all that the file had;
* as long as no call has broken the log, the last line is then that of the event, and the others are
  those that the file had and, in order, those of the events that could be written;
* only a call that fails breaks the log, and only with a line as large as the buffer, or with one
  that fills up what an earlier failure had left in the buffer. -/
theorem log_survives_faults (honest : Sink.Honest content) {file : σ}
    (ended : Ended (content file)) (events : List (String × LogEvent)) (stamp : String)
    (event : LogEvent) :
    let calls := appendEach events { file }
    let call := append stamp event calls.2
    (∀ Good, Sink.Willing content Good → Good calls.2.file → call.1 = .ok ()) ∧
    (call.1 = .ok () →
      call.2.pending = [] ∧
      (∃ before, content file <+: before ∧
        content call.2.file = before ++ Utf8.encode (event.line stamp) ++ [lineFeed]) ∧
      (Unbroken content events { file } →
        (writtenOf events calls.1).Sublist events ∧
        rawLinesOf (content call.2.file) = rawLinesOf (content file) ++
          (writtenOf events calls.1).map (fun (stamp, event) => Utf8.encode (event.line stamp)) ++
          [Utf8.encode (event.line stamp)])) ∧
    ∀ (stamp : String) (event : LogEvent) (w : Writer σ), Breaks content stamp event w →
      (∃ e, (append stamp event w).1 = .error (.notWritten e)) ∧
        (8192 ≤ (Utf8.encode (event.line stamp)).length ∨
          w.pending.length + (Utf8.encode (event.line stamp)).length = 8192) := by
  intro calls call
  refine ⟨?_, ?_, ?_⟩
  · intro Good willing good
    obtain ⟨w', appended, -⟩ := append_holds willing ⟨good, rfl⟩ stamp event
    exact congrArg Prod.fst appended
  · intro ok
    obtain ⟨left, leaves, added, emptied, -⟩ := append_leaves honest stamp event calls.2
    have all : left = lineOctets stamp event := by
      refine leaves.refused.resolve_right ?_
      rintro ⟨e, failed⟩
      rw [show (append stamp event calls.2).1 = .ok () from ok] at failed
      cases failed
    rw [all] at added
    have empty : call.2.pending = [] := emptied ok
    have whole : content call.2.file = calls.2.given content ++ lineOctets stamp event := by
      rw [← added, given, empty, List.append_nil]
    have start : given content { file } = content file := List.append_nil _
    refine ⟨empty, ⟨calls.2.given content, ?_, ?_⟩, ?_⟩
    · rw [← start]
      exact given_begins honest events { file }
    · rw [whole, lineOctets, List.append_assoc]
    · intro unbroken
      have lines : content call.2.file =
          content file ++ linesOctets (writtenOf events calls.1 ++ [(stamp, event)]) := by
        rw [whole, given_appendEach honest unbroken, start, linesOctets_append, List.append_assoc]
        exact congrArg _ (congrArg _ (List.append_nil _).symm)
      refine ⟨writtenOf_sublist events calls.1, ?_⟩
      rw [lines, rawLinesOf_append ended, rawLinesOf_linesOctets, List.map_append,
        List.append_assoc]
      rfl
  · intro stamp event w breaks
    exact refused_of_breaks honest breaks

/-- A disk that is full for one write, and then takes three octets at a time. -/
theorem log_survives_full_disk :
    let file : Script :=
      { content := Utf8.encode "first\n"
        outcome := fun write => if write = 0 then .error (.code 28) else .ok 3 }
    let calls := appendEach [("noon", .disconnected)] { file }
    let call := append "later" .saveFailed calls.2
    Ended file.content ∧ calls.1 = [.error (.notFlushed (.code 28))] ∧ call.1 = .ok () ∧
      rawLinesOf call.2.file.content = [Utf8.encode "first",
        Utf8.encode (LogEvent.disconnected.line "noon"),
        Utf8.encode (LogEvent.saveFailed.line "later")] := by
  intro file calls call
  have ended : Ended file.content := Or.inr ⟨Utf8.encode "first", by decide⟩
  have short : (lineOctets "noon" .disconnected).length < capacity := by decide
  have first := append_of_full (w := { file }) rfl short rfl
  have waits : calls = ([.error (.notFlushed (.code 28))],
      { file := { file with writes := 1 }, pending := lineOctets "noon" .disconnected }) := by
    simp only [calls, appendEach, first]
    rfl
  have recovers : calls.2.file.Recovers := by
    rw [waits]
    exact fun write later => ⟨2, if_neg (Nat.ne_of_gt later)⟩
  obtain ⟨goesOn, settles, breaks⟩ := log_survives_faults Script.honest ended
    [("noon", .disconnected)] "later" .saveFailed
  have unbroken : Unbroken Script.content [("noon", .disconnected)] { file } := by
    refine ⟨?_, trivial⟩
    intro broken
    have large := (breaks "noon" .disconnected _ broken).2
    exact absurd large (by decide)
  have ok : call.1 = .ok () := goesOn _ Script.willing_of_recovers recovers
  obtain ⟨-, lines⟩ := (settles ok).2.2 unbroken
  have old : rawLinesOf file.content = [Utf8.encode "first"] := by decide
  refine ⟨ended, congrArg Prod.fst waits, ok, lines.trans ?_⟩
  rw [old, show appendEach [("noon", .disconnected)] { file } = _ from waits]
  rfl

/-! ### Lines of no event -/

/-- After each call that succeeds, the last line is that of the event, and every other line that of
an event that was logged before. -/
def AllLinesLogged (content : List UInt8) : Prop :=
  ∀ (outcome : Nat → Except SystemError Nat) (events : List (String × LogEvent)) (stamp : String)
    (event : LogEvent),
    let calls := appendEach events { file := ({ content, outcome } : Script) }
    let call := append stamp event calls.2
    call.1 = .ok () →
      ∃ others, rawLinesOf call.2.file.content = others ++ [Utf8.encode (event.line stamp)] ∧
        ∀ line ∈ others, ∃ logged ∈ events, line = Utf8.encode (logged.2.line logged.1)

/-- A line as large as the buffer is broken off after its first octet. -/
theorem append_of_broken_off {stamp : String} {event : LogEvent} {e : SystemError}
    (outcome : Nat → Except SystemError Nat)
    (long : capacity < (Utf8.encode (event.line stamp)).length) (one : outcome 0 = .ok 1)
    (fails : outcome 1 = .error e) :
    ∃ b ∈ Utf8.encode (event.line stamp),
      append stamp event { file := ({ outcome } : Script) } = (.error (.notWritten e),
        { file := { content := [b], outcome, writes := 2 } }) := by
  generalize octets : Utf8.encode (event.line stamp) = line at long
  have many : 1 < capacity := by decide
  obtain ⟨first, others, rfl⟩ := List.exists_cons_of_length_pos (Nat.zero_lt_of_lt long)
  have more : 0 < others.length := by
    rw [List.length_cons] at long
    omega
  obtain ⟨second, rest, rfl⟩ := List.exists_cons_of_length_pos more
  have broken (stalled : SystemError) :
      Writer.offerAll stalled (first :: second :: rest) ({ outcome } : Script) =
        (.error e, second :: rest, { content := [first], outcome, writes := 2 }) := by
    have begun : Sink.offer (first :: second :: rest) ({ outcome } : Script) =
        (.ok (0 + 1), { content := [first], outcome, writes := 1 }) := by
      simp [Sink.offer, Script.offer, one]
    have stopped : Sink.offer (second :: rest)
        ({ content := [first], outcome, writes := 1 } : Script) =
          (.error e, { content := [first], outcome, writes := 2 }) := by
      simp [Sink.offer, Script.offer, fails]
    rw [Writer.offerAll, begun]
    dsimp only
    rw [List.drop_zero, Writer.offerAll, stopped]
  have idle : Writer.flush { file := ({ outcome } : Script) } =
      (.ok (), { file := { outcome } }) := by
    rw [Writer.flush, Writer.offerAll]
  have spills : ¬ (first :: second :: rest).length < capacity - ([] : List UInt8).length := by
    rw [List.length_nil]
    omega
  refine ⟨first, List.mem_cons_self .., ?_⟩
  rw [append, octets, Writer.put, if_neg spills, List.length_nil, Nat.sub_zero, if_pos long, idle]
  dsimp only
  rw [Writer.putFitting, if_pos (Nat.le_of_lt long), broken]

/-- A line has room for its text, and for more. -/
theorem length_lt_line (stamp text : String) :
    (text.toList.flatMap Json.escape).length <
      ((LogEvent.messageReceived (.identifier text)).line stamp).length := by
  rw [LogEvent.line, Json.compact, String.length_ofList]
  simp only [LogEvent.entry, LogEvent.data?, LogEvent.messageJson, Message.text, Option.map_some,
    Option.toList_some, List.cons_append, List.nil_append, Json.layOut, Json.layOutMembers,
    Json.quoted, List.length_append, List.length_cons]
  omega

/-- The message of one read, in which every character is escaped. -/
def controlMessage : Message :=
  .identifier (String.ofList (List.replicate Connection.readSize '\x01'))

theorem long_controlMessage (stamp : String) :
    capacity < (Utf8.encode ((LogEvent.messageReceived controlMessage).line stamp)).length := by
  have text := length_lt_line stamp (String.ofList (List.replicate Connection.readSize '\x01'))
  have octets := Utf8.length_decodeLossy_le
    (Utf8.encode ((LogEvent.messageReceived controlMessage).line stamp))
  have escaped : ((List.replicate Connection.readSize '\x01').flatMap Json.escape).length =
      Connection.readSize * 6 := by
    have one : (Json.escape '\x01').length = 6 := by decide
    rw [List.length_flatMap, List.map_replicate, List.sum_replicate_nat, one]
  rw [String.toList_ofList, escaped] at text
  rw [Utf8.decodeLossy_encode, controlMessage] at octets
  rw [controlMessage, capacity]
  rw [Connection.readSize] at text octets ⊢
  omega

/-- A file whose writes do not fail any more takes a line and its end. -/
theorem append_of_recovers (file : Script) (recovers : file.Recovers) (stamp : String)
    (event : LogEvent) :
    (append stamp event { file }).1 = .ok () ∧
      (append stamp event { file }).2.file.content = file.content ++ lineOctets stamp event := by
  have holds : Writer.Holds Script.content Script.Recovers { file } file.content :=
    ⟨recovers, List.append_nil _⟩
  obtain ⟨w', appended, written, empty⟩ :=
    append_holds Script.willing_of_recovers holds stamp event
  have all := written.all
  rw [empty, List.append_nil] at all
  rw [appended]
  exact ⟨rfl, all⟩

/-- The only line of a log of one event is of that event. -/
theorem AllLinesLogged.rawLinesOf_eq {old : List UInt8} (all : AllLinesLogged old)
    (outcome : Nat → Except SystemError Nat) (stamp : String) (event : LogEvent)
    (ok : (append stamp event { file := ({ content := old, outcome } : Script) }).1 = .ok ()) :
    rawLinesOf (append stamp event
        { file := ({ content := old, outcome } : Script) }).2.file.content =
      [Utf8.encode (event.line stamp)] := by
  have once := all outcome [] stamp event
  dsimp only [appendEach] at once
  obtain ⟨others, lines, each⟩ := once ok
  have none : others = [] := by
    rw [List.eq_nil_iff_forall_not_mem]
    intro line mem
    obtain ⟨_, logged, -⟩ := each line mem
    exact List.not_mem_nil logged
  rw [lines, none, List.nil_append]

/-- If a long line is broken off after one octet, the next line is written behind this octet. -/
theorem not_allLinesLogged_of_long {stamp : String} {event : LogEvent}
    (long : capacity < (Utf8.encode (event.line stamp)).length) : ¬ AllLinesLogged [] := by
  intro all
  let outcome : Nat → Except SystemError Nat
    | 0 => .ok 1
    | 1 => .error (.code 28)
    | _ => .ok 1
  obtain ⟨b, begins, first⟩ := append_of_broken_off outcome long rfl rfl
  have recovers : Script.Recovers { content := [b], outcome, writes := 2 } := by
    intro write later
    obtain ⟨write, rfl⟩ := Nat.exists_eq_add_of_le' later
    exact ⟨0, rfl⟩
  obtain ⟨ok, content⟩ := append_of_recovers _ recovers "later" .disconnected
  have twice := all outcome [(stamp, event)] "later" .disconnected
  simp only [appendEach, first] at twice
  obtain ⟨others, lines, -⟩ := twice ok
  have unended : lineFeed ∉ [b] ++ Utf8.encode (LogEvent.disconnected.line "later") := by
    intro mem
    rcases List.mem_append.mp mem with first | later
    · rw [← List.mem_singleton.mp first] at begins
      exact LogEvent.lineFeed_not_mem_line _ _ begins
    · exact LogEvent.lineFeed_not_mem_line _ _ later
  rw [content, lineOctets, ← List.append_assoc, rawLinesOf_line unended] at lines
  have last := congrArg List.getLast? lines
  rw [List.getLast?_singleton, List.getLast?_concat] at last
  have longer := congrArg List.length (Option.some.inj last)
  rw [List.length_append, List.length_singleton] at longer
  omega

/-- Not all lines need to be of an event. The lines that a file had are not; and if the file takes
one octet of a line that is larger than the buffer, then fails, and then takes all, the next line is
written behind this octet. -/
theorem not_allLinesLogged :
    Ended (Utf8.encode "notes\n") ∧ ¬ AllLinesLogged (Utf8.encode "notes\n") ∧
      Ended [] ∧ ¬ AllLinesLogged [] := by
  have ended : Ended (Utf8.encode "notes\n") := Or.inr ⟨Utf8.encode "notes", by decide⟩
  refine ⟨ended, fun all => ?_, Or.inl rfl, not_allLinesLogged_of_long (long_controlMessage "noon")⟩
  let outcome : Nat → Except SystemError Nat := fun _ => .ok 1
  obtain ⟨ok, content⟩ := append_of_recovers { content := Utf8.encode "notes\n", outcome }
    (fun _ _ => ⟨0, rfl⟩) "noon" .disconnected
  have lines := all.rawLinesOf_eq outcome "noon" .disconnected ok
  have old : rawLinesOf (Utf8.encode "notes\n") = [Utf8.encode "notes"] := by decide
  rw [content, rawLinesOf_append ended, old] at lines
  have more := (List.cons.inj lines).2
  rw [lineOctets, rawLinesOf_line (LogEvent.lineFeed_not_mem_line _ _)] at more
  exact List.cons_ne_nil _ _ more

end ProtocolLog

end ReviewChannel
