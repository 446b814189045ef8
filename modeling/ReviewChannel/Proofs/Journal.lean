import ReviewChannel.Log.Line
import ReviewChannel.Log.Writer

/-!
The protocol log on a file that takes what it is offered, at once or bit by bit.

* `Sink.Willing` — a file that takes at least one octet of each offer and puts it at the end of its
  content. `Script` is a file whose writes come out as a script says; it is willing if no write of
  the script fails (`Script.willing`).
* `Writer.Holds` — what was written so far, in the file or in the buffer; every piece adds to it.
* `ProtocolLog.append_holds` — an event that is appended adds its line, and nothing waits any more.
* `ProtocolLog.appendEach_holds` — so do several events, one after the other.
-/

namespace ReviewChannel

/-- A file that takes at least one octet of each offer, and puts what it takes at the end of its
content. It stays such a file. -/
structure Sink.Willing {σ : Type} [Sink σ] (content : σ → List UInt8) (Good : σ → Prop) : Prop where
  offer : ∀ {file : σ} (b : UInt8) (rest : List UInt8), Good file →
    ∃ taken file', Sink.offer (b :: rest) file = (.ok (taken + 1), file') ∧
      content file' = content file ++ b :: rest.take taken ∧ Good file'

/-! ### Files with a script -/

/-- A file whose writes come out as a script says. -/
structure Script where
  content : List UInt8 := []
  /-- What each write comes to: a failure, or the most octets that it takes. -/
  outcome : Nat → Except SystemError Nat
  /-- How many writes there were. -/
  writes : Nat := 0

namespace Script

/-- Writes at the end of the file what the script lets it. -/
def offer (octets : List UInt8) (file : Script) : Except SystemError Nat × Script :=
  let file' := { file with writes := file.writes + 1 }
  match file.outcome file.writes with
  | .error e => (.error e, file')
  | .ok most =>
      (.ok (min most octets.length), { file' with content := file.content ++ octets.take most })

instance : Sink Script := ⟨offer⟩

/-- Whether every write succeeds, with at least one octet. -/
def Succeeds (file : Script) : Prop :=
  ∀ write, ∃ more, file.outcome write = .ok (more + 1)

theorem willing : Sink.Willing Script.content Succeeds where
  offer {file} b rest good := by
    obtain ⟨more, outcome⟩ := good file.writes
    refine ⟨min more rest.length, (offer (b :: rest) file).2, ?_, ?_, ?_⟩
    · simp only [Sink.offer, offer, outcome, List.length_cons, Nat.add_min_add_right]
    · simp only [offer, outcome, List.take_succ_cons]
      rw [List.take_eq_take_min]
    · rw [offer, outcome]
      exact good

end Script

/-! ### Writing through the buffer -/

section Willing

variable {σ : Type} [Sink σ] {content : σ → List UInt8} {Good : σ → Prop} {octets : List UInt8}

namespace Writer

/-- A file that is willing takes all that it is offered. -/
theorem offerAll_willing (willing : Sink.Willing content Good) (stalled : SystemError)
    (octets : List UInt8) {file : σ} (good : Good file) :
    ∃ file', offerAll stalled octets file = (.ok (), [], file') ∧
      content file' = content file ++ octets ∧ Good file' := by
  -- Each offer leaves a shorter rest, which need not be the tail.
  induction length : octets.length using Nat.strongRecOn generalizing octets file with
  | ind n ih =>
      subst length
      cases octets with
      | nil => exact ⟨file, by rw [offerAll], (List.append_nil _).symm, good⟩
      | cons b rest =>
          obtain ⟨taken, next, offered, grown, still⟩ := willing.offer b rest good
          have shorter : (rest.drop taken).length < (b :: rest).length := by
            rw [List.length_drop, List.length_cons]
            omega
          obtain ⟨last, all, whole, good⟩ := ih _ shorter (rest.drop taken) still rfl
          refine ⟨last, ?_, ?_, good⟩
          · rw [offerAll, offered]
            exact all
          · rw [whole, grown, List.append_assoc, List.cons_append, List.take_append_drop]

/-- What was written so far is in the file, or waits. -/
structure Holds (content : σ → List UInt8) (Good : σ → Prop) (w : Writer σ)
    (octets : List UInt8) : Prop where
  good : Good w.file
  all : content w.file ++ w.pending = octets

variable {w : Writer σ}

/-- Emptying the buffer keeps what was written. -/
theorem Holds.flush (willing : Sink.Willing content Good) (h : w.Holds content Good octets) :
    ∃ w', w.flush = (.ok (), w') ∧ w'.Holds content Good octets ∧ w'.pending = [] := by
  obtain ⟨file, offered, whole, good⟩ :=
    offerAll_willing willing (.custom "failed to write the buffered data") w.pending h.good
  refine ⟨{ file, pending := [] }, by rw [Writer.flush, offered], ⟨good, ?_⟩, rfl⟩
  rw [List.append_nil, whole, h.all]

omit [Sink σ] in
/-- A piece that goes into the buffer adds to what was written. -/
theorem Holds.buffer (h : w.Holds content Good octets) (piece : List UInt8) :
    Holds content Good { w with pending := w.pending ++ piece } (octets ++ piece) :=
  ⟨h.good, by rw [← List.append_assoc, h.all]⟩

/-- A piece that is as large as the buffer goes to the file when nothing waits. -/
theorem Holds.putFitting (willing : Sink.Willing content Good) (h : w.Holds content Good octets)
    {piece : List UInt8} (empty : capacity ≤ piece.length → w.pending = []) :
    ∃ w', w.putFitting piece = (.ok (), w') ∧ w'.Holds content Good (octets ++ piece) := by
  unfold Writer.putFitting
  split
  · rename_i large
    obtain ⟨file, offered, whole, good⟩ :=
      offerAll_willing willing (.custom "failed to write whole buffer") piece h.good
    refine ⟨{ w with file }, by rw [offered], good, ?_⟩
    rw [whole, ← h.all, empty large, List.append_nil, List.append_nil]
  · exact ⟨_, rfl, h.buffer piece⟩

/-- A piece adds to what was written. -/
theorem Holds.put (willing : Sink.Willing content Good) (h : w.Holds content Good octets)
    (piece : List UInt8) :
    ∃ w', w.put piece = (.ok (), w') ∧ w'.Holds content Good (octets ++ piece) := by
  unfold Writer.put
  split
  · exact ⟨_, rfl, h.buffer piece⟩
  · split
    · obtain ⟨emptied, flushed, holds, empty⟩ := h.flush willing
      rw [flushed]
      exact holds.putFitting willing fun _ => empty
    · refine h.putFitting willing fun large => ?_
      -- The piece is as long as the room in the buffer, so all of it is free.
      have positive : 0 < capacity := by decide
      refine List.length_eq_zero_iff.mp ?_
      omega

end Writer

namespace ProtocolLog

/-- What is written for an event that happened at a time: its line, and the end of the line. -/
def lineOctets (stamp : String) (event : LogEvent) : List UInt8 :=
  Utf8.encode (event.line stamp) ++ [lineFeed]

variable {w : Writer σ}

/-- An event that is appended adds its line, and nothing waits any more. -/
theorem append_holds (willing : Sink.Willing content Good) (h : w.Holds content Good octets)
    (stamp : String) (event : LogEvent) :
    ∃ w', append stamp event w = (.ok (), w') ∧
      w'.Holds content Good (octets ++ lineOctets stamp event) ∧ w'.pending = [] := by
  obtain ⟨written, put, holds⟩ := h.put willing (Utf8.encode (event.line stamp))
  obtain ⟨ended, put', holds'⟩ := holds.put willing [lineFeed]
  obtain ⟨emptied, flushed, holds'', empty⟩ := holds'.flush willing
  refine ⟨emptied, ?_, ?_, empty⟩
  · rw [append, put]
    dsimp only
    rw [put']
    dsimp only
    rw [flushed]
  · rw [lineOctets, ← List.append_assoc]
    exact holds''

/-- Appends events one after the other, each with the time when it happened. -/
def appendEach : List (String × LogEvent) → Writer σ → List (Except LogFailure Unit) × Writer σ
  | [], w => ([], w)
  | (stamp, event) :: rest, w =>
      let (result, w) := append stamp event w
      let (results, w) := appendEach rest w
      (result :: results, w)

/-- What is written for several events. -/
def linesOctets (events : List (String × LogEvent)) : List UInt8 :=
  events.flatMap fun (stamp, event) => lineOctets stamp event

/-- Events that are appended one after the other add their lines, in order. -/
theorem appendEach_holds (willing : Sink.Willing content Good) (h : w.Holds content Good octets)
    (events : List (String × LogEvent)) :
    (appendEach events w).1 = List.replicate events.length (.ok ()) ∧
      (appendEach events w).2.Holds content Good (octets ++ linesOctets events) ∧
      (w.pending = [] ∨ events ≠ [] → (appendEach events w).2.pending = []) := by
  induction events generalizing w octets with
  | nil =>
      refine ⟨rfl, by simpa [appendEach, linesOctets] using h, fun empty => ?_⟩
      exact empty.resolve_right (fun some => some rfl)
  | cons event rest ih =>
      obtain ⟨stamp, event⟩ := event
      obtain ⟨next, appended, holds, empty⟩ := append_holds willing h stamp event
      obtain ⟨results, all, emptied⟩ := ih holds
      rw [appendEach, appended]
      refine ⟨congrArg _ results, ?_, fun _ => emptied (Or.inl empty)⟩
      rw [linesOctets, List.flatMap_cons, ← List.append_assoc]
      exact all

end ProtocolLog

end Willing

end ReviewChannel
