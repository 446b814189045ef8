import ReviewChannel.Connection
import ReviewChannel.Proofs.Decoding
import ReviewChannel.Proofs.Stream

/-!
What the reader of a client makes of its queue.

* `readOnce_cases` — a read delivers the front of the queue, stops at the end of the stream, or
  finds nothing yet.
* As long as nothing is written, the reads of a queue are its `Connection.chunks`: pieces of the
  read size, and what is left over (`readOnce_chunks`).
* `stopOctets_mem_chunks_iff` — a stop directive at the end of a queue is a read of its own only if
  the octets before it fill whole reads.
-/

namespace ReviewChannel

def ConnectionEvent.payload? : ConnectionEvent → Option (List UInt8)
  | payload octets => some octets
  | _ => none

namespace Connection

def Delivery.event? : Delivery → Option ConnectionEvent
  | more event | last event => some event
  | again => none

def Delivery.stops : Delivery → Bool
  | last _ => true
  | more _ | again => false

def Delivery.payload? (delivery : Delivery) : Option (List UInt8) :=
  delivery.event?.bind ConnectionEvent.payload?

/-! ### One read -/

/-- A read delivers the front of the queue, or the queue is empty: then the reader stops at the end
of the stream, or nothing happens. The reader does not touch the other end. -/
theorem readOnce_cases (s : Stream) :
    (readOnce s).2.grader = s.grader ∧ (readOnce s).2.client.listens = s.client.listens ∧
      ((readOnce s).2.client.reset = true → s.client.reset = true) ∧
      ((s.client.inbox ≠ [] ∧ (readOnce s).1.payload? = some (s.client.inbox.take readSize) ∧
          (readOnce s).1.stops = false ∧
          (readOnce s).2.client.inbox = s.client.inbox.drop readSize) ∨
        (s.client.inbox = [] ∧ (readOnce s).1.payload? = none ∧ (readOnce s).2.client.inbox = [] ∧
          ((readOnce s).1.stops = true →
            s.client.reset = true ∨ (s.grader.speaks && s.client.listens) = false))) := by
  refine ⟨s.endAt_other_read .client readSize, s.listens_read .client readSize, ?_⟩
  unfold readOnce
  rcases s.read_cases .client readSize with
    ⟨nonempty, read⟩ | ⟨empty, reset, read⟩ | ⟨empty, dry, read⟩ | ⟨empty, -, read⟩
  · rw [read]
    exact ⟨id, Or.inl ⟨nonempty, rfl, rfl, rfl⟩⟩
  · rw [read]
    exact ⟨fun _ => reset, Or.inr ⟨empty, rfl, empty, fun _ => Or.inl reset⟩⟩
  · rw [read]
    exact ⟨id, Or.inr ⟨empty, rfl, empty, fun _ => Or.inr dry⟩⟩
  · rw [read]
    exact ⟨id, Or.inr ⟨empty, rfl, empty, fun stops => absurd stops Bool.false_ne_true⟩⟩

/-- A reader that finds nothing leaves the stream as it is. -/
theorem readOnce_again {s : Stream} (again : (readOnce s).1 = .again) :
    (readOnce s).2 = s := by
  unfold readOnce at again ⊢
  rcases s.read_cases .client readSize with
    ⟨-, read⟩ | ⟨-, -, read⟩ | ⟨-, -, read⟩ | ⟨-, -, read⟩
  · rw [read] at again
    cases again
  · rw [read] at again
    cases again
  · rw [read]
  · rw [read]

/-! ### All reads of a queue -/

open Message (stopOctets)

/-- The reads of a queue to which nothing is added. -/
def chunks (queue : List UInt8) : List (List UInt8) :=
  match queue with
  | [] => []
  | b :: rest => (b :: rest).take readSize :: chunks ((b :: rest).drop readSize)
termination_by queue.length
decreasing_by
  simp only [List.length_drop, List.length_cons, readSize]
  omega

@[simp] theorem chunks_nil : chunks [] = [] := by
  rw [chunks]

/-- The first read of a queue takes its first chunk. -/
theorem chunks_eq_cons {queue : List UInt8} (nonempty : queue ≠ []) :
    chunks queue = queue.take readSize :: chunks (queue.drop readSize) := by
  cases queue with
  | nil => exact absurd rfl nonempty
  | cons b rest => rw [chunks]

/-- Chunks that fill whole reads do not depend on what follows them. -/
theorem chunks_append {front : List UInt8} (whole : readSize ∣ front.length) (rest : List UInt8) :
    chunks (front ++ rest) = chunks front ++ chunks rest := by
  induction front using chunks.induct with
  | case1 => simp
  | case2 b front ih =>
      have long : readSize ≤ (b :: front).length := Nat.le_of_dvd (by simp) whole
      have shorter : readSize ∣ ((b :: front).drop readSize).length := by
        rw [List.length_drop]
        exact Nat.dvd_sub whole (Nat.dvd_refl _)
      rw [chunks_eq_cons (by simp), chunks_eq_cons (List.cons_ne_nil b front),
        List.take_append_of_le_length long, List.drop_append_of_le_length long, ih shorter,
        List.cons_append]

/-- A chunk has the read size, unless it is the rest of the queue. -/
theorem length_of_mem_chunks {queue chunk : List UInt8} (mem : chunk ∈ chunks queue) :
    chunk.length = readSize ∨ chunk.length = queue.length % readSize := by
  induction queue using chunks.induct with
  | case1 => simp at mem
  | case2 b rest ih =>
      rw [chunks_eq_cons (List.cons_ne_nil b rest), List.mem_cons] at mem
      rcases mem with rfl | later
      · rw [List.length_take]
        rcases Nat.lt_or_ge (b :: rest).length readSize with short | long
        · exact Or.inr (by rw [Nat.min_eq_right (Nat.le_of_lt short), Nat.mod_eq_of_lt short])
        · exact Or.inl (Nat.min_eq_left long)
      · rcases ih later with whole | left
        · exact Or.inl whole
        · rw [List.length_drop] at left
          rcases Nat.lt_or_ge (b :: rest).length readSize with short | long
          · rw [List.drop_of_length_le (Nat.le_of_lt short), chunks_nil] at later
            exact absurd later List.not_mem_nil
          · exact Or.inr (left.trans (Nat.mod_eq_sub_mod long).symm)

/-- What a read delivers and leaves are the chunks that were there. -/
theorem readOnce_chunks (s : Stream) :
    (readOnce s).1.payload?.toList ++ chunks (readOnce s).2.client.inbox =
      chunks s.client.inbox := by
  obtain ⟨-, -, -, ⟨nonempty, payload, -, left⟩ | ⟨empty, payload, left, -⟩⟩ := readOnce_cases s
  · rw [payload, left, chunks_eq_cons nonempty]
    rfl
  · rw [payload, left, empty]
    rfl

theorem length_stopOctets : stopOctets.length = 6 :=
  rfl

/-- A stop directive at the end of a queue is a read of its own if the octets before it fill whole
reads, and only then. -/
theorem stopOctets_mem_chunks_iff {front : List UInt8} :
    stopOctets ∈ chunks (front ++ stopOctets) ↔ readSize ∣ front.length := by
  constructor
  · intro mem
    have length := length_of_mem_chunks mem
    rw [List.length_append, length_stopOctets, readSize] at length
    rw [readSize]
    omega
  · intro whole
    have alone : chunks stopOctets = [stopOctets] := by
      rw [chunks_eq_cons (by decide), List.take_of_length_le (by decide),
        List.drop_of_length_le (by decide), chunks_nil]
    rw [chunks_append whole, alone]
    exact List.mem_append_right _ (List.mem_singleton_self _)

end Connection

end ReviewChannel
