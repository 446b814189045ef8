import ReviewChannel.Stream

/-!
Laws of a stream: what each operation does to the queues of its ends, and what it leaves alone.

* `bytes_append_inbox_read` — a read splits the queue of its end: what it returns is the beginning
  of the queue, and the rest stays.
* `write_eq` — a write arrives at the other end as a whole, or changes nothing.
* `speaks_close`, `listens_shutDown` and the like — no operation opens an end again.
-/

namespace ReviewChannel

def ReadResult.bytes : ReadResult → List UInt8
  | .octets bytes => bytes
  | _ => []

namespace Stream

variable (s : Stream) (side : Side)

@[simp] theorem endAt_modify_self (f : StreamEnd → StreamEnd) :
    (s.modify side f).endAt side = f (s.endAt side) := by
  cases side <;> rfl

@[simp] theorem endAt_modify_other (f : StreamEnd → StreamEnd) :
    (s.modify side f).endAt side.other = s.endAt side.other := by
  cases side <;> rfl

@[simp] theorem endAt_other_modify (f : StreamEnd → StreamEnd) :
    (s.modify side.other f).endAt side = s.endAt side := by
  cases side <;> rfl

/-! ### Reading -/

/-- All that a read can do: take octets from the queue of its end, notice that the other end went
away, or leave everything as it was. -/
theorem read_cases (limit : Nat) :
    ((s.endAt side).inbox ≠ [] ∧
        s.read side limit = (.octets ((s.endAt side).inbox.take limit),
          s.modify side fun e => { e with inbox := (s.endAt side).inbox.drop limit })) ∨
      ((s.endAt side).inbox = [] ∧ (s.endAt side).reset = true ∧
        s.read side limit = (.failed .connectionReset,
          s.modify side fun e => { e with reset := false })) ∨
      ((s.endAt side).inbox = [] ∧
        ((s.endAt side.other).speaks && (s.endAt side).listens) = false ∧
        s.read side limit = (.ended, s)) ∨
      ((s.endAt side).inbox = [] ∧
        ((s.endAt side.other).speaks && (s.endAt side).listens) = true ∧
        s.read side limit = (.waiting, s)) := by
  unfold read
  split
  · rename_i b rest queue
    rw [queue]
    exact Or.inl ⟨by simp, rfl⟩
  · rename_i queue
    split
    · rename_i reset
      exact Or.inr (Or.inl ⟨queue, reset, rfl⟩)
    · split
      · rename_i more
        exact Or.inr (Or.inr (Or.inr ⟨queue, more, rfl⟩))
      · rename_i dry
        exact Or.inr (Or.inr (Or.inl ⟨queue, by simpa using dry, rfl⟩))

/-- A read that finds the end of the stream has nothing to notice. -/
theorem reset_of_read_ended {limit : Nat} (ended : (s.read side limit).1 = .ended) :
    (s.endAt side).reset = false := by
  rcases s.read_cases side limit with ⟨-, h⟩ | ⟨-, -, h⟩ | ⟨empty, -, -⟩ | ⟨-, -, h⟩
  · simp [h] at ended
  · simp [h] at ended
  · cases reset : (s.endAt side).reset with
    | false => rfl
    | true => simp [read, empty, reset] at ended
  · simp [h] at ended

/-- A read splits the queue of its end. -/
theorem bytes_append_inbox_read (limit : Nat) :
    (s.read side limit).1.bytes ++ ((s.read side limit).2.endAt side).inbox =
      (s.endAt side).inbox := by
  rcases s.read_cases side limit with ⟨-, h⟩ | ⟨-, -, h⟩ | ⟨-, -, h⟩ | ⟨-, -, h⟩ <;>
    simp [h, ReadResult.bytes]

theorem endAt_other_read (limit : Nat) :
    (s.read side limit).2.endAt side.other = s.endAt side.other := by
  rcases s.read_cases side limit with ⟨-, h⟩ | ⟨-, -, h⟩ | ⟨-, -, h⟩ | ⟨-, -, h⟩ <;> simp [h]

theorem speaks_read (limit : Nat) :
    ((s.read side limit).2.endAt side).speaks = (s.endAt side).speaks := by
  rcases s.read_cases side limit with ⟨-, h⟩ | ⟨-, -, h⟩ | ⟨-, -, h⟩ | ⟨-, -, h⟩ <;> simp [h]

theorem listens_read (limit : Nat) :
    ((s.read side limit).2.endAt side).listens = (s.endAt side).listens := by
  rcases s.read_cases side limit with ⟨-, h⟩ | ⟨-, -, h⟩ | ⟨-, -, h⟩ | ⟨-, -, h⟩ <;> simp [h]

/-! ### Writing -/

/-- Whether what is written at an end arrives at the other one. -/
def carriesFrom : Bool :=
  (s.endAt side).speaks && (s.endAt side.other).listens

/-- A write arrives as a whole, or changes nothing. Only a write of nothing succeeds without a
stream that carries it. -/
theorem write_eq (bytes : List UInt8) :
    s.write side bytes =
      if s.carriesFrom side then
        (.ok (), s.modify side.other fun e => { e with inbox := e.inbox ++ bytes })
      else (if bytes.isEmpty then .ok () else .error .brokenPipe, s) := by
  cases bytes with
  | nil =>
      have same : (s.modify side.other fun e => { e with inbox := e.inbox }) = s := by
        cases side <;> rfl
      simp [write, same]
  | cons b rest => simp [write, carriesFrom]

/-- A write arrives, or it fails and the stream does not carry it. -/
theorem write_cases (bytes : List UInt8) :
    s.write side bytes =
        (.ok (), s.modify side.other fun e => { e with inbox := e.inbox ++ bytes }) ∨
      (s.carriesFrom side = false ∧ ∃ cause, s.write side bytes = (.error cause, s)) := by
  cases carries : s.carriesFrom side with
  | true => exact Or.inl (by rw [write_eq, if_pos carries])
  | false =>
      rw [write_eq, if_neg (by simp [carries])]
      cases bytes with
      | nil =>
          refine Or.inl ?_
          cases side <;> simp [modify, Side.other]
      | cons b rest => exact Or.inr ⟨rfl, _, rfl⟩

theorem endAt_write (bytes : List UInt8) : (s.write side bytes).2.endAt side = s.endAt side := by
  rw [write_eq]
  split <;> simp

theorem speaks_write (bytes : List UInt8) :
    ((s.write side bytes).2.endAt side.other).speaks = (s.endAt side.other).speaks := by
  rw [write_eq]
  split <;> simp

/-! ### Closing -/

@[simp] theorem endAt_shutDown_other : (s.shutDown side).endAt side.other = s.endAt side.other :=
  s.endAt_modify_other side _

@[simp] theorem endAt_shutDown :
    (s.shutDown side).endAt side = { s.endAt side with speaks := false, listens := false } :=
  s.endAt_modify_self side _

@[simp] theorem endAt_close :
    (s.close side).endAt side =
      { s.endAt side with inbox := [], speaks := false, listens := false } := by
  cases side <;> rfl

theorem endAt_close_other :
    (s.close side).endAt side.other =
      { s.endAt side.other with
        reset := (s.endAt side.other).reset || !(s.endAt side).inbox.isEmpty } := by
  cases side <;> rfl

end Stream

end ReviewChannel
