import ReviewChannel.Connection
import ReviewChannel.Peer
import ReviewChannel.Proofs.Stream

/-!
What a grader takes from the stream of its client, whatever happens on it.

* A `Dispatch` is a stream with what was written at the client's end, and with what the grader's
  calls for a command returned. `Dispatch.step` is one thing that the client, its reader or the
  grader does.
* `Dispatch.Faithful` — what the calls returned, and how it compares with what was written; every
  step keeps it (`Faithful.step`).
* `Dispatch.returned_receives` — what the next calls return once the client writes no more.
* `Dispatch.outbound_fidelity` — each call takes one octet, in order, and returns what it decodes
  to; the end of the stream comes after all of them.
-/

namespace ReviewChannel

/-- What a call for a command returns. -/
abbrev Answer := Except Failure (Option Command)

/-- What waiting for a command returns, once it does. -/
def Received.answer? : Received (Option Command) → Option Answer
  | got value => some (.ok value)
  | failed failure => some (.error failure)
  | waiting => none

def Answer.command? : Answer → Option Command
  | .ok command => command
  | .error _ => none

/-- Whether a call failed. -/
def Answer.isFailure : Answer → Bool
  | .ok _ => false
  | .error _ => true

namespace Peer

/-- What a call returns that takes this octet. -/
def answer (octet : UInt8) : Answer :=
  (Command.decode octet).map some

/-- What a call returns that finds that the client closed with octets unread. -/
def resetAnswer : Answer :=
  .error (.transport SystemError.connectionReset.message)

@[simp] theorem answer_octet (command : Command) :
    answer command.octet = .ok (some command) := by
  simp [answer, Command.decode, Except.map]

/-- What is written for several commands: the octet of each. -/
theorem flatMap_encode (commands : List Command) :
    commands.flatMap Command.encode = commands.map Command.octet :=
  (List.map_eq_flatMap ..).symm

/-- The commands among the answers to the octets of commands are these commands. -/
theorem filterMap_answer_encode (commands : List Command) :
    ((commands.flatMap Command.encode).map answer).filterMap Answer.command? = commands := by
  have each : Answer.command? ∘ answer ∘ Command.octet = some :=
    funext fun command => congrArg Answer.command? (answer_octet command)
  rw [flatMap_encode, List.map_map, List.filterMap_map, each, List.filterMap_some]

/-- What a call for a command comes to: what it needs, what it returns and what it leaves. -/
inductive Receives (s : Stream) : Option Answer → Stream → Prop where
  /-- The call takes the first octet of the queue. -/
  | takes {octet : UInt8} {queue : List UInt8} (there : s.grader.inbox = octet :: queue) :
      Receives s (some (answer octet)) (s.modify .grader fun e => { e with inbox := queue })
  /-- The call notices that the client went away with octets unread. -/
  | notices (empty : s.grader.inbox = []) (reset : s.grader.reset = true) :
      Receives s (some resetAnswer) (s.modify .grader fun e => { e with reset := false })
  /-- The call finds the end of the stream. -/
  | ends (empty : s.grader.inbox = []) (unreset : s.grader.reset = false)
      (dry : s.carriesFrom .client = false) : Receives s (some (.ok none)) s
  /-- The call waits for an octet that may still come. -/
  | waits (empty : s.grader.inbox = []) (carries : s.carriesFrom .client = true) :
      Receives s none s

theorem receiveCommand_receives (s : Stream) :
    Receives s (receiveCommand s).1.answer? (receiveCommand s).2 := by
  unfold receiveCommand
  rcases s.read_cases .grader 1 with
    ⟨nonempty, read⟩ | ⟨empty, reset, read⟩ | ⟨empty, dry, read⟩ | ⟨empty, more, read⟩
  · obtain ⟨octet, queue, there⟩ := List.exists_cons_of_ne_nil nonempty
    have taken := Receives.takes there
    rw [there] at read
    simp only [read, List.take_succ_cons, List.take_zero]
    unfold answer at taken
    cases decoded : Command.decode octet with
    | ok command => rwa [decoded] at taken
    | error failure => rwa [decoded] at taken
  · rw [read]
    exact .notices empty reset
  · have unreset := s.reset_of_read_ended .grader (congrArg Prod.fst read)
    rw [read]
    exact .ends empty unreset dry
  · rw [read]
    exact .waits empty more

end Peer

/-- A stream, with what was written at the client's end, and what the grader's calls for a command
returned. -/
structure Dispatch where
  stream : Stream := {}
  /-- The writes at the client's end that succeeded, first one first. -/
  writes : List (List UInt8) := []
  /-- The commands whose sending succeeded, first one first. -/
  sent : List Command := []
  /-- What the calls for a command returned, first call first. -/
  returned : List Answer := []
  /-- The grader's octets that the client had not read when it closed. -/
  lost : List UInt8 := []
  /-- Whether the grader has closed its end. -/
  graderGone : Bool := false

namespace Dispatch

/-- Something that happens on a stream. -/
inductive Move where
  /-- The client sends a command; the system may refuse the write. -/
  | sends (command : Command) (refusal : Option SystemError)
  /-- Somebody in the client's place writes octets that need not be commands. -/
  | writes (octets : List UInt8)
  /-- The client stops writing. -/
  | endsWriting
  /-- The client stops both directions; its reader may go on. -/
  | hangsUp
  /-- The client's end is closed; what it has not read is lost. -/
  | closes
  | clientReads
  | graderWrites (octets : List UInt8)
  /-- The grader calls for a command. A call that waits returns in a later move. -/
  | receives
  | graderCloses
deriving DecidableEq, Repr

/-- Whether nothing is written at the client's end afterwards. -/
def Move.silences : Move → Bool
  | endsWriting | hangsUp | closes => true
  | sends .. | writes _ | clientReads | graderWrites _ | receives | graderCloses => false

/-- One step. A step that cannot be taken changes nothing. -/
def step (d : Dispatch) : Move → Dispatch
  | .sends _ (some _) => d
  | .sends command none =>
      match Connection.transmit command d.stream with
      | (.ok (), stream) =>
          { d with stream, writes := d.writes ++ [command.encode], sent := d.sent ++ [command] }
      | (.error _, stream) => { d with stream }
  | .writes octets =>
      match d.stream.write .client octets with
      | (.ok (), stream) => { d with stream, writes := d.writes ++ [octets] }
      | (.error _, stream) => { d with stream }
  | .endsWriting => { d with stream := d.stream.endWriting .client }
  | .hangsUp => { d with stream := d.stream.shutDown .client }
  | .closes => { d with stream := d.stream.close .client, lost := d.lost ++ d.stream.client.inbox }
  | .clientReads => { d with stream := (Connection.readOnce d.stream).2 }
  | .graderWrites octets => { d with stream := (d.stream.write .grader octets).2 }
  | .receives =>
      if d.graderGone then d
      else
        { d with
          stream := (Peer.receiveCommand d.stream).2
          returned := d.returned ++ (Peer.receiveCommand d.stream).1.answer?.toList }
  | .graderCloses => { d with stream := d.stream.close .grader, graderGone := true }

/-- Several steps, one after the other. -/
def run (d : Dispatch) (moves : List Move) : Dispatch :=
  moves.foldl step d

/-- All octets that were written at the client's end. -/
def octets (d : Dispatch) : List UInt8 :=
  d.writes.flatten

/-- The commands that the grader's calls returned. -/
def received (d : Dispatch) : List Command :=
  d.returned.filterMap Answer.command?

/-- What the calls returned that found no octet any more. -/
def ends (d : Dispatch) : List Answer :=
  d.returned.drop d.octets.length

variable {d : Dispatch}

/-! ### What was returned -/

/-- The calls have taken these octets and returned what they decode to, and what is left of the
octets is in the queue. Calls that found none left returned these ends. -/
structure Faithful (d : Dispatch) (taken : List UInt8) (ends : List Answer) : Prop where
  returned_eq : d.returned = taken.map Peer.answer ++ ends
  begins : taken <+: d.octets
  queued : d.graderGone = false → d.octets = taken ++ d.stream.grader.inbox
  listens : d.graderGone = false → d.stream.grader.listens = true
  /-- No octet comes after an end. -/
  last : ends ≠ [] → taken = d.octets ∧ d.stream.client.speaks = false
  ends_eq : ∀ answer ∈ ends, answer = .ok none ∨ answer = Peer.resetAnswer
  /-- The loss of octets is noticed once. -/
  resets : ends.countP Answer.isFailure + d.stream.grader.reset.toNat = (!d.lost.isEmpty).toNat
  lost : d.lost ≠ [] → d.stream.client.inbox = [] ∧ d.stream.client.listens = false ∧
    d.stream.client.speaks = false

variable {taken : List UInt8} {ends : List Answer}

theorem faithful_nil : Faithful {} [] [] :=
  ⟨rfl, List.prefix_rfl, fun _ => rfl, fun _ => rfl, by simp, by simp, rfl, by simp⟩

/-- What leaves the queue of the grader alone and lets nobody speak or listen again. -/
theorem Faithful.of_stream (h : d.Faithful taken ends) {s : Stream}
    (grader : s.grader = d.stream.grader)
    (speaks : d.stream.client.speaks = false → s.client.speaks = false)
    (listens : d.stream.client.listens = false → s.client.listens = false)
    (inbox : d.stream.client.listens = false → d.stream.client.inbox = [] → s.client.inbox = []) :
    Faithful { d with stream := s } taken ends where
  returned_eq := h.returned_eq
  begins := h.begins
  queued here := grader ▸ h.queued here
  listens here := grader ▸ h.listens here
  last ended := ⟨(h.last ended).1, speaks (h.last ended).2⟩
  ends_eq := h.ends_eq
  resets := grader ▸ h.resets
  lost unread := by
    obtain ⟨empty, deaf, silent⟩ := h.lost unread
    exact ⟨inbox deaf empty, listens deaf, speaks silent⟩

/-- What the stream carries is added to the octets, and to the queue of the grader. -/
theorem Faithful.write (h : d.Faithful taken ends) (carries : d.stream.carriesFrom .client = true)
    (octets : List UInt8) (sent : List Command) :
    Faithful { d with
      stream := d.stream.modify .grader fun e => { e with inbox := e.inbox ++ octets }
      writes := d.writes ++ [octets], sent } taken ends := by
  obtain ⟨speaks, -⟩ := Bool.and_eq_true_iff.mp carries
  have unended : ends = [] := by
    refine Decidable.byContradiction fun ended => ?_
    have silent := (h.last ended).2
    rw [show d.stream.client.speaks = true from speaks] at silent
    cases silent
  have longer : (d.writes ++ [octets]).flatten = d.octets ++ octets := by
    simp [Dispatch.octets]
  refine ⟨h.returned_eq, ?_, fun here => ?_, h.listens, fun ended => absurd unended ended,
    h.ends_eq, h.resets, h.lost⟩
  · rw [Dispatch.octets, longer]
    exact h.begins.trans (List.prefix_append _ _)
  · rw [Dispatch.octets, longer, h.queued here, List.append_assoc]
    rfl

/-- A call takes the next octet, or finds an end that no octet comes after. -/
theorem Faithful.receive (h : d.Faithful taken ends) (here : d.graderGone = false) :
    ∃ taken ends, (d.step .receives).Faithful taken ends := by
  rw [step, if_neg (by simp [here])]
  have queued := h.queued here
  have listens := h.listens here
  have received := Peer.receiveCommand_receives d.stream
  generalize (Peer.receiveCommand d.stream).1.answer? = answer,
    (Peer.receiveCommand d.stream).2 = s at received
  cases received with
  | @takes octet queue there =>
      rw [there] at queued
      have unended : ends = [] := by
        refine Decidable.byContradiction fun ended => ?_
        have all := (h.last ended).1
        rw [all] at queued
        exact List.cons_ne_nil _ _ (List.self_eq_append_right.mp queued)
      subst unended
      have split : d.octets = taken ++ [octet] ++ queue := by
        rw [queued, List.append_assoc, List.singleton_append]
      refine ⟨taken ++ [octet], [], ?_, split ▸ List.prefix_append _ _, fun _ => split,
        h.listens, by simp, by simp, h.resets, h.lost⟩
      simp [h.returned_eq]
  | notices empty reset =>
      rw [empty, List.append_nil] at queued
      have lost : d.lost ≠ [] := by
        intro none
        have resets := h.resets
        simp [reset, none] at resets
      refine ⟨taken, ends ++ [Peer.resetAnswer], ?_, h.begins, ?_, h.listens,
        fun _ => ⟨queued.symm, (h.lost lost).2.2⟩, ?_, ?_, h.lost⟩
      · simp [h.returned_eq]
      · intro _
        exact queued.trans (by simp [Stream.modify, empty])
      · intro answer mem
        rcases List.mem_append.mp mem with earlier | now
        · exact h.ends_eq answer earlier
        · exact Or.inr (List.mem_singleton.mp now)
      · have resets := h.resets
        rw [reset] at resets
        rw [List.countP_append, ← resets]
        rfl
  | ends empty _ dry =>
      have all := queued
      rw [empty, List.append_nil] at all
      have silent : d.stream.client.speaks = false := by
        simpa [Stream.carriesFrom, Stream.endAt, Side.other, listens] using dry
      refine ⟨taken, ends ++ [.ok none], ?_, h.begins, fun _ => queued, h.listens,
        fun _ => ⟨all.symm, silent⟩, ?_, ?_, h.lost⟩
      · simp [h.returned_eq]
      · intro answer mem
        rcases List.mem_append.mp mem with earlier | now
        · exact h.ends_eq answer earlier
        · exact Or.inl (List.mem_singleton.mp now)
      · rw [List.countP_append]
        exact h.resets
  | waits => exact ⟨taken, ends, by simpa using h⟩

/-- The end that is closed loses what it has not read, and the grader will notice that once. -/
theorem Faithful.close (h : d.Faithful taken ends) : (d.step .closes).Faithful taken ends where
  returned_eq := h.returned_eq
  begins := h.begins
  queued := h.queued
  listens := h.listens
  last ended := ⟨(h.last ended).1, rfl⟩
  ends_eq := h.ends_eq
  resets := by
    have resets := h.resets
    have noticed : (d.step .closes).stream.grader.reset =
        (d.stream.grader.reset || !d.stream.client.inbox.isEmpty) := rfl
    have loses : (d.step .closes).lost = d.lost ++ d.stream.client.inbox := rfl
    rw [noticed, loses]
    cases lost : d.lost with
    | nil =>
        rw [lost] at resets
        obtain ⟨unfailed, unreset⟩ := Nat.add_eq_zero_iff.mp resets
        rw [unfailed, Nat.zero_add, Bool.toNat_eq_zero.mp unreset, List.nil_append, Bool.false_or]
    | cons b rest =>
        rw [(h.lost (lost ▸ List.cons_ne_nil b rest)).1]
        simpa [lost] using resets
  lost _ := ⟨rfl, rfl, rfl⟩

/-- Whatever happens, the calls returned what the octets decode to, and then ends. -/
theorem Faithful.step (h : d.Faithful taken ends) (move : Move) :
    ∃ taken ends, (d.step move).Faithful taken ends := by
  cases move with
  | sends command refusal =>
      refine ⟨taken, ends, ?_⟩
      cases refusal with
      | some cause => exact h
      | none =>
          rw [Dispatch.step, Connection.transmit, Stream.write_eq]
          cases carries : d.stream.carriesFrom .client with
          | true => exact h.write carries command.encode _
          | false => exact h
  | writes octets =>
      refine ⟨taken, ends, ?_⟩
      rw [Dispatch.step, Stream.write_eq]
      cases carries : d.stream.carriesFrom .client with
      | true => exact h.write carries octets _
      | false =>
          cases octets with
          | nil =>
              have same : ({ d with writes := d.writes ++ [[]] } : Dispatch).octets = d.octets := by
                simp [Dispatch.octets]
              exact ⟨h.returned_eq, h.begins.trans (same ▸ List.prefix_rfl),
                fun here => same.trans (h.queued here), h.listens,
                fun ended => ⟨(h.last ended).1.trans same.symm, (h.last ended).2⟩, h.ends_eq,
                h.resets, h.lost⟩
          | cons b rest => exact h
  | endsWriting => exact ⟨taken, ends, h.of_stream rfl (fun _ => rfl) id fun _ empty => empty⟩
  | hangsUp =>
      exact ⟨taken, ends, h.of_stream rfl (fun _ => rfl) (fun _ => rfl) fun _ empty => empty⟩
  | closes => exact ⟨taken, ends, h.close⟩
  | clientReads =>
      have other := d.stream.endAt_other_read .client Connection.readSize
      have speaks := d.stream.speaks_read .client Connection.readSize
      have listens := d.stream.listens_read .client Connection.readSize
      have inbox := d.stream.bytes_append_inbox_read .client Connection.readSize
      refine ⟨taken, ends, h.of_stream other (fun silent => speaks.trans silent)
        (fun deaf => listens.trans deaf) fun _ empty => ?_⟩
      rw [show (d.stream.endAt .client).inbox = [] from empty, List.append_eq_nil_iff] at inbox
      exact inbox.2
  | graderWrites octets =>
      have self := d.stream.endAt_write .grader octets
      have speaks := d.stream.speaks_write .grader octets
      refine ⟨taken, ends, h.of_stream self (fun silent => speaks.trans silent) ?_ ?_⟩ <;>
        rw [Stream.write_eq] <;> cases carries : d.stream.carriesFrom .grader with
      | true =>
          intro deaf
          simp [Stream.carriesFrom, Stream.endAt, Side.other, deaf] at carries
      | false => simp
  | receives =>
      cases here : d.graderGone with
      | false => exact h.receive here
      | true =>
          rw [Dispatch.step, if_pos here]
          exact ⟨taken, ends, h⟩
  | graderCloses =>
      have gone : (d.step .graderCloses).graderGone ≠ false := by simp [Dispatch.step]
      exact ⟨taken, ends, h.returned_eq, h.begins, fun here => absurd here gone,
        fun here => absurd here gone, h.last, h.ends_eq, h.resets, h.lost⟩

theorem Faithful.run (h : d.Faithful taken ends) (moves : List Move) :
    ∃ taken ends, (d.run moves).Faithful taken ends := by
  let P (d : Dispatch) : Prop := ∃ taken ends, d.Faithful taken ends
  refine List.foldlRecOn (motive := P) moves Dispatch.step ⟨taken, ends, h⟩
    fun d faithful move _ => ?_
  obtain ⟨taken, ends, h⟩ := faithful
  exact h.step move

/-! ### What a whole run returned -/

/-- The calls returned what the first octets decode to, and then ends. -/
theorem Faithful.taken_eq (h : d.Faithful taken ends) :
    taken = d.octets.take d.returned.length ∧ ends = d.ends := by
  obtain ⟨rest, split⟩ := h.begins
  have length : d.returned.length = taken.length + ends.length := by
    simp [h.returned_eq]
  rw [length, Dispatch.ends, h.returned_eq, ← split]
  cases ends with
  | nil =>
      refine ⟨by simp, ?_⟩
      rw [List.append_nil, List.drop_of_length_le (by simp)]
  | cons first others =>
      have all := (h.last (List.cons_ne_nil first others)).1
      obtain rfl : rest = [] := by
        rw [← split] at all
        exact List.self_eq_append_right.mp all
      refine ⟨by rw [List.append_nil, List.take_of_length_le (by simp)], ?_⟩
      rw [List.append_nil, List.drop_left' (by simp)]

/-- The octets are those of the commands that were sent, if nobody else wrote. -/
theorem octets_run {moves : List Move} (own : ∀ octets, Move.writes octets ∉ moves)
    (sent : d.octets = d.sent.flatMap Command.encode) :
    (d.run moves).octets = (d.run moves).sent.flatMap Command.encode := by
  refine List.foldlRecOn (motive := fun d : Dispatch => d.octets = d.sent.flatMap Command.encode)
    moves step sent fun d sent move mem => ?_
  cases move with
  | writes octets => exact absurd mem (own octets)
  | sends command refusal =>
      cases refusal with
      | some cause => exact sent
      | none =>
          rw [step]
          split
          · simp only [octets, List.flatten_append, List.flatten_singleton, List.flatMap_append,
              List.flatMap_singleton]
            rw [show d.writes.flatten = _ from sent]
          · exact sent
  | receives =>
      rw [step]
      split <;> exact sent
  | _ => exact sent

theorem stream_sends (d : Dispatch) (command : Command) :
    (d.step (.sends command none)).stream = (Connection.transmit command d.stream).2 := by
  rw [step]
  split <;> (rename_i written; rw [written])

theorem stream_writes (d : Dispatch) (octets : List UInt8) :
    (d.step (.writes octets)).stream = (d.stream.write .client octets).2 := by
  rw [step]
  split <;> (rename_i written; rw [written])

/-- A call for a command does not touch the client's end. -/
theorem client_receives (d : Dispatch) :
    (d.step .receives).stream.client = d.stream.client := by
  rw [step]
  split
  · rfl
  · have received := Peer.receiveCommand_receives d.stream
    generalize (Peer.receiveCommand d.stream).1.answer? = answer,
      (Peer.receiveCommand d.stream).2 = s at received
    cases received <;> rfl

/-- The client may write as before, unless it stops. -/
theorem speaks_step (d : Dispatch) (move : Move) :
    (d.step move).stream.client.speaks = (d.stream.client.speaks && !move.silences) := by
  cases move with
  | sends command refusal =>
      rw [Move.silences, Bool.not_false, Bool.and_true]
      cases refusal with
      | some cause => rfl
      | none =>
          rw [stream_sends]
          exact congrArg StreamEnd.speaks (d.stream.endAt_write .client command.encode)
  | writes octets =>
      rw [Move.silences, Bool.not_false, Bool.and_true, stream_writes]
      exact congrArg StreamEnd.speaks (d.stream.endAt_write .client octets)
  | endsWriting | hangsUp | closes => exact (Bool.and_false _).symm
  | clientReads =>
      rw [Move.silences, Bool.not_false, Bool.and_true]
      exact d.stream.speaks_read .client Connection.readSize
  | graderWrites octets =>
      rw [Move.silences, Bool.not_false, Bool.and_true]
      exact d.stream.speaks_write .grader octets
  | receives =>
      rw [Move.silences, Bool.not_false, Bool.and_true, client_receives]
  | graderCloses =>
      rw [Move.silences, Bool.not_false, Bool.and_true]
      rfl

/-- The client may write after a run in which it does not stop, and only then. -/
theorem speaks_run (d : Dispatch) (moves : List Move) :
    (d.run moves).stream.client.speaks =
      (d.stream.client.speaks && !moves.any Move.silences) := by
  induction moves generalizing d with
  | nil => exact (Bool.and_true _).symm
  | cons move moves ih =>
      have later := ih (d.step move)
      rw [speaks_step] at later
      rw [List.any_cons, Bool.not_or, ← Bool.and_assoc]
      exact later

/-! ### Calls at the end of the stream -/

/-- What calls return before the end of the stream: what the octets that are left decode to, and the
loss of what the client had not read, if no call has noticed it yet. -/
def remaining (d : Dispatch) : List Answer :=
  (d.octets.drop d.returned.length).map Peer.answer ++
    if d.lost ≠ [] ∧ d.ends.countP Answer.isFailure = 0 then [Peer.resetAnswer] else []

/-- What is left is in the queue of the grader, and the loss is marked there. -/
theorem Faithful.remaining_eq (h : d.Faithful taken ends) (here : d.graderGone = false) :
    d.stream.grader.inbox = d.octets.drop d.returned.length ∧
      d.remaining = d.stream.grader.inbox.map Peer.answer ++
        bif d.stream.grader.reset then [Peer.resetAnswer] else [] := by
  obtain ⟨first, last⟩ := h.taken_eq
  have queue : d.stream.grader.inbox = d.octets.drop d.returned.length := by
    have split := h.queued here
    rw [first] at split
    exact (List.append_cancel_left (split.symm.trans (List.take_append_drop ..).symm))
  refine ⟨queue, ?_⟩
  have resets := h.resets
  rw [last] at resets
  rw [remaining, queue]
  cases lost : d.lost with
  | nil =>
      rw [lost] at resets
      have unreset := Bool.toNat_eq_zero.mp (Nat.add_eq_zero_iff.mp resets).2
      simp [unreset]
  | cons b rest =>
      rw [lost] at resets
      cases reset : d.stream.grader.reset with
      | true =>
          rw [reset] at resets
          have unnoticed : d.ends.countP Answer.isFailure = 0 := Nat.succ_inj.mp resets
          simp [unnoticed]
      | false =>
          rw [reset] at resets
          have noticed : d.ends.countP Answer.isFailure = 1 := resets
          simp [noticed]

/-- The next calls once the client writes no more. -/
theorem returned_receives (n : Nat) (here : d.graderGone = false)
    (silent : d.stream.client.speaks = false) {left : List Answer}
    (there : left = d.stream.grader.inbox.map Peer.answer ++
      bif d.stream.grader.reset then [Peer.resetAnswer] else []) :
    (d.run (List.replicate n .receives)).returned =
      d.returned ++ left.take n ++ List.replicate (n - left.length) (.ok none) := by
  induction n generalizing d left with
  | zero => simp [run]
  | succ n ih =>
      have quiet : (d.step .receives).stream.client.speaks = false := by
        rw [client_receives, silent]
      have stays : (d.step .receives).graderGone = false := by simp [step, here]
      have next := ih stays quiet rfl
      have again : d.run (List.replicate (n + 1) .receives) =
          (d.step .receives).run (List.replicate n .receives) := rfl
      rw [again, next, there, step, if_neg (by simp [here])]
      have received := Peer.receiveCommand_receives d.stream
      generalize (Peer.receiveCommand d.stream).1.answer? = answer,
        (Peer.receiveCommand d.stream).2 = s at received
      cases received with
      | takes there => simp [there, Stream.modify]
      | notices empty reset => simp [empty, reset, Stream.modify]
      | ends empty unreset => simp [empty, unreset, List.replicate_succ]
      | waits empty carries => simp [Stream.carriesFrom, Stream.endAt, silent] at carries

/-- The calls of a grader for a command take the octets of its client one by one, and each returns
what its octet decodes to, however the octets were written; an octet that is no command costs one
call and no other octet. If the client wrote only what it sent, the commands that were received are
the first that were sent, one for each call. No call finds the end of the stream before the client
has stopped writing, and none takes an octet afterwards; one call at most reports that the client
closed with octets unread. Once the client has stopped, calls return all that is left, and then the
end of the stream. -/
theorem outbound_fidelity (moves : List Move) :
    let d := run {} moves
    d.returned = (d.octets.take d.returned.length).map Peer.answer ++ d.ends ∧
      (d.graderGone = false → d.stream.grader.inbox = d.octets.drop d.returned.length) ∧
      ((∀ octets, Move.writes octets ∉ moves) →
        d.octets = d.sent.flatMap Command.encode ∧
          d.received = d.sent.take d.returned.length) ∧
      (moves.any Move.silences = false → d.ends = []) ∧
      (∀ answer ∈ d.ends, answer = .ok none ∨ answer = Peer.resetAnswer) ∧
      d.ends.countP Answer.isFailure ≤ (if d.lost = [] then 0 else 1) ∧
      (moves.any Move.silences = true → d.graderGone = false → ∀ n,
        (d.run (List.replicate n .receives)).returned =
          d.returned ++ d.remaining.take n ++
            List.replicate (n - d.remaining.length) (.ok none)) := by
  intro d
  obtain ⟨taken, ends, h⟩ := faithful_nil.run moves
  have speaks : d.stream.client.speaks = !moves.any Move.silences := speaks_run {} moves
  obtain ⟨first, last⟩ := h.taken_eq
  have returned := h.returned_eq
  rw [first, last] at returned
  refine ⟨returned, fun here => (h.remaining_eq here).1, fun own => ?_, fun speaking => ?_,
    last ▸ h.ends_eq, ?_, fun silence here n => ?_⟩
  · have octets := octets_run (d := {}) own rfl
    have unended : d.ends.filterMap Answer.command? = [] := by
      refine List.filterMap_eq_nil_iff.mpr fun answer mem => ?_
      rcases h.ends_eq answer (last ▸ mem) with rfl | rfl <;> rfl
    have taken : d.octets.take d.returned.length =
        (d.sent.take d.returned.length).flatMap Command.encode := by
      rw [octets, Peer.flatMap_encode, Peer.flatMap_encode, List.map_take]
    refine ⟨octets, ?_⟩
    rw [received]
    conv => lhs; rw [returned]
    rw [List.filterMap_append, taken, Peer.filterMap_answer_encode, unended, List.append_nil]
  · refine Decidable.byContradiction fun ended => ?_
    have silent := (h.last (last ▸ ended)).2
    rw [speaks, speaking] at silent
    cases silent
  · have resets := h.resets
    rw [last] at resets
    cases lost : d.lost with
    | nil =>
        rw [lost] at resets
        exact Nat.le_of_eq (Nat.add_eq_zero_iff.mp resets).1
    | cons b rest =>
        rw [lost] at resets
        exact Nat.le_trans (Nat.le_add_right ..) (Nat.le_of_eq resets)
  · exact returned_receives n here (by rw [speaks, silence]; rfl) (h.remaining_eq here).2

end Dispatch

end ReviewChannel
