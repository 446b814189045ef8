import ReviewChannel.Proofs.Decoding
import ReviewChannel.Proofs.Stream
import ReviewChannel.ReviewLoop

/-!
What one step of a review session does to the stream.

`ReviewLoop.Advances` lists all that a step can do, with what it needs and what it leaves, and
`step_advances` says that there is nothing else. A step that does not write leaves the client's end
of the stream as it was, so what the grader sends is an identifier that it has accepted, or the stop
directive as the last step (`step_cases`).
-/

namespace ReviewChannel

open Message (stopOctets)

/-- The identifiers that a session has not sent yet. -/
def Stage.ahead : Stage → List String
  | .awaitStart ids | .announce ids | .awaitReview _ ids => ids
  | .dismiss _ | .finished _ => []

/-- The command that a session waits for. -/
def Stage.awaits : Stage → Option Command
  | .awaitStart _ => some .start
  | .awaitReview _ _ => some .review
  | .announce _ | .dismiss _ | .finished _ => none

namespace Peer

/-- What is wrong when something else comes than the expected command: an octet, or the end of the
stream. -/
def missed (expected : Command) : Option UInt8 → Failure
  | none => .transport s!"client disconnected while waiting for {expected.label} command"
  | some octet =>
      match Command.ofOctet? octet with
      | none => .unknownCommand octet
      | some command => .transport s!"expected {expected.label} command, got {command.label}"

/-- The grader reads one octet of its client. -/
theorem read_one (s : Stream) :
    s.read .grader 1 =
      match s.grader.inbox with
      | octet :: queue => (.octets [octet], s.modify .grader fun e => { e with inbox := queue })
      | [] =>
          if s.grader.reset then
            (.failed .connectionReset, s.modify .grader fun e => { e with reset := false })
          else if s.carriesFrom .client then (.waiting, s)
          else (.ended, s) := by
  unfold Stream.read
  change (match s.grader.inbox with | b :: rest => _ | [] => _) = _
  cases s.grader.inbox <;> rfl

/-- Waiting for a command takes the next octet and finds out whether it is that command. Without an
octet the grader notices that the client went away or has stopped, or goes on waiting. -/
theorem expectCommand_eq (expected : Command) (s : Stream) :
    expectCommand expected s =
      (match s.grader.inbox with
        | octet :: _ =>
            if octet = expected.octet then .got () else .failed (missed expected (some octet))
        | [] =>
            if s.grader.reset then .failed (.transport SystemError.connectionReset.message)
            else if s.carriesFrom .client then .waiting
            else .failed (missed expected none),
        (s.read .grader 1).2) := by
  simp only [expectCommand, receiveCommand, read_one]
  cases s.grader.inbox with
  | nil =>
      by_cases reset : s.grader.reset = true
      · simp only [if_pos reset]
      · by_cases carries : s.carriesFrom .client = true
        · simp only [if_neg reset, if_pos carries]
        · simp only [if_neg reset, if_neg carries, missed]
  | cons octet queue =>
      simp only [Command.decode]
      by_cases wanted : octet = expected.octet
      · simp [wanted]
      · rw [if_neg wanted, missed]
        cases known : Command.ofOctet? octet with
        | none => rfl
        | some command =>
            have other : command ≠ expected := by
              rintro rfl
              exact wanted (Command.ofOctet?_eq_some_iff.mp known)
            simp only [if_neg other]

/-- A command that is expected and there is taken. -/
theorem expectCommand_of_inbox {s : Stream} {command : Command} {rest : List UInt8}
    (queue : s.grader.inbox = command.octet :: rest) :
    expectCommand command s = (.got (), s.modify .grader fun e => { e with inbox := rest }) := by
  simp only [expectCommand_eq, read_one, queue, if_true]

/-- The command that the grader waits for is not next: another octet is, or none will come. -/
def Lacks (expected : Command) (s : Stream) : Prop :=
  (∃ octet queue, s.grader.inbox = octet :: queue ∧ octet ≠ expected.octet) ∨
    (s.grader.inbox = [] ∧ (s.grader.reset = true ∨ s.carriesFrom .client = false))

/-- All that waiting for a command can come to: it is taken, or it cannot come any more, or nothing
is there yet. -/
theorem expectCommand_cases (expected : Command) (s : Stream) :
    (∃ queue, s.grader.inbox = expected.octet :: queue ∧
        expectCommand expected s = (.got (), s.modify .grader fun e => { e with inbox := queue })) ∨
      (Lacks expected s ∧
        ∃ failure, expectCommand expected s = (.failed failure, (s.read .grader 1).2)) ∨
      (s.grader.inbox = [] ∧ expectCommand expected s = (.waiting, s)) := by
  have heard := expectCommand_eq expected s
  cases there : s.grader.inbox with
  | cons octet queue =>
      by_cases wanted : octet = expected.octet
      · subst wanted
        exact Or.inl ⟨queue, rfl, expectCommand_of_inbox there⟩
      · simp only [there, if_neg wanted] at heard
        exact Or.inr (Or.inl ⟨Or.inl ⟨octet, queue, there, wanted⟩, _, heard⟩)
  | nil =>
      by_cases reset : s.grader.reset = true
      · simp only [there, if_pos reset] at heard
        exact Or.inr (Or.inl ⟨Or.inr ⟨there, Or.inl reset⟩, _, heard⟩)
      · by_cases carries : s.carriesFrom .client = true
        · simp only [read_one, there, if_neg reset, if_pos carries] at heard
          exact Or.inr (Or.inr ⟨rfl, heard⟩)
        · simp only [there, if_neg reset, if_neg carries] at heard
          have dry : s.carriesFrom .client = false := by simpa using carries
          exact Or.inr (Or.inl ⟨Or.inr ⟨there, Or.inr dry⟩, _, heard⟩)

/-- The grader does not wait for a client that can write no more. -/
theorem expectCommand_ne_waiting {s : Stream} (ended : ¬ s.carriesFrom .client = true)
    (expected : Command) : (expectCommand expected s).1 ≠ .waiting := by
  rw [expectCommand_eq]
  cases s.grader.inbox with
  | cons octet queue =>
      by_cases wanted : octet = expected.octet
      · simp [wanted]
      · simp [wanted]
  | nil =>
      by_cases reset : s.grader.reset = true
      · simp [reset]
      · simp [reset, ended]

/-- An identifier that is accepted is added to what the client can read. If the stream does not
carry it, sending fails, unless there is nothing to send. -/
theorem sendText_cases (s : Stream) (text : String) :
    sendText text s =
        (.ok (), s.modify .client fun e => { e with inbox := e.inbox ++ Utf8.encode text }) ∨
      (s.carriesFrom .grader = false ∧ ∃ failure, sendText text s = (.error failure, s)) := by
  unfold sendText
  rcases s.write_cases .grader (Utf8.encode text) with sent | ⟨broken, cause, failed⟩
  · rw [sent]
    exact Or.inl rfl
  · rw [failed]
    exact Or.inr ⟨broken, _, rfl⟩

theorem sendText_of_carries {s : Stream} (carries : s.carriesFrom .grader = true) (text : String) :
    sendText text s =
      (.ok (), s.modify .client fun e => { e with inbox := e.inbox ++ Utf8.encode text }) := by
  rcases sendText_cases s text with sent | ⟨broken, -⟩
  · exact sent
  · rw [carries] at broken
    cases broken

end Peer

namespace ReviewLoop

/-- A step that adds nothing to what the client can read. -/
structure Quiet (loop : ReviewLoop) (s : Stream) : Prop where
  client_eq : (loop.step s).2.client = s.client
  speaks_eq : (loop.step s).2.grader.speaks = s.grader.speaks
  ahead_eq : (loop.step s).1.stage.ahead = loop.stage.ahead ∨ (loop.step s).1.stage.ahead = []
  result_eq : (loop.step s).1.result? = loop.result?

/-- A session that has finished does nothing more. -/
theorem step_of_finished {loop : ReviewLoop} (finished : loop.result?.isSome = true) (s : Stream) :
    loop.step s = (loop, s) := by
  unfold result? at finished
  unfold step
  cases stage : loop.stage with
  | finished result => rfl
  | _ => simp [stage] at finished

variable {loop : ReviewLoop} {ids others : List String} {id : String}

theorem step_awaitStart (stage : loop.stage = .awaitStart ids) (s : Stream) :
    loop.step s =
      match Peer.expectCommand .start s with
      | (.got (), s) => ({ loop with stage := .announce ids }, s)
      | (.failed failure, s) => ({ loop with stage := .dismiss (.error failure) }, s)
      | (.waiting, s) => (loop, s) := by
  obtain ⟨_, reviewed⟩ := loop
  cases stage
  rfl

theorem step_announce (stage : loop.stage = .announce (id :: others)) (s : Stream) :
    loop.step s =
      match Peer.sendIdentifier id s with
      | (.ok (), s) => ({ loop with stage := .awaitReview id others }, s)
      | (.error failure, s) => ({ loop with stage := .dismiss (.error failure) }, s) := by
  obtain ⟨_, reviewed⟩ := loop
  cases stage
  rfl

theorem step_announce_nil (stage : loop.stage = .announce []) (s : Stream) :
    loop.step s = ({ loop with stage := .dismiss (.ok loop.reviewed.length) }, s) := by
  obtain ⟨_, reviewed⟩ := loop
  cases stage
  rfl

theorem step_awaitReview (stage : loop.stage = .awaitReview id others) (s : Stream) :
    loop.step s =
      match Peer.expectCommand .review s with
      | (.got (), s) => ({ stage := .announce others, reviewed := loop.reviewed ++ [id] }, s)
      | (.failed failure, s) => ({ loop with stage := .dismiss (.error failure) }, s)
      | (.waiting, s) => (loop, s) := by
  obtain ⟨_, reviewed⟩ := loop
  cases stage
  rfl

theorem step_dismiss {result : Except Failure Nat} (stage : loop.stage = .dismiss result)
    (s : Stream) :
    loop.step s = ({ loop with stage := .finished result }, (Peer.sendStop s).2) := by
  obtain ⟨_, reviewed⟩ := loop
  cases stage
  rfl

/-! ### All that a step can do -/

/-- One step of a session: what it needs, and what it leaves. -/
inductive Advances (loop : ReviewLoop) (s : Stream) : ReviewLoop × Stream → Prop where
  /-- The grader takes `start`. -/
  | starts {ids : List String} {queue : List UInt8} (stage : loop.stage = .awaitStart ids)
      (there : s.grader.inbox = Command.start.octet :: queue) :
      Advances loop s ({ loop with stage := .announce ids },
        s.modify .grader fun e => { e with inbox := queue })
  /-- The grader sends the identifier that is next. -/
  | announces {id : String} {others : List String} (stage : loop.stage = .announce (id :: others))
      (accepted : Message.isReserved id = false) :
      Advances loop s ({ loop with stage := .awaitReview id others },
        s.modify .client fun e => { e with inbox := e.inbox ++ Utf8.encode id })
  /-- The identifier that is next could be a directive, or the stream does not carry it. -/
  | refuses {id : String} {others : List String} (failure : Failure)
      (stage : loop.stage = .announce (id :: others))
      (broken : Message.isReserved id = true ∨ s.carriesFrom .grader = false) :
      Advances loop s ({ loop with stage := .dismiss (.error failure) }, s)
  /-- The grader takes the review of the identifier that it sent. -/
  | reviews {id : String} {others : List String} {queue : List UInt8}
      (stage : loop.stage = .awaitReview id others)
      (there : s.grader.inbox = Command.review.octet :: queue) :
      Advances loop s ({ stage := .announce others, reviewed := loop.reviewed ++ [id] },
        s.modify .grader fun e => { e with inbox := queue })
  /-- All identifiers are reviewed. -/
  | completes (stage : loop.stage = .announce []) :
      Advances loop s ({ loop with stage := .dismiss (.ok loop.reviewed.length) }, s)
  /-- The command that the grader waits for cannot come. -/
  | despairs {expected : Command} (failure : Failure)
      (stage : loop.stage.awaits = some expected) (lacks : Peer.Lacks expected s) :
      Advances loop s ({ loop with stage := .dismiss (.error failure) }, (s.read .grader 1).2)
  /-- The command that the grader waits for may still come. -/
  | waits {expected : Command} (stage : loop.stage.awaits = some expected)
      (empty : s.grader.inbox = []) : Advances loop s (loop, s)
  /-- The stop directive goes out. -/
  | dismisses {result : Except Failure Nat} (stage : loop.stage = .dismiss result) :
      Advances loop s ({ loop with stage := .finished result }, (Peer.sendStop s).2)
  | rests {result : Except Failure Nat} (stage : loop.stage = .finished result) :
      Advances loop s (loop, s)

variable (loop)

/-- Every step is one of these. -/
theorem step_advances (s : Stream) : loop.Advances s (loop.step s) := by
  cases stage : loop.stage with
  | awaitStart ids =>
      have awaits : loop.stage.awaits = some .start := by rw [stage]; rfl
      rw [step_awaitStart stage]
      rcases Peer.expectCommand_cases .start s with
        ⟨queue, there, eq⟩ | ⟨lacks, failure, eq⟩ | ⟨empty, eq⟩
      · rw [eq]
        exact .starts stage there
      · rw [eq]
        exact .despairs failure awaits lacks
      · rw [eq]
        exact .waits awaits empty
  | announce ids =>
      cases ids with
      | nil =>
          rw [step_announce_nil stage]
          exact .completes stage
      | cons id others =>
          rw [step_announce stage]
          cases reserved : Message.isReserved id with
          | true =>
              rw [Peer.sendIdentifier, if_pos reserved]
              exact .refuses _ stage (Or.inl reserved)
          | false =>
              rw [Peer.sendIdentifier, if_neg (by simp [reserved])]
              rcases Peer.sendText_cases s id with sent | ⟨broken, failure, failed⟩
              · rw [sent]
                exact .announces stage reserved
              · rw [failed]
                exact .refuses failure stage (Or.inr broken)
  | awaitReview id others =>
      have awaits : loop.stage.awaits = some .review := by rw [stage]; rfl
      rw [step_awaitReview stage]
      rcases Peer.expectCommand_cases .review s with
        ⟨queue, there, eq⟩ | ⟨lacks, failure, eq⟩ | ⟨empty, eq⟩
      · rw [eq]
        exact .reviews stage there
      · rw [eq]
        exact .despairs failure awaits lacks
      · rw [eq]
        exact .waits awaits empty
  | dismiss result =>
      rw [step_dismiss stage]
      exact .dismisses stage
  | finished result =>
      rw [step_of_finished (by rw [result?, stage]; rfl)]
      exact .rests stage

/-- A step sends the identifier that is next, or the stop directive, or nothing. -/
theorem step_cases (s : Stream) :
    (∃ id others, loop.stage = .announce (id :: others) ∧ Message.isReserved id = false ∧
        loop.step s = ({ loop with stage := .awaitReview id others },
          s.modify .client fun e => { e with inbox := e.inbox ++ Utf8.encode id })) ∨
      (∃ result, loop.stage = .dismiss result ∧
        loop.step s = ({ loop with stage := .finished result }, (Peer.sendStop s).2)) ∨
      loop.Quiet s := by
  have advances := loop.step_advances s
  generalize stepped : loop.step s = next at advances
  cases advances with
  | announces stage accepted => exact Or.inl ⟨_, _, stage, accepted, rfl⟩
  | dismisses stage => exact Or.inr (Or.inl ⟨_, stage, rfl⟩)
  | starts stage | refuses _ stage | reviews stage | completes stage =>
      refine Or.inr (Or.inr ?_)
      constructor <;> simp [stepped, Stage.ahead, result?, stage, Stream.modify]
  | despairs failure stage =>
      have client := s.endAt_other_read .grader 1
      have speaks := s.speaks_read .grader 1
      refine Or.inr (Or.inr ⟨?_, ?_, ?_, ?_⟩)
      · rw [stepped]
        exact client
      · rw [stepped]
        exact speaks
      · rw [stepped]
        exact Or.inr rfl
      · rw [stepped, result?, result?]
        revert stage
        cases loop.stage <;> simp [Stage.awaits]
  | waits | rests => exact Or.inr (Or.inr (by constructor <;> simp [stepped]))

end ReviewLoop

end ReviewChannel
