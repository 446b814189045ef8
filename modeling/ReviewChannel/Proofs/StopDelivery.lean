import ReviewChannel.Proofs.Conversation

/-!
What becomes of the stop directive that the grader sends last.

* `Conversation.Attended` — while the client stays, the stream takes what the grader sends.
* `Conversation.settled_step` — once the session of the grader has finished, what has been read and
  the chunks that are still to be read stay the same.
* `Conversation.stop_delivery_iff` — nothing that was sent is lost, but a stop directive is
  recognised only if a read returns it and nothing else.
-/

namespace ReviewChannel

open Message (stopOctets)

namespace Conversation

variable {η : Type}

/-! ### A client that stays -/

/-- The client's end takes what the grader sends, and the grader sends until its session has
finished. Only then does the reader stop, and it leaves nothing unread. -/
structure Attended (c : Conversation η) : Prop where
  listens : c.stream.client.listens = true
  speaks : c.loop.result? = none → c.stream.grader.speaks = true
  reset : c.stream.client.reset = true → c.stream.grader.speaks = false
  deaf : c.deaf = true → c.stream.grader.speaks = false ∧ c.inbox = []

theorem Attended.congr {c c' : Conversation η} (h : c.Attended)
    (client : c'.stream.client = c.stream.client)
    (speaks : c'.stream.grader.speaks = c.stream.grader.speaks) (deaf : c'.deaf = c.deaf)
    (result : c'.loop.result? = c.loop.result?) : c'.Attended where
  listens := by rw [client, h.listens]
  speaks := by rw [result, speaks]; exact h.speaks
  reset := by rw [client, speaks]; exact h.reset
  deaf := by
    rw [inbox, client, speaks, deaf]
    exact h.deaf

/-- What leaves the wire alone leaves the client attended. -/
theorem Attended.of_sameWire {c c' : Conversation η} (h : c.Attended) (same : c.SameWire c') :
    c'.Attended :=
  h.congr same.client_eq same.speaks_eq same.deaf_eq (congrArg _ same.loop_eq)

/-- The reader has not stopped while the session of the grader goes on. -/
theorem Attended.hears {c : Conversation η} (h : c.Attended) (goesOn : c.loop.result? = none) :
    c.deaf = false := by
  cases deaf : c.deaf with
  | false => rfl
  | true =>
      have silent := (h.deaf deaf).1
      rw [h.speaks goesOn] at silent
      cases silent

theorem Attended.carries {c : Conversation η} (h : c.Attended) (goesOn : c.loop.result? = none) :
    c.stream.carriesFrom .grader = true := by
  have speaks := h.speaks goesOn
  have listens := h.listens
  simp only [Stream.carriesFrom, Side.other, Stream.endAt, speaks, listens, Bool.and_true]

/-- No step but hanging up ends the client's attention. -/
theorem Attended.step [Surroundings η] {c : Conversation η} (h : c.Attended) {move : Move}
    (stays : move ≠ .leave) : (c.step move).Attended := by
  cases move with
  | trigger => exact h.of_sameWire c.sameWire_trigger
  | handle => exact h.of_sameWire c.sameWire_handle
  | leave => exact absurd rfl stays
  | read =>
      rw [Conversation.step]
      split
      · exact h
      · obtain ⟨grader, listens, reset, outcome⟩ := Connection.readOnce_cases c.stream
        refine ⟨listens.trans h.listens, fun goesOn => ?_, fun noticed => ?_, fun stops => ?_⟩
        · exact (congrArg StreamEnd.speaks grader).trans (h.speaks goesOn)
        · exact (congrArg StreamEnd.speaks grader).trans (h.reset (reset noticed))
        · rcases outcome with ⟨-, -, goesOn, -⟩ | ⟨-, -, left, dry⟩
          · exact absurd (goesOn.symm.trans stops) Bool.false_ne_true
          · refine ⟨(congrArg StreamEnd.speaks grader).trans ?_, left⟩
            rcases dry stops with noticed | dry
            · exact h.reset noticed
            · rwa [h.listens, Bool.and_true] at dry
  | grade =>
      rcases c.loop.step_cases c.stream with
        ⟨id, others, stage, -, stepped⟩ | ⟨result, stage, stepped⟩ | quiet
      · have goesOn : c.loop.result? = none := by rw [ReviewLoop.result?, stage]
        rw [Conversation.step, stepped]
        refine ⟨h.listens, fun _ => h.speaks goesOn, h.reset, fun deaf => ?_⟩
        exact absurd ((h.hears goesOn).symm.trans deaf) Bool.false_ne_true
      · have goesOn : c.loop.result? = none := by rw [ReviewLoop.result?, stage]
        rw [Conversation.step, stepped, Peer.sendStop, Peer.sendText_of_carries (h.carries goesOn)]
        refine ⟨h.listens, fun goesOn => ?_, h.reset, fun deaf => ?_⟩
        · cases goesOn
        · exact absurd ((h.hears goesOn).symm.trans deaf) Bool.false_ne_true
      · exact h.congr quiet.client_eq quiet.speaks_eq rfl quiet.result_eq
  | graderLeaves =>
      rw [Conversation.step]
      split
      · rename_i finished
        refine ⟨h.listens, fun goesOn => ?_, fun _ => rfl, fun deaf => ⟨rfl, (h.deaf deaf).2⟩⟩
        have unfinished : (none : Option (Except Failure Nat)).isSome = true := goesOn ▸ finished
        exact absurd unfinished Bool.false_ne_true
      · exact h

variable [Surroundings η]

theorem run_attended (around : η) (endpoint : Path) (ids : List String) {moves : List Move}
    (stays : Move.leave ∉ moves) : ((start around endpoint ids).run moves).Attended := by
  have fresh : (start around endpoint ids).Attended :=
    ⟨rfl, fun _ => rfl, fun reset => absurd reset Bool.false_ne_true,
      fun deaf => absurd deaf Bool.false_ne_true⟩
  refine List.foldlRecOn moves step fresh fun _ attended move mem => attended.step ?_
  rintro rfl
  exact stays mem

/-! ### After the last word of the grader -/

/-- The step in which the grader sends the stop directive to a client that stays. -/
theorem step_dismiss {c : Conversation η} {result : Except Failure Nat} (h : c.Attended)
    (stage : c.loop.stage = .dismiss result) :
    (c.step .grade).loop.result? = some result ∧ (c.step .grade).reads = c.reads ∧
      (c.step .grade).inbox = c.inbox ++ stopOctets := by
  have goesOn : c.loop.result? = none := by rw [ReviewLoop.result?, stage]
  rw [step, ReviewLoop.step_dismiss stage, Peer.sendStop,
    Peer.sendText_of_carries (h.carries goesOn)]
  exact ⟨rfl, rfl, rfl⟩

/-- Once the session of the grader has finished, the reads that are to come are the chunks of what
is there, in whatever order the rest happens. -/
theorem settled_step {c : Conversation η} (finished : c.loop.result?.isSome = true) (move : Move) :
    (c.step move).loop = c.loop ∧
      (c.step move).reads ++ Connection.chunks (c.step move).inbox =
        c.reads ++ Connection.chunks c.inbox := by
  have other (notRead : move ≠ .read) (notGrade : move ≠ .grade) :
      (c.step move).loop = c.loop ∧
        (c.step move).reads ++ Connection.chunks (c.step move).inbox =
          c.reads ++ Connection.chunks c.inbox := by
    have same := c.sameQueue_step notRead notGrade
    rw [same.loop_eq, same.reads_eq, same.inbox_eq]
    exact ⟨rfl, rfl⟩
  cases move with
  | read =>
      rw [step]
      split
      · exact ⟨rfl, rfl⟩
      · refine ⟨rfl, ?_⟩
        rw [reads, c.reads_append, List.append_assoc]
        exact congrArg (c.reads ++ ·) (Connection.readOnce_chunks c.stream)
  | grade =>
      rw [step, ReviewLoop.step_of_finished finished]
      exact ⟨rfl, rfl⟩
  | trigger => exact other (by decide) (by decide)
  | handle => exact other (by decide) (by decide)
  | leave => exact other (by decide) (by decide)
  | graderLeaves => exact other (by decide) (by decide)

/-- After the last word of the grader, read and unread octets stay the same reads. -/
theorem settled_run {c : Conversation η} (finished : c.loop.result?.isSome = true)
    (moves : List Move) :
    (c.run moves).reads ++ Connection.chunks (c.run moves).inbox =
      c.reads ++ Connection.chunks c.inbox := by
  let P (later : Conversation η) : Prop :=
    later.loop = c.loop ∧
      later.reads ++ Connection.chunks later.inbox = c.reads ++ Connection.chunks c.inbox
  have kept : P (c.run moves) := by
    refine List.foldlRecOn (motive := P) moves step ⟨rfl, rfl⟩ fun later holds move _ => ?_
    have stepped := settled_step (holds.1 ▸ finished) move
    exact ⟨stepped.1.trans holds.1, stepped.2.trans holds.2⟩
  exact kept.2

/-- A stop directive was met if its octets were. -/
theorem exists_stopDirective_iff (payloads : List (List UInt8)) :
    (∃ octets ∈ payloads, Message.classify octets = .stopDirective) ↔ stopOctets ∈ payloads := by
  simp only [Message.classify_eq_stopDirective_iff, exists_eq_right]

/-- The client handles all that its reader delivers and stays until the reader stops. Then it was
asked to end its host as often as a stop directive was recognised, but at most once: if the octets
that were unread when the grader sent the stop directive fill whole reads, or if the reader had met
its octets before. Nothing is lost either way. -/
theorem stop_delivery_iff (around : η) (endpoint : Path) (ids : List String)
    (before after : List Move) (result : Except Failure Nat)
    (stays : Move.leave ∉ before ++ after)
    (dismisses : ((start around endpoint ids).run before).loop.stage = .dismiss result)
    (deaf : ((start around endpoint ids).run (before ++ .grade :: after)).deaf = true)
    (attentive : ((start around endpoint ids).run (before ++ .grade :: after)).handled =
      ((start around endpoint ids).run (before ++ .grade :: after)).delivered.length) :
    let asked := (start around endpoint ids).run before
    let final := (start around endpoint ids).run (before ++ .grade :: after)
    (Peer.sendStop asked.stream).1 = .ok () ∧
      final.reads = asked.reads ++ Connection.chunks (asked.inbox ++ stopOctets) ∧
      final.client.desk.endings ≤ 1 ∧
      (final.client.desk.endings = 1 ↔
        ∃ octets ∈ final.reads, Message.classify octets = .stopDirective) ∧
      (final.client.desk.endings = 1 ↔
        Connection.readSize ∣ asked.inbox.length ∨
          ∃ octets ∈ asked.reads, Message.classify octets = .stopDirective) := by
  intro asked final
  have staysBefore : Move.leave ∉ before := fun mem => stays (List.mem_append_left _ mem)
  have staysAfter : Move.leave ∉ before ++ .grade :: after := by
    simpa using stays
  have attended : asked.Attended := run_attended around endpoint ids staysBefore
  have goesOn : asked.loop.result? = none := by rw [ReviewLoop.result?, dismisses]
  have sends := Peer.sendText_of_carries (attended.carries goesOn) Message.stopText
  obtain ⟨finished, readsSame, sent⟩ := step_dismiss attended dismisses
  have final_eq : final = (asked.step .grade).run after := run_append _ before (.grade :: after)
  have nothingLeft : final.inbox = [] :=
    ((run_attended around endpoint ids staysAfter).deaf deaf).2
  have reads_eq : final.reads = asked.reads ++ Connection.chunks (asked.inbox ++ stopOctets) := by
    have settled := settled_run (by rw [finished]; rfl) after
    rwa [← final_eq, nothingLeft, Connection.chunks_nil, List.append_nil, readsSame, sent]
      at settled
  have heard_eq : final.heard = final.reads := by
    rw [heard, attentive, List.take_length, reads]
  have answers := (run_answered around endpoint ids (before ++ .grade :: after)).answers
  rw [heard_eq] at answers
  have atMostOnce : final.client.desk.endings ≤ 1 := answers.endings_le_one
  have once : final.client.desk.endings = 1 ↔ stopOctets ∈ final.reads := by
    have asked : 0 < final.client.desk.endings ↔ stopOctets ∈ final.reads := answers.endings_pos_iff
    rw [← asked]
    omega
  refine ⟨by rw [Peer.sendStop, sends], reads_eq, atMostOnce, ?_, ?_⟩
  · rw [once, exists_stopDirective_iff]
  · rw [once, exists_stopDirective_iff, reads_eq, List.mem_append,
      Connection.stopOctets_mem_chunks_iff, or_comm]

/-- A client that reads in step with the grader recognises the stop directive. -/
theorem stop_delivery_in_step :
    ((start Obliging.mk ⟨[]⟩ ["jdoe2"]).run
      ([.trigger, .trigger, .grade, .grade, .read, .grade, .grade] ++ .grade ::
        [.graderLeaves, .read, .read, .handle, .handle, .handle, .handle])).client.desk.endings =
      1 := by
  have delivery := stop_delivery_iff Obliging.mk ⟨[]⟩ ["jdoe2"]
    [.trigger, .trigger, .grade, .grade, .read, .grade, .grade]
    [.graderLeaves, .read, .read, .handle, .handle, .handle, .handle] (.ok 1)
    (by decide) rfl (by decide) (by decide)
  exact delivery.2.2.2.2.mpr (Or.inl (by decide))

/-- The stop directive is lost when it is read together with the identifier before it. -/
theorem stop_lost_behind_identifier :
    ¬ ∀ (ids : List String) (before after : List Move) (result : Except Failure Nat),
      let c : Conversation Obliging := start .mk ⟨[]⟩ ids
      let final := c.run (before ++ .grade :: after)
      Move.leave ∉ before ++ after → (c.run before).loop.stage = .dismiss result →
        (Peer.sendStop (c.run before).stream).1 = .ok () → final.deaf = true →
        final.handled = final.delivered.length →
        (∃ octets ∈ final.reads, Message.classify octets = .stopDirective) ∧
          final.client.desk.endings = 1 := by
  intro delivered
  have ended := (delivered ["jdoe2"] [.trigger, .trigger, .grade, .grade, .grade, .grade]
    [.graderLeaves, .read, .read, .handle, .handle, .handle] (.ok 1) (by decide) rfl rfl rfl rfl).2
  exact absurd ended (by decide)

end Conversation

end ReviewChannel
