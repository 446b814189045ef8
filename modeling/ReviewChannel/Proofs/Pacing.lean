import Mathlib.Data.List.Induction
import ReviewChannel.Proofs.Accounting
import ReviewChannel.Proofs.Notices
import ReviewChannel.Proofs.Spelling
import ReviewChannel.Proofs.StopDelivery

/-!
Clients that do not run ahead of their grader.

Nothing keeps a reviewer from posting a review before the student was shown. A conversation is
`InTurn` when a trigger would not do that: the client has handled more payloads than it has sent
reviews. As long as triggers come in turn, `Conversation.Paced` holds: the grader meets no failure,
never two of its messages are on their way at once, so each is a read of its own, and the client has
shown what it has heard (`run_paced`, `Paced.shown_eq`).
-/

namespace ReviewChannel

open Message (stopOctets)

/-- Identifiers that a client shows as they were sent, if each is a read of its own. -/
def Legible (ids : List String) : Prop :=
  ∀ id ∈ ids, id ≠ "" ∧ Message.isReserved id = false ∧
    (Utf8.encode id).length ≤ Connection.readSize

instance (ids : List String) : Decidable (Legible ids) :=
  inferInstanceAs (Decidable (∀ id ∈ ids, _))

/-- All that a grader says to its client, message by message, when nothing fails. -/
def script (ids : List String) : List (List UInt8) :=
  ids.map Utf8.encode ++ [stopOctets]

@[simp] theorem length_script (ids : List String) : (script ids).length = ids.length + 1 := by
  simp [script]

theorem stopOctets_ne_nil : stopOctets ≠ [] := by
  decide

/-- The first messages of a grader show the first students. -/
theorem studentLines_take_script {ids : List String} (legible : Legible ids) (n : Nat) :
    studentLines ((script ids).take n) = (ids.take n).map studentLine := by
  induction ids generalizing n with
  | nil =>
      have silent : studentLines [stopOctets] = [] := by
        rw [studentLines, List.filterMap_cons, Message.classify_eq_stopDirective_iff.mpr rfl]
        rfl
      cases n with
      | zero => rfl
      | succ n =>
          rw [show (script []).take (n + 1) = [stopOctets] from List.take_of_length_le (by simp)]
          exact silent
  | cons id ids ih =>
      cases n with
      | zero => rfl
      | succ n =>
          have first := Message.classify_encode (legible id (List.mem_cons_self ..)).2.1
          have rest := ih (fun id mem => legible id (List.mem_cons_of_mem _ mem)) n
          rw [script, List.map_cons, List.cons_append, List.take_succ_cons, List.take_succ_cons,
            List.map_cons, ← rest, studentLines, List.filterMap_cons, first]
          rfl

/-! ### Schedules -/

namespace Move

/-- In a schedule this move is only made where the moves before it pass a guard. -/
def Guarded (move : Move) (guard : List Move → Prop) (moves : List Move) : Prop :=
  ∀ place < moves.length, moves[place]? = some move → guard (moves.take place)

instance (move : Move) (guard : List Move → Prop) [DecidablePred guard] (moves : List Move) :
    Decidable (move.Guarded guard moves) :=
  inferInstanceAs (Decidable (∀ place < moves.length, _))

variable {move made : Move} {guard : List Move → Prop} {before after : List Move}

theorem Guarded.front (h : move.Guarded guard (before ++ after)) : move.Guarded guard before := by
  intro place inside made
  have made' : (before ++ after)[place]? = some move := by
    rwa [List.getElem?_append_left inside]
  have passed := h place (by rw [List.length_append]; omega) made'
  rwa [List.take_append_of_le_length (Nat.le_of_lt inside)] at passed

/-- Where the move is made, the moves before it pass the guard. -/
theorem Guarded.passes (h : move.Guarded guard (before ++ made :: after)) (same : made = move) :
    guard before := by
  have passed := h before.length (by simp) (by simp [same])
  rwa [List.take_left] at passed

end Move

namespace ReviewLoop

/-- What a session has said to its client, message by message, if it has not failed. -/
def said (loop : ReviewLoop) : List (List UInt8) :=
  match loop.stage with
  | .awaitStart _ => []
  | .announce _ | .dismiss _ => loop.reviewed.map Utf8.encode
  | .awaitReview id _ => loop.reviewed.map Utf8.encode ++ [Utf8.encode id]
  | .finished _ => loop.reviewed.map Utf8.encode ++ [stopOctets]

/-- A session that has not failed. -/
def Faultless (loop : ReviewLoop) : Prop :=
  match loop.stage with
  | .dismiss (.error _) | .finished (.error _) => False
  | _ => True

variable {ids : List String} {loop : ReviewLoop}

/-- A session that has not failed has said the beginning of its script. -/
theorem Follows.said_begins (h : loop.Follows ids) (faultless : loop.Faultless) :
    loop.said <+: script ids := by
  have some (begins : loop.reviewed <+: ids) : loop.reviewed.map Utf8.encode <+: script ids :=
    (begins.map Utf8.encode).trans (List.prefix_append _ _)
  unfold said
  split
  · exact List.nil_prefix
  · exact some h.begins
  · exact some h.begins
  · rename_i id rest stage
    simp only [Follows, stage] at h
    refine ⟨rest.map Utf8.encode ++ [stopOctets], ?_⟩
    simp [script, ← h]
  · rename_i result stage
    cases result with
    | error failure => simp only [Faultless, stage] at faultless
    | ok n =>
        simp only [Follows, stage] at h
        exact ⟨[], by rw [script, (h.2 n rfl).2, List.append_nil]⟩

/-- A session says one thing for each command that it counts, at most. -/
theorem length_said_le (faultless : loop.Faultless) : loop.said.length ≤ loop.counted.length := by
  cases stage : loop.stage with
  | awaitStart | announce | awaitReview => simp [said, counted, stage]
  | dismiss result | finished result =>
      cases result with
      | ok n => simp [said, counted, stage]
      | error failure => simp only [Faultless, stage] at faultless

end ReviewLoop

/-- A client that tried something tried `start` and then reviews. -/
theorem Phase.Spoken.of_ne_nil {phase : Phase} {tried : List Command} (h : phase.Spoken tried)
    (some : tried ≠ []) : ∃ reviews, tried = .start :: List.replicate reviews .review := by
  cases phase with
  | notStarted => exact absurd h some
  | started => exact h

/-! ### Lines that are open both ways -/

namespace Desk

variable {σ η : Type} [Surroundings σ] [Surroundings η]

/-- The stream takes what the client writes, and took all of it so far. -/
structure Open (desk : Desk (Line η)) : Prop where
  speaks : desk.surroundings.stream.client.speaks = true
  listens : desk.surroundings.stream.grader.listens = true
  reset : desk.surroundings.stream.grader.reset = false
  taken : desk.sent = desk.attempts

/-- No act of a client at its desk closes the stream. -/
theorem open_kept : Desk.Kept (Open (η := η)) where
  note act quiet _ h := by
    refine ⟨h.speaks, h.listens, h.reset, ?_⟩
    rw [sent, attempts, acts_note, List.filterMap_append, List.filterMap_append,
      List.filterMap_cons_none quiet, List.filterMap_cons_none (Act.sent?_eq_none quiet)]
    exact congrArg (· ++ []) h.taken
  saveAll h := ⟨h.speaks, h.listens, h.reset, h.taken⟩
  record _ h := ⟨h.speaks, h.listens, h.reset, h.taken⟩
  transmit {desk} command h := by
    have written := desk.surroundings.stream.write_eq .client command.encode
    have carries : desk.surroundings.stream.carriesFrom .client = true := by
      simp [Stream.carriesFrom, Side.other, Stream.endAt, h.speaks, h.listens]
    rw [carries, if_pos rfl] at written
    refine ⟨?_, ?_, ?_, ?_⟩
    · simp [transmit, Surroundings.transmit, Connection.transmit, written, Stream.modify,
        Side.other, h.speaks]
    · simp [transmit, Surroundings.transmit, Connection.transmit, written, Stream.modify,
        Side.other, h.listens]
    · simp [transmit, Surroundings.transmit, Connection.transmit, written, Stream.modify,
        Side.other, h.reset]
    · simp only [sent, attempts, transmit, Surroundings.transmit, Connection.transmit, written,
        failure?, acts_note, List.filterMap_append]
      exact congrArg (· ++ [command]) h.taken

end Desk

/-- A trigger sends at most one review, and the first one none. -/
theorem Reply.count_sent_ask_le {σ : Type} [Surroundings σ] (phase : Phase) (s : σ) :
    ((ask phase s).1.acts.filterMap Act.sent?).count .review ≤
      if phase = .started then 1 else 0 := by
  cases phase with
  | notStarted =>
      obtain ⟨write, replied⟩ := ask_notStarted s
      rw [replied]
      cases write <;> exact Nat.le_refl 0
  | started =>
      have later := later_ask s
      generalize (ask .started s).1 = reply at later
      cases later with
      | unsaved failure => exact Nat.zero_le 1
      | reviewed write =>
          cases write with
          | none => exact Nat.le_refl 1
          | some cause => exact Nat.zero_le 1

namespace Client

variable {σ : Type} [Surroundings σ] (client : Client σ)

/-- What the connection delivers makes a client send nothing. -/
theorem sent_handleConnection (event : ConnectionEvent) :
    (client.handleConnection event).2.desk.sent = client.desk.sent := by
  obtain ⟨more, acts, untried⟩ := client.acts_handleConnection event
  have unsent := sent_sublist_tried more
  rw [untried, List.sublist_nil] at unsent
  rw [Desk.sent, acts, List.filterMap_append, unsent, List.append_nil, Desk.sent]

theorem count_sent_trigger_le :
    client.trigger.2.desk.sent.count .review ≤
      client.desk.sent.count .review + if client.phase = .started then 1 else 0 := by
  have replied := Reply.count_sent_ask_le client.phase client.desk.surroundings
  rw [Desk.sent, client.filterMap_acts_trigger fun _ => rfl, List.count_append]
  exact Nat.add_le_add_left replied _

end Client

namespace Conversation

variable {η : Type} {ids : List String} {c : Conversation η}

/-- A trigger would not post a review of a student that was not shown. -/
def InTurn (c : Conversation η) : Prop :=
  c.client.phase = .started → c.client.desk.sent.count .review < c.heard.length

instance : DecidablePred (InTurn (η := η)) := fun c =>
  inferInstanceAs (Decidable (c.client.phase = .started → _))

/-- The message that is on its way to the client. -/
def inFlight (c : Conversation η) : List (List UInt8) :=
  if c.inbox = [] then [] else [c.inbox]

/-- A client has stayed and was never ahead of its grader. -/
structure Paced (ids : List String) (c : Conversation η) : Prop where
  accounted : c.Accounted ids
  present : c.gone = false
  attended : c.Attended
  faultless : c.loop.Faultless
  wide : c.loop.result? = none → c.client.desk.Open
  spoken : c.client.phase.Spoken c.client.desk.attempts
  /-- What was said is what was read and the message on its way. -/
  said_eq : c.reads ++ c.inFlight = c.loop.said
  short : c.inbox.length ≤ Connection.readSize
  posted_le : c.client.desk.sent.count .review ≤ c.heard.length

/-- Nothing is on its way when the grader has said only what it has reviews for. -/
theorem Paced.inbox_eq_nil (h : c.Paced ids)
    (answered : c.loop.said.length ≤ c.loop.reviewed.length) : c.inbox = [] := by
  have posted := h.accounted.credits_le
  have heard := c.heard_begins.length_le
  have said := congrArg List.length h.said_eq
  have paced := h.posted_le
  rw [List.length_append, inFlight] at said
  by_cases unread : c.inbox = []
  · exact unread
  · rw [if_neg unread, List.length_singleton] at said
    omega

/-- What a paced client has heard begins the script of its grader. -/
theorem Paced.heard_eq (h : c.Paced ids) : c.heard = (script ids).take c.heard.length := by
  have said : c.loop.said <+: script ids := h.accounted.follows.said_begins h.faultless
  have begins : c.heard <+: script ids :=
    (c.heard_begins.trans ⟨c.inFlight, h.said_eq⟩).trans said
  exact List.prefix_iff_eq_take.mp begins

/-- The command that the grader waits for is the next one, or is still to come. -/
theorem Paced.not_lacks (h : c.Paced ids) {expected : Command}
    (awaits : c.loop.stage.awaits = some expected) : ¬ Peer.Lacks expected c.stream := by
  have reads := Stage.reads_of_awaits awaits
  have goesOn : c.loop.result? = none := by
    unfold ReviewLoop.result?
    cases stage : c.loop.stage <;> simp_all [Stage.awaits]
  obtain ⟨speaks, listens, reset, taken⟩ := h.wide goesOn
  rintro (⟨octet, queue, there, other⟩ | ⟨-, noticed | closed⟩)
  · obtain ⟨unread, sent, inbox⟩ := h.accounted.carried reads
    cases unread with
    | nil => cases there.symm.trans inbox
    | cons next unread =>
        have same : octet = next.octet := (List.cons.inj (there.symm.trans inbox)).1
        obtain ⟨reviews, spoken⟩ := h.spoken.of_ne_nil (by rw [← taken, sent]; simp)
        rw [← taken, sent] at spoken
        refine other (same.trans (congrArg Command.octet ?_))
        cases stage : c.loop.stage with
        | awaitStart rest =>
            simp only [ReviewLoop.counted, stage, List.nil_append] at spoken
            rw [stage] at awaits
            cases awaits
            exact (List.cons.inj spoken).1
        | awaitReview id others =>
            simp only [ReviewLoop.counted, stage, List.cons_append] at spoken
            rw [stage] at awaits
            cases awaits
            have mem : next ∈ List.replicate reviews Command.review := by
              rw [← (List.cons.inj spoken).2]
              simp
            exact (List.mem_replicate.mp mem).2
        | announce | dismiss | finished =>
            rw [stage] at awaits
            cases awaits
  · exact Bool.false_ne_true (reset.symm.trans noticed)
  · simp [Stream.carriesFrom, Side.other, Stream.endAt, stream, speaks, listens] at closed

/-- The grader goes on without a word. -/
theorem Paced.quiet (h : c.Paced ids) {loop : ReviewLoop} {s : Stream}
    (accounted : ({ c.onStream s with loop } : Conversation η).Accounted ids)
    (attended : ({ c.onStream s with loop } : Conversation η).Attended)
    (faultless : loop.Faultless) (said : loop.said = c.loop.said)
    (goesOn : loop.result? = none → c.loop.result? = none)
    (client : s.client = c.stream.client) (listens : s.grader.listens = c.stream.grader.listens)
    (reset : s.grader.reset = c.stream.grader.reset) :
    ({ c.onStream s with loop } : Conversation η).Paced ids := by
  have unread : s.client.inbox = c.inbox := congrArg StreamEnd.inbox client
  refine ⟨accounted, h.present, attended, faultless, fun later => ?_, h.spoken, ?_, ?_, h.posted_le⟩
  · have before := h.wide (goesOn later)
    exact ⟨(congrArg StreamEnd.speaks client).trans before.speaks, listens.trans before.listens,
      reset.trans before.reset, before.taken⟩
  · have flight : ({ c.onStream s with loop } : Conversation η).inFlight = c.inFlight := by
      unfold inFlight
      rw [show ({ c.onStream s with loop } : Conversation η).inbox = c.inbox from unread]
    rw [flight, said]
    exact h.said_eq
  · exact Nat.le_trans (Nat.le_of_eq (congrArg List.length unread)) h.short

/-- The grader says the next thing, when what it said before was answered. -/
theorem Paced.says (h : c.Paced ids) {loop : ReviewLoop} {message : List UInt8}
    (accounted : ({ c.onStream (c.stream.modify .client fun e =>
      { e with inbox := e.inbox ++ message }) with loop } : Conversation η).Accounted ids)
    (attended : ({ c.onStream (c.stream.modify .client fun e =>
      { e with inbox := e.inbox ++ message }) with loop } : Conversation η).Attended)
    (faultless : loop.Faultless) (answered : c.loop.said.length ≤ c.loop.reviewed.length)
    (said : loop.said = c.loop.said ++ [message]) (goesOn : c.loop.result? = none)
    (nonempty : message ≠ []) (short : message.length ≤ Connection.readSize) :
    ({ c.onStream (c.stream.modify .client fun e =>
      { e with inbox := e.inbox ++ message }) with loop } : Conversation η).Paced ids := by
  have none := h.inbox_eq_nil answered
  have unread : c.stream.client.inbox ++ message = message := by
    rw [show c.stream.client.inbox = [] from none, List.nil_append]
  have before := h.wide goesOn
  refine ⟨accounted, h.present, attended, faultless, fun _ => ?_, h.spoken, ?_, ?_, h.posted_le⟩
  · exact ⟨before.speaks, before.listens, before.reset, before.taken⟩
  · have flight : c.inFlight = [] := if_pos none
    have reads := h.said_eq
    rw [flight, List.append_nil] at reads
    rw [said, ← reads]
    refine congrArg (c.reads ++ ·) ?_
    rw [inFlight, if_neg]
    · exact congrArg (fun octets => [octets]) unread
    · exact fun empty => nonempty (unread.symm.trans empty)
  · exact Nat.le_trans (Nat.le_of_eq (congrArg List.length unread)) short

/-- A paced client has shown the students that it has heard of. -/
theorem Paced.shown_eq (h : c.Paced ids) (legible : Legible ids) (shows : c.Shows) :
    c.client.desk.shown = (ids.take c.heard.length).map studentLine := by
  rw [shows.shown_eq, ← studentLines_take_script legible, ← h.heard_eq]

/-! ### Steps of a paced conversation -/

variable [Surroundings η]

/-- What only the client does leaves it paced, if it does not run ahead. -/
theorem Paced.serve (h : c.Paced ids) {c' : Conversation η} (accounted : c'.Accounted ids)
    (same : c.SameWire c') (present : c'.gone = c.gone)
    (kept : ∀ {P : Desk (Line η) → Prop}, Desk.Kept P → P c.client.desk → P c'.client.desk)
    (spoken : c'.client.phase.Spoken c'.client.desk.attempts)
    (posted : c'.client.desk.sent.count .review ≤ c'.heard.length) : c'.Paced ids := by
  have queue := same.sameQueue
  refine ⟨accounted, present.trans h.present, h.attended.of_sameWire same, ?_, ?_, spoken, ?_, ?_,
    posted⟩
  · rw [same.loop_eq]
    exact h.faultless
  · rw [same.loop_eq]
    exact fun goesOn => kept Desk.open_kept (h.wide goesOn)
  · rw [same.loop_eq, ← h.said_eq, queue.reads_eq, inFlight, queue.inbox_eq, inFlight]
  · rw [queue.inbox_eq]
    exact h.short

theorem Paced.trigger (h : c.Paced ids) (inTurn : c.InTurn) : (c.step .trigger).Paced ids := by
  have accounted := h.accounted.step .trigger
  have same := c.sameWire_trigger
  have count := c.client.count_sent_trigger_le
  rw [step, if_neg (by simp [h.present])] at accounted same ⊢
  refine h.serve accounted same rfl (fun kept => Client.trigger_kept kept) ?_ ?_
  · simpa [Client.trigger] using h.spoken.trigger
  · refine Nat.le_trans count ?_
    split
    · rename_i started
      exact inTurn started
    · exact h.posted_le

theorem Paced.handle (h : c.Paced ids) : (c.step .handle).Paced ids := by
  have accounted := h.accounted.step .handle
  have same := c.sameWire_handle
  have longer := (c.heard_step .handle).length_le
  rw [step, if_neg (by simp [h.present])] at accounted same longer ⊢
  cases there : c.delivered[c.handled]? with
  | none => exact h
  | some event =>
      simp only [there] at accounted same longer
      obtain ⟨attempts, phase⟩ := c.client.handleConnection_quiet event
      refine h.serve accounted same rfl (fun kept => Client.handle_kept kept _) ?_ ?_
      · simp only [Client.handle, attempts, phase]
        exact h.spoken
      · simp only [Client.handle, c.client.sent_handleConnection event]
        exact Nat.le_trans h.posted_le longer

/-- What a reader that goes on delivers and leaves. -/
theorem step_read (going : c.deaf = false) :
    (c.step .read).reads = c.reads ++ (Connection.readOnce c.stream).1.payload?.toList ∧
      (c.step .read).inbox = (Connection.readOnce c.stream).2.client.inbox := by
  rw [step, if_neg (by simp [going])]
  exact ⟨c.reads_append _, rfl⟩

/-- A read takes a message that is not too long as a whole. -/
theorem inFlight_read (short : c.inbox.length ≤ Connection.readSize) :
    (c.step .read).reads ++ (c.step .read).inFlight = c.reads ++ c.inFlight ∧
      (c.step .read).inbox.length ≤ Connection.readSize := by
  cases deaf : c.deaf with
  | true =>
      rw [step, if_pos deaf]
      exact ⟨rfl, short⟩
  | false =>
      obtain ⟨more, rest⟩ := step_read deaf
      obtain ⟨-, -, -, ⟨nonempty, payload, -, left⟩ | ⟨empty, payload, left, -⟩⟩ :=
        Connection.readOnce_cases c.stream
      · have all : c.stream.client.inbox.take Connection.readSize = c.inbox :=
          List.take_of_length_le short
        have none : (c.step .read).inbox = [] :=
          rest.trans (left.trans (List.drop_of_length_le short))
        have flight : c.inFlight = [c.inbox] := if_neg nonempty
        rw [more, payload, all, flight, inFlight, if_pos none, none, List.append_nil]
        exact ⟨rfl, Nat.zero_le _⟩
      · have none : (c.step .read).inbox = [] := rest.trans left
        have flight : c.inFlight = [] := if_pos empty
        rw [more, payload, flight, inFlight, if_pos none, none, List.append_nil]
        exact ⟨rfl, Nat.zero_le _⟩

/-- A read hands over the one message that is on its way, whole. -/
theorem Paced.read (h : c.Paced ids) : (c.step .read).Paced ids := by
  have accounted := h.accounted.step .read
  have attended := h.attended.step (show Move.read ≠ .leave by decide)
  have longer := (c.heard_step .read).length_le
  obtain ⟨said, short⟩ := inFlight_read h.short
  rw [h.said_eq] at said
  rw [step] at accounted attended longer said short ⊢
  split
  · exact h
  · rename_i going
    rw [if_neg going] at accounted attended longer said short
    refine ⟨accounted, h.present, attended, h.faultless, fun goesOn => ?_, h.spoken, said, short,
      Nat.le_trans h.posted_le longer⟩
    have open_before := h.wide goesOn
    have speaks := c.stream.speaks_read .client Connection.readSize
    have grader := (Connection.readOnce_cases c.stream).1
    exact ⟨speaks.trans open_before.speaks,
      (congrArg StreamEnd.listens grader).trans open_before.listens,
      (congrArg StreamEnd.reset grader).trans open_before.reset, open_before.taken⟩

/-- The grader says something new only when nothing is on its way. -/
theorem Paced.grade (h : c.Paced ids) (legible : Legible ids) : (c.step .grade).Paced ids := by
  have follows := h.accounted.follows
  have accounted := h.accounted.grade
  have attended := h.attended.step (show Move.grade ≠ .leave by decide)
  have advances := c.loop.step_advances c.stream
  rw [step] at accounted attended ⊢
  generalize c.loop.step c.stream = next at accounted attended advances ⊢
  cases advances with
  | starts stage =>
      simp only [ReviewLoop.Follows, stage] at follows
      have goesOn : c.loop.result? = none := by rw [ReviewLoop.result?, stage]
      refine h.quiet accounted attended trivial ?_ (fun _ => goesOn) rfl rfl rfl
      simp [ReviewLoop.said, stage, follows.1]
  | reviews stage =>
      have goesOn : c.loop.result? = none := by rw [ReviewLoop.result?, stage]
      refine h.quiet accounted attended trivial ?_ (fun _ => goesOn) rfl rfl rfl
      simp [ReviewLoop.said, stage]
  | completes stage =>
      have goesOn : c.loop.result? = none := by rw [ReviewLoop.result?, stage]
      refine h.quiet accounted attended trivial ?_ (fun _ => goesOn) rfl rfl rfl
      simp [ReviewLoop.said, stage]
  | @announces id others stage =>
      simp only [ReviewLoop.Follows, stage] at follows
      obtain ⟨nonempty, -, short⟩ := legible id (by simp [← follows])
      have goesOn : c.loop.result? = none := by rw [ReviewLoop.result?, stage]
      refine h.says accounted attended trivial ?_ ?_ goesOn (Utf8.encode_ne_nil nonempty) short
      · simp [ReviewLoop.said, stage]
      · simp [ReviewLoop.said, stage]
  | @dismisses result stage =>
      have goesOn : c.loop.result? = none := by rw [ReviewLoop.result?, stage]
      have sends := Peer.sendText_of_carries (h.attended.carries goesOn) Message.stopText
      have faultless : ({ c.loop with stage := .finished result } : ReviewLoop).Faultless := by
        have before := h.faultless
        cases result with
        | ok n => trivial
        | error failure => simp only [ReviewLoop.Faultless, stage] at before
      rw [Peer.sendStop, sends] at accounted attended ⊢
      refine h.says accounted attended faultless ?_ ?_ goesOn stopOctets_ne_nil (by decide)
      · simp [ReviewLoop.said, stage]
      · simp only [ReviewLoop.said, stage]
        rfl
  | @refuses id others failure stage broken =>
      simp only [ReviewLoop.Follows, stage] at follows
      have goesOn : c.loop.result? = none := by rw [ReviewLoop.result?, stage]
      rcases broken with reserved | closed
      · have accepted := (legible id (by simp [← follows])).2.1
        exact absurd (accepted.symm.trans reserved) Bool.false_ne_true
      · have carries := h.attended.carries goesOn
        exact absurd (closed.symm.trans carries) Bool.false_ne_true
  | despairs failure stage lacks => exact absurd lacks (h.not_lacks stage)
  | waits | rests => exact h

theorem Paced.graderLeaves (h : c.Paced ids) : (c.step .graderLeaves).Paced ids := by
  have accounted := h.accounted.step .graderLeaves
  have attended := h.attended.step (show Move.graderLeaves ≠ .leave by decide)
  rw [step] at accounted attended ⊢
  split
  · rename_i finished
    rw [if_pos finished] at accounted attended
    refine ⟨accounted, h.present, attended, h.faultless, fun goesOn => ?_, h.spoken, h.said_eq,
      h.short, h.posted_le⟩
    have unfinished : (none : Option (Except Failure Nat)).isSome = true := goesOn ▸ finished
    exact absurd unfinished Bool.false_ne_true
  · exact h

theorem Paced.step (h : c.Paced ids) (legible : Legible ids) {move : Move} (stays : move ≠ .leave)
    (inTurn : move = .trigger → c.InTurn) : (c.step move).Paced ids := by
  cases move with
  | trigger => exact h.trigger (inTurn rfl)
  | read => exact h.read
  | handle => exact h.handle
  | leave => exact absurd rfl stays
  | grade => exact h.grade legible
  | graderLeaves => exact h.graderLeaves

/-- Only a client that leaves is gone. -/
theorem gone_step (c : Conversation η) (move : Move) :
    (c.step move).gone = (c.gone || decide (move = .leave)) := by
  have proceeds := c.step_proceeds move
  generalize c.step move = next at proceeds
  cases proceeds with
  | @blocked move blocked => cases move <;> simp_all [Blocked]
  | leaves => exact (Bool.or_true _).symm
  | triggers | reads | handles | grades | graderLeaves => exact (Bool.or_false _).symm

/-- A client that has not left after a step had not left before it. -/
theorem present_of_step {move : Move} (present : (c.step move).gone = false) :
    c.gone = false ∧ move ≠ .leave := by
  rw [gone_step, Bool.or_eq_false_iff, decide_eq_false_iff_not] at present
  exact present

/-- Triggers come in turn in a whole schedule. -/
def Patient (around : η) (endpoint : Path) (ids : List String) (moves : List Move) : Prop :=
  Move.trigger.Guarded (fun before => ((start around endpoint ids).run before).InTurn) moves

instance (around : η) (endpoint : Path) (ids : List String) (moves : List Move) :
    Decidable (Patient around endpoint ids moves) :=
  inferInstanceAs (Decidable (Move.trigger.Guarded _ moves))

theorem paced_start (around : η) (endpoint : Path) (ids : List String) :
    (start around endpoint ids).Paced ids where
  accounted := accounted_start around endpoint ids
  present := rfl
  attended := run_attended around endpoint ids List.not_mem_nil
  faultless := trivial
  wide _ := ⟨rfl, rfl, rfl, rfl⟩
  spoken := rfl
  said_eq := rfl
  short := Nat.zero_le _
  posted_le := Nat.le_refl 0

/-- As long as the client stays and triggers come in turn, the conversation is paced. -/
theorem run_paced (around : η) (endpoint : Path) (legible : Legible ids) {moves : List Move}
    (patient : Patient around endpoint ids moves)
    (present : ((start around endpoint ids).run moves).gone = false) :
    ((start around endpoint ids).run moves).Paced ids := by
  induction moves using List.reverseRecOn with
  | nil => exact paced_start around endpoint ids
  | append_singleton moves move ih =>
      rw [run_concat] at present ⊢
      obtain ⟨before, stays⟩ := present_of_step present
      exact (ih patient.front before).step legible stays patient.passes

end Conversation

end ReviewChannel
