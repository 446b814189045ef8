import ReviewChannel.Proofs.Pieces
import ReviewChannel.Proofs.StopDelivery

/-!
Stop directives that nobody sent.

The grader refuses an identifier that could be taken for a directive, but the client sees reads and
not identifiers. `Trickle.Heard` says which of the pieces that were queued the reads of the client
come from, and `Trickle.forged_stop_iff` in which cases a client can end its host before the grader
asks for it, however the system cuts the identifiers.
-/

namespace ReviewChannel

open Message (stopOctets)

/-- The octets of some pieces in a row are those of the stop directive, behind octets that fill
whole reads. -/
def SpellsStop (pieces : List (List UInt8)) : Prop :=
  ∃ row front, row <:+: pieces ∧ row.flatten = front ++ stopOctets ∧
    Connection.readSize ∣ front.length

/-- Without a cut the pieces are the identifiers. -/
theorem spellsStop_whole_iff (ids : List String) :
    SpellsStop (Cutting.whole.piecesOf 0 ids) ↔
      ∃ row front, row <:+: ids ∧ row.flatMap Utf8.encode = front ++ stopOctets ∧
        Connection.readSize ∣ front.length := by
  rw [Cutting.piecesOf_whole]
  constructor
  · rintro ⟨row, front, within, octets, whole⟩
    obtain ⟨names, inside, rfl⟩ := List.infix_map_iff.mp within
    exact ⟨names, front, inside, octets, whole⟩
  · rintro ⟨names, front, inside, octets, whole⟩
    exact ⟨names.map Utf8.encode, front, inside.map _, octets, whole⟩

namespace Trickle

variable {η : Type} {cut : Cutting} {pieces : List (List UInt8)} {t : Trickle η}

/-! ### What the reads come from -/

/-- Of the pieces in question, some were queued. The client has read the `old` ones to the last
octet, and whole reads of the `recent` ones. -/
structure Heard (cut : Cutting) (pieces : List (List UInt8)) (t : Trickle η)
    (old recent : List (List UInt8)) (front : List UInt8) : Prop where
  begins : (old ++ recent) ++ t.ahead cut <+: pieces
  unread : recent.flatten = front ++ t.talk.inbox
  whole : Connection.readSize ∣ front.length
  spells : stopOctets ∈ t.talk.reads → SpellsStop pieces

variable {old recent : List (List UInt8)} {front : List UInt8}

/-- A stop directive that is left of the recent pieces was spelt by them. -/
theorem Heard.spellsStop (h : t.Heard cut pieces old recent front)
    (stop : t.talk.inbox = stopOctets) : SpellsStop pieces := by
  have queued := (List.prefix_append _ _).trans h.begins
  have row : recent <:+: pieces := (List.suffix_append old recent).isInfix.trans queued.isInfix
  exact ⟨recent, front, row, stop ▸ h.unread, h.whole⟩

theorem Heard.of_sameQueue {c : Conversation η} (h : t.Heard cut pieces old recent front)
    (same : t.talk.SameQueue c) : Heard cut pieces { t with talk := c } old recent front where
  begins := by
    rw [ahead, same.loop_eq]
    exact h.begins
  unread := same.inbox_eq ▸ h.unread
  whole := h.whole
  spells := same.reads_eq ▸ h.spells

/-- A read that takes all that is there ends with a piece; any other one is a whole read. -/
theorem Heard.take {c : Conversation η} (h : t.Heard cut pieces old recent front)
    (loop : c.loop = t.talk.loop)
    (reads : c.reads = t.talk.reads ++ [t.talk.inbox.take Connection.readSize])
    (inbox : c.inbox = t.talk.inbox.drop Connection.readSize) :
    ∃ old recent front, Heard cut pieces { t with talk := c } old recent front := by
  have met : stopOctets ∈ c.reads →
      SpellsStop pieces ∨ stopOctets = t.talk.inbox.take Connection.readSize := by
    rw [reads, List.mem_append, List.mem_singleton]
    exact Or.imp_left h.spells
  have same : ahead cut { t with talk := c } = t.ahead cut := by
    rw [ahead, ahead, loop]
  rcases Nat.lt_or_ge t.talk.inbox.length Connection.readSize with short | long
  · refine ⟨old ++ recent, [], [], ?_, ?_, Nat.dvd_zero _, fun mem => ?_⟩
    · rw [List.append_nil, same]
      exact h.begins
    · rw [inbox, List.drop_of_length_le (Nat.le_of_lt short)]
      rfl
    · rcases met mem with spelt | now
      · exact spelt
      · rw [List.take_of_length_le (Nat.le_of_lt short)] at now
        exact h.spellsStop now.symm
  · refine ⟨old, recent, front ++ t.talk.inbox.take Connection.readSize, same ▸ h.begins, ?_, ?_,
      fun mem => ?_⟩
    · rw [inbox, List.append_assoc, List.take_append_drop]
      exact h.unread
    · rw [List.length_append, List.length_take, Nat.min_eq_left long]
      exact Nat.dvd_add h.whole (Nat.dvd_refl _)
    · rcases met mem with spelt | now
      · exact spelt
      · have length := congrArg List.length now
        rw [Connection.length_stopOctets, List.length_take, Nat.min_eq_left long] at length
        cases length

variable [Surroundings η]

theorem Heard.read (h : t.Heard cut pieces old recent front) :
    ∃ old recent front, (t.step cut .read).Heard cut pieces old recent front := by
  rw [step_of_ne_grade (by decide), Conversation.step]
  split
  · exact ⟨old, recent, front, h⟩
  · have more := t.talk.reads_append (Connection.readOnce t.talk.stream).1
    obtain ⟨-, -, -, ⟨-, payload, -, left⟩ | ⟨empty, payload, left, -⟩⟩ :=
      Connection.readOnce_cases t.talk.stream
    · rw [payload] at more
      exact h.take rfl more left
    · rw [payload] at more
      exact ⟨old, recent, front, h.of_sameQueue
        ⟨left.trans empty.symm, more.trans (List.append_nil _), rfl⟩⟩

/-- The grader reads nothing that was sent to the client. -/
theorem reads_grade (cut : Cutting) (t : Trickle η) : (t.grade cut).talk.reads = t.talk.reads := by
  have pushed (t : Trickle η) : t.push.talk.reads = t.talk.reads := by
    unfold push
    split
    · rfl
    · split <;> rfl
  unfold grade
  split
  · exact pushed t
  · split
    · rfl
    · exact pushed _
  · rfl

/-- A step of the grader before the last one queues a piece or nothing. -/
theorem Heard.grade (h : t.Heard cut pieces old recent front) :
    (∃ old recent front, (t.grade cut).Heard cut pieces old recent front) ∨ (t.grade cut).Done := by
  have spells : stopOctets ∈ (t.grade cut).talk.reads → SpellsStop pieces :=
    t.reads_grade cut ▸ h.spells
  have begins := h.begins
  rcases t.grade_cases with ⟨piece, ahead, inbox⟩ | ⟨ahead, inbox⟩ | done
  · rw [ahead] at begins
    refine Or.inl ⟨old, recent ++ [piece], front, ?_, ?_, h.whole, spells⟩
    · rw [← List.append_assoc, List.append_assoc (old ++ recent)]
      exact begins
    · rw [List.flatten_append, h.unread, inbox, List.append_assoc]
      simp
  · refine Or.inl ⟨old, recent, front, ?_, inbox ▸ h.unread, h.whole, spells⟩
    rcases ahead with same | none
    · exact same ▸ begins
    · rw [none, List.append_nil]
      exact (List.prefix_append _ _).trans begins
  · exact Or.inr done

/-- A session that is done stays so. -/
theorem Done.step (h : t.Done) (move : Move) : (t.step cut move).Done := by
  have settled := Conversation.settled_step h.1 move
  have kept : Done { t with talk := t.talk.step move } := ⟨settled.1 ▸ h.1, h.2⟩
  cases move with
  | grade =>
      have other (id : String) (others : List String)
          (stage : t.talk.loop.stage = .announce (id :: others)) :
          Message.isReserved id = true := by
        have finished := h.1
        rw [ReviewLoop.result?, stage] at finished
        cases finished
      rw [Trickle.step, grade_of_idle h.2 other]
      exact ⟨kept.1, rfl⟩
  | _ => exact kept

/-- Until the grader sends the stop directive, the client only reads pieces of identifiers. -/
theorem Heard.step (h : t.Heard cut pieces old recent front) (move : Move) :
    (∃ old recent front, (t.step cut move).Heard cut pieces old recent front) ∨
      (t.step cut move).Done := by
  have other (notRead : move ≠ .read) (notGrade : move ≠ .grade) :
      (∃ old recent front, (t.step cut move).Heard cut pieces old recent front) ∨
        (t.step cut move).Done := by
    rw [step_of_ne_grade notGrade]
    exact Or.inl ⟨old, recent, front, h.of_sameQueue (t.talk.sameQueue_step notRead notGrade)⟩
  cases move with
  | read => exact Or.inl h.read
  | grade => exact h.grade
  | trigger => exact other (by decide) (by decide)
  | handle => exact other (by decide) (by decide)
  | leave => exact other (by decide) (by decide)
  | graderLeaves => exact other (by decide) (by decide)

/-- After any run the reads come from pieces that were queued, or the session is over. -/
theorem run_heard (cut : Cutting) (around : η) (endpoint : Path) (ids : List String)
    (moves : List Move) :
    (∃ old recent front, ((start around endpoint ids).run cut moves).Heard cut
        (cut.piecesOf 0 (acceptedOf ids)) old recent front) ∨
      ((start around endpoint ids).run cut moves).Done := by
  let P (t : Trickle η) : Prop :=
    (∃ old recent front, t.Heard cut (cut.piecesOf 0 (acceptedOf ids)) old recent front) ∨ t.Done
  refine List.foldlRecOn (motive := P) moves (step cut) (Or.inl ?_) fun t followed move _ => ?_
  · refine ⟨[], [], [], List.prefix_rfl, rfl, Nat.dvd_zero _, fun mem => ?_⟩
    exact absurd mem List.not_mem_nil
  · rcases followed with ⟨old, recent, front, heard⟩ | done
    · exact heard.step move
    · exact Or.inr (done.step move)

/-- However the identifiers are cut, the client answers the stop directives that it has handled. -/
theorem run_answered (cut : Cutting) (around : η) (endpoint : Path) (ids : List String)
    (moves : List Move) : ((start around endpoint ids).run cut moves).talk.Answered := by
  have pushed (t : Trickle η) (answered : t.talk.Answered) : t.push.talk.Answered := by
    unfold push
    split
    · exact answered
    · split <;> exact ⟨answered.handled_le, answered.answers.congr rfl rfl rfl⟩
  have fresh : (start around endpoint ids).talk.Answered :=
    Conversation.run_answered around endpoint ids []
  refine List.foldlRecOn (motive := fun t : Trickle η => t.talk.Answered) moves (step cut) fresh
    fun t answered move _ => ?_
  by_cases grades : move = .grade
  · rw [grades, step, grade]
    split
    · exact pushed t answered
    · split
      · exact answered.step .grade
      · exact pushed _ ⟨answered.handled_le, answered.answers.congr rfl rfl rfl⟩
    · exact answered.step .grade
  · rw [step_of_ne_grade grades]
    exact answered.step move

end Trickle

/-! ### A schedule that forges a stop directive -/

/-- The reviews that a session has still to wait for, once it has started. -/
def Stage.reviewsAhead : Stage → Nat
  | .announce ids => ids.length
  | .awaitReview _ others => others.length + 1
  | .awaitStart _ | .dismiss _ | .finished _ => 0

namespace Conversation

variable {η : Type} [Surroundings η] {c : Conversation η} {ids : List String}

/-- The client handles what is on its channel, and nothing else happens. -/
theorem run_handle (present : c.gone = false) {waiting : Nat}
    (left : c.handled + waiting = c.delivered.length) :
    c.SameQueue (c.run (List.replicate waiting .handle)) ∧
      (c.run (List.replicate waiting .handle)).heard =
        (c.run (List.replicate waiting .handle)).reads := by
  induction waiting generalizing c with
  | zero =>
      refine ⟨(SameWire.refl c).sameQueue, ?_⟩
      have all : c.delivered.take c.handled = c.delivered :=
        List.take_of_length_le (Nat.le_of_eq left.symm)
      exact congrArg (List.filterMap _) all
  | succ waiting ih =>
      have inside : c.handled < c.delivered.length := by omega
      have handled : c.step .handle =
          { c with
            client := (c.client.handle (.connection c.delivered[c.handled])).2
            handled := c.handled + 1 } := by
        rw [step, if_neg (by simp [present]), List.getElem?_eq_getElem inside]
      have next : (c.step .handle).gone = false ∧
          (c.step .handle).handled + waiting = (c.step .handle).delivered.length := by
        rw [handled]
        exact ⟨present, by rw [← left]; exact Nat.succ_add c.handled waiting⟩
      obtain ⟨same, heard⟩ := ih next.1 next.2
      have first := c.sameWire_handle.sameQueue
      exact ⟨⟨same.inbox_eq.trans first.inbox_eq, same.reads_eq.trans first.reads_eq,
        same.loop_eq.trans first.loop_eq⟩, heard⟩

/-! ### Triggers ahead of the reviews -/

/-- The client has written these octets, and nothing else has happened. -/
structure Prompted (c : Conversation Obliging) (ids : List String) (octets : List UInt8) :
    Prop where
  stream_eq : c.stream = { grader := { inbox := octets } }
  loop_eq : c.loop = .new ids
  hears : c.deaf = false
  present : c.gone = false

/-- A trigger writes the command that the table says. -/
theorem Prompted.trigger {c : Conversation Obliging} {octets : List UInt8}
    (h : c.Prompted ids octets) :
    (c.step .trigger).Prompted ids
        (octets ++ (transition c.client.phase .trigger).effect.command.encode) ∧
      (c.step .trigger).client.phase = .started := by
  have asked (phase : Phase) (line : Line Obliging) : (Reply.ask phase line).2.stream =
      (line.stream.write .client (transition phase .trigger).effect.command.encode).2 := by
    cases phase <;> rfl
  have triggered : c.step .trigger = { c with client := c.client.trigger.2 } := by
    rw [step, if_neg (by simp [h.present])]
  have started : c.client.trigger.2.phase = .started := by
    rw [Client.trigger, Phase.trigger_eq]
    cases c.client.phase <;> rfl
  have written : c.client.trigger.2.desk.surroundings.stream =
      (c.stream.write .client (transition c.client.phase .trigger).effect.command.encode).2 := by
    rw [Client.trigger, Phase.trigger_eq]
    exact asked c.client.phase c.client.desk.surroundings
  rw [h.stream_eq, Stream.write_eq] at written
  rw [triggered]
  exact ⟨⟨written, h.loop_eq, h.hears, h.present⟩, started⟩

/-- The reviewer can ask for any number of reviews before anything is read. -/
theorem run_replicate_trigger (ids : List String) (reviews : Nat) :
    ((start Obliging.mk ⟨[]⟩ ids).run (List.replicate (reviews + 1) .trigger)).Prompted ids
        (Command.start.octet :: List.replicate reviews Command.review.octet) ∧
      ((start Obliging.mk ⟨[]⟩ ids).run (List.replicate (reviews + 1) .trigger)).client.phase =
        .started := by
  induction reviews with
  | zero =>
      have fresh : (start Obliging.mk ⟨[]⟩ ids).Prompted ids [] := ⟨rfl, rfl, rfl, rfl⟩
      exact fresh.trigger
  | succ reviews ih =>
      have more := ih.1.trigger
      rw [ih.2] at more
      have triggers : List.replicate (reviews + 1 + 1) Move.trigger =
          List.replicate (reviews + 1) Move.trigger ++ [.trigger] := List.replicate_succ'
      rw [triggers, run_append, List.replicate_succ' (a := Command.review.octet)]
      exact more

end Conversation

namespace Trickle

variable {η : Type} {cut : Cutting} {t : Trickle η} {piece : List UInt8}
  {later : List (List UInt8)} {inbox : List UInt8} {id : String} {ids others : List String}

/-- The grader is sending identifiers, of which these pieces are to come. All reviews are there for
it to read, these octets are there for the client to read, and nobody has left. -/
structure Ready (cut : Cutting) (later : List (List UInt8)) (inbox : List UInt8) (t : Trickle η) :
    Prop where
  carries : t.talk.stream.carriesFrom .grader = true
  reviews_eq : t.talk.stream.grader.inbox =
    List.replicate t.talk.loop.stage.reviewsAhead Command.review.octet
  hears : t.talk.deaf = false
  present : t.talk.gone = false
  sends : (∃ ids, t.talk.loop.stage = .announce ids ∧ t.unsent = []) ∨
    ∃ id others, t.talk.loop.stage = .awaitReview id others
  ahead_eq : t.ahead cut = later
  inbox_eq : t.talk.inbox = inbox

theorem Ready.goesOn (h : t.Ready cut later inbox) : t.talk.loop.result? = none := by
  rcases h.sends with ⟨ids, stage, -⟩ | ⟨id, others, stage⟩ <;> rw [ReviewLoop.result?, stage]

theorem Ready.push (h : t.Ready cut (piece :: later) inbox) (sending : t.unsent ≠ []) :
    t.push.Ready cut later (inbox ++ piece) := by
  obtain ⟨first, rest, unsent⟩ := List.exists_cons_of_ne_nil sending
  have sends : ∃ id others, t.talk.loop.stage = .awaitReview id others := by
    rcases h.sends with ⟨-, -, idle⟩ | sends
    · exact absurd idle sending
    · exact sends
  have pieces := h.ahead_eq
  rw [ahead, unsent, List.cons_append, List.cons.injEq] at pieces
  rcases push_cases unsent with pushed | ⟨broken, -⟩
  · rw [pushed, ← h.inbox_eq, ← pieces.1]
    exact ⟨h.carries, h.reviews_eq, h.hears, h.present, Or.inr sends, pieces.2, rfl⟩
  · rw [h.carries] at broken
    cases broken

/-- The grader can begin to send an identifier that it accepts. -/
theorem Ready.announced (h : t.Ready cut later inbox) (idle : t.unsent = [])
    (stage : t.talk.loop.stage = .announce (id :: others))
    (accepted : Message.isReserved id = false) :
    (t.announced cut id others).Ready cut later inbox where
  carries := h.carries
  reviews_eq := h.reviews_eq.trans (by rw [stage]; rfl)
  hears := h.hears
  present := h.present
  sends := Or.inr ⟨id, others, rfl⟩
  ahead_eq := (ahead_announced idle stage accepted).trans h.ahead_eq
  inbox_eq := h.inbox_eq

variable [Surroundings η] {P Q : Trickle η → Prop}

/-- Some order of the steps leads there. -/
def Leads (cut : Cutting) (t : Trickle η) (P : Trickle η → Prop) : Prop :=
  ∃ moves, P (t.run cut moves)

theorem Leads.of_step (move : Move) (h : (t.step cut move).Leads cut P) : t.Leads cut P :=
  h.imp' (move :: ·) fun _ there => there

theorem Leads.bind (h : t.Leads cut P) (further : ∀ t, P t → Leads cut t Q) : t.Leads cut Q := by
  obtain ⟨before, there⟩ := h
  obtain ⟨after, done⟩ := further _ there
  refine ⟨before ++ after, ?_⟩
  rw [run_append]
  exact done

/-! ### The grader goes on -/

/-- The grader takes a review and stands in front of the next student. -/
theorem Ready.review (h : t.Ready cut later inbox) (idle : t.unsent = [])
    (stage : t.talk.loop.stage = .awaitReview id others) :
    (t.step cut .grade).Ready cut later inbox ∧ (t.step cut .grade).unsent = [] ∧
      (t.step cut .grade).talk.loop.stage = .announce others := by
  have queue : t.talk.stream.grader.inbox =
      Command.review.octet :: List.replicate others.length Command.review.octet := by
    rw [h.reviews_eq, stage]
    rfl
  have pieces := h.ahead_eq
  rw [ahead, idle, List.nil_append, ReviewLoop.ahead, stage] at pieces
  rw [step, grade_of_idle idle (by simp [stage]), Conversation.step,
    ReviewLoop.step_awaitReview stage, Peer.expectCommand_of_inbox queue]
  refine ⟨⟨h.carries, rfl, h.hears, h.present, Or.inl ⟨others, rfl, rfl⟩, ?_, h.inbox_eq⟩, rfl, rfl⟩
  simpa [ahead, ReviewLoop.ahead] using pieces

/-- The next piece can be queued when the grader is about to send the first of some identifiers. -/
theorem Ready.queue_announced (h : t.Ready cut (piece :: later) inbox) (idle : t.unsent = [])
    (stage : t.talk.loop.stage = .announce ids) :
    t.Leads cut (Ready cut later (inbox ++ piece)) := by
  have pieces := h.ahead_eq
  rw [ahead, idle, List.nil_append, ReviewLoop.ahead, stage] at pieces
  induction ids generalizing t with
  | nil => cases pieces
  | cons id others ih =>
      cases reserved : Message.isReserved id with
      | true =>
          simp only [acceptedOf_of_reserved reserved] at pieces
          cases pieces
      | false =>
          have begun := h.announced idle stage reserved
          refine .of_step .grade ?_
          rw [step, grade_of_accepted idle stage reserved]
          by_cases empty : (t.announced cut id others).unsent = []
          · -- Nothing is sent of an empty identifier: its review is taken, and the next one comes.
            obtain ⟨ready, idle, stage⟩ := begun.review empty rfl
            rw [push_of_nil empty]
            refine .of_step .grade (ih ready idle stage ?_)
            have same := ready.ahead_eq
            rwa [ahead, idle, List.nil_append, ReviewLoop.ahead, stage] at same
          · exact ⟨[], begun.push empty⟩

/-- The next piece gets into the queue, after the reviews that have to be taken first. -/
theorem Ready.queue (h : t.Ready cut (piece :: later) inbox) :
    t.Leads cut (Ready cut later (inbox ++ piece)) := by
  by_cases idle : t.unsent = []
  · rcases h.sends with ⟨ids, stage, -⟩ | ⟨id, others, stage⟩
    · exact h.queue_announced idle stage
    · obtain ⟨ready, idle, stage⟩ := h.review idle stage
      exact .of_step .grade (ready.queue_announced idle stage)
  · obtain ⟨first, rest, sending⟩ := List.exists_cons_of_ne_nil idle
    refine ⟨[.grade], ?_⟩
    have pushed : t.run cut [.grade] = t.push := grade_of_sending sending
    rw [pushed]
    exact h.push idle

theorem Ready.queueAll {row : List (List UInt8)} (h : t.Ready cut (row ++ later) inbox) :
    t.Leads cut (Ready cut later (inbox ++ row.flatten)) := by
  induction row generalizing t inbox with
  | nil => exact ⟨[], (List.append_nil inbox).symm ▸ h⟩
  | cons piece row ih =>
      refine h.queue.bind fun t next => ?_
      rw [List.flatten_cons, ← List.append_assoc]
      exact ih next

/-! ### The client reads and handles -/

/-- The reader takes the front of a queue and leaves the grader where it stands. -/
theorem Ready.read (h : t.Ready cut later inbox) (nonempty : inbox ≠ []) :
    (t.step cut .read).Ready cut later (inbox.drop Connection.readSize) ∧
      (t.step cut .read).talk.reads = t.talk.reads ++ [inbox.take Connection.readSize] := by
  have more := t.talk.reads_append (Connection.readOnce t.talk.stream).1
  obtain ⟨grader, listens, -, ⟨-, payload, goesOn, left⟩ | ⟨empty, -⟩⟩ :=
    Connection.readOnce_cases t.talk.stream
  · rw [payload] at more
    have carries : (Connection.readOnce t.talk.stream).2.carriesFrom .grader = true := by
      have carried := h.carries
      simp only [Stream.carriesFrom, Side.other, Stream.endAt] at carried ⊢
      rwa [grader, listens]
    have reviews := (congrArg StreamEnd.inbox grader).trans h.reviews_eq
    rw [step_of_ne_grade (by decide), Conversation.step, if_neg (by simp [h.hears]), ← h.inbox_eq]
    exact ⟨⟨carries, reviews, goesOn, h.present, h.sends, h.ahead_eq, left⟩, more⟩
  · exact absurd (h.inbox_eq.symm.trans empty) nonempty

/-- The reader can take all that is there before the grader goes on. -/
theorem Ready.drain (h : t.Ready cut later inbox) :
    t.Leads cut fun t' =>
      t'.Ready cut later [] ∧ t'.talk.reads = t.talk.reads ++ Connection.chunks inbox := by
  induction inbox using Connection.chunks.induct generalizing t with
  | case1 =>
      refine ⟨[], h, ?_⟩
      rw [Connection.chunks_nil, List.append_nil]
      rfl
  | case2 octet queue ih =>
      obtain ⟨next, reads⟩ := h.read (List.cons_ne_nil octet queue)
      refine .of_step .read ((ih next).bind fun t' drained => ⟨[], drained.1, ?_⟩)
      rw [Connection.chunks_eq_cons (List.cons_ne_nil octet queue)]
      exact drained.2.trans (by rw [reads, List.append_assoc]; rfl)

theorem run_replicate {move : Move} (other : move ≠ .grade) (t : Trickle η) (n : Nat) :
    t.run cut (List.replicate n move) = { t with talk := t.talk.run (List.replicate n move) } := by
  induction n generalizing t with
  | zero => rfl
  | succ n ih =>
      have stepped := ih (t.step cut move)
      rw [step_of_ne_grade other] at stepped
      rw [List.replicate_succ]
      exact (congrArg (run cut · _) (step_of_ne_grade other)).trans stepped

/-- A client that has read a stop directive can handle it while the grader stands where it is. -/
theorem Ready.endHost (h : t.Ready cut later inbox) (answered : t.talk.Answered)
    (read : stopOctets ∈ t.talk.reads) :
    t.Leads cut fun t' => 0 < t'.talk.client.desk.endings ∧ t'.talk.loop.result? = none := by
  have left : t.talk.handled + (t.talk.delivered.length - t.talk.handled) =
      t.talk.delivered.length := Nat.add_sub_cancel' answered.handled_le
  obtain ⟨same, heard⟩ := Conversation.run_handle h.present left
  refine ⟨List.replicate (t.talk.delivered.length - t.talk.handled) .handle, ?_⟩
  rw [run_replicate (by decide)]
  refine ⟨(answered.run _).answers.endings_pos_iff.mpr ?_, same.loop_eq ▸ h.goesOn⟩
  rw [heard, same.reads_eq]
  exact read

/-- Pieces in a row that spell a stop directive make the client end its host, once what was sent
before them has been read. -/
theorem Ready.forge {old row : List (List UInt8)} {front : List UInt8}
    (h : t.Ready cut (old ++ (row ++ later)) []) (octets : row.flatten = front ++ stopOctets)
    (whole : Connection.readSize ∣ front.length) :
    t.Leads cut fun t' => stopOctets ∈ t'.talk.reads ∧ ∃ later inbox, t'.Ready cut later inbox := by
  refine h.queueAll.bind fun _ sent => sent.drain.bind fun _ silent => ?_
  refine silent.1.queueAll.bind fun spelt ready => ready.drain.bind fun last read => ?_
  have reads := read.2
  rw [List.nil_append, octets] at reads
  have met : stopOctets ∈ last.talk.reads := by
    rw [reads]
    exact List.mem_append_right _ (Connection.stopOctets_mem_chunks_iff.mpr whole)
  exact ⟨[], met, later, [], read.1⟩

/-- The reviewer can ask for all reviews before the grader sends anything. -/
theorem leads_ready (cut : Cutting) (ids : List String) :
    (start Obliging.mk ⟨[]⟩ ids).Leads cut (Ready cut (cut.piecesOf 0 (acceptedOf ids)) []) := by
  obtain ⟨prompted, -⟩ := Conversation.run_replicate_trigger ids ids.length
  let asks := List.replicate (ids.length + 1) Move.trigger
  have asked : (start Obliging.mk ⟨[]⟩ ids).run cut asks =
      { talk := (Conversation.start Obliging.mk ⟨[]⟩ ids).run asks } :=
    run_replicate (by decide) _ _
  refine ⟨asks ++ [.grade], ?_⟩
  rw [run_append, asked]
  generalize (Conversation.start Obliging.mk ⟨[]⟩ ids).run asks = c at prompted
  have queue : c.stream.grader.inbox =
      Command.start.octet :: List.replicate ids.length Command.review.octet := by
    rw [prompted.stream_eq]
  have waits : c.loop.stage = .awaitStart ids := by
    rw [prompted.loop_eq]
    rfl
  have started : run cut { talk := c } [.grade] = { talk := c.step .grade } :=
    grade_of_idle rfl (by simp [waits])
  rw [started, Conversation.step, ReviewLoop.step_awaitStart waits,
    Peer.expectCommand_of_inbox queue, prompted.stream_eq, prompted.loop_eq]
  exact ⟨rfl, rfl, prompted.hears, prompted.present, Or.inl ⟨ids, rfl, rfl⟩, rfl, rfl⟩

/-- A list whose pieces spell a stop directive can make a client end its host. -/
theorem exists_forged_run (cut : Cutting) {ids : List String}
    (spells : SpellsStop (cut.piecesOf 0 (acceptedOf ids))) :
    ∃ moves, 0 < ((start Obliging.mk ⟨[]⟩ ids).run cut moves).talk.client.desk.endings ∧
      ((start Obliging.mk ⟨[]⟩ ids).run cut moves).talk.loop.result? = none := by
  obtain ⟨row, front, ⟨old, later, within⟩, octets, whole⟩ := spells
  obtain ⟨moves, read, later, inbox, ready⟩ := (leads_ready cut ids).bind fun t ready => by
    rw [← within, List.append_assoc] at ready
    exact ready.forge octets whole
  obtain ⟨handles, ended⟩ := ready.endHost (run_answered cut Obliging.mk ⟨[]⟩ ids moves) read
  refine ⟨moves ++ handles, ?_⟩
  rw [run_append]
  exact ended

/-- However the system cuts the identifiers, the client can be made to end its host before the
grader asks for it, by some order of the steps, in these cases and in no others: pieces in a row of
the accepted identifiers spell the stop directive, behind octets that fill whole reads. -/
theorem forged_stop_iff (cut : Cutting) (ids : List String) :
    (∃ (η : Type) (_ : Surroundings η) (around : η) (endpoint : Path) (moves : List Move),
        0 < ((start around endpoint ids).run cut moves).talk.client.desk.endings ∧
          ((start around endpoint ids).run cut moves).talk.loop.result? = none) ↔
      SpellsStop (cut.piecesOf 0 (acceptedOf ids)) := by
  constructor
  · rintro ⟨η, _, around, endpoint, moves, ended, goesOn⟩
    have answers := (run_answered cut around endpoint ids moves).answers
    have handled := answers.endings_pos_iff.mp ended
    have read : stopOctets ∈ ((start around endpoint ids).run cut moves).talk.reads :=
      ((List.take_sublist _ _).filterMap _).subset handled
    rcases run_heard cut around endpoint ids moves with ⟨old, recent, front, heard⟩ | done
    · exact heard.spells read
    · have finished := done.1
      rw [goesOn] at finished
      cases finished
  · intro spells
    obtain ⟨moves, ended, goesOn⟩ := exists_forged_run cut spells
    exact ⟨Obliging, inferInstance, .mk, ⟨[]⟩, moves, ended, goesOn⟩

/-- Two accepted identifiers that are read together can be taken for the stop directive, even if
none is cut. -/
theorem stop_forged_by_neighbours :
    ¬ ∀ (ids : List String) (moves : List Move),
      let t := (start Obliging.mk ⟨[]⟩ ids).run .whole moves
      0 < t.talk.client.desk.endings → t.talk.loop.result?.isSome = true := by
  intro claimed
  have asked := claimed ["_", "_stop"]
    [.trigger, .trigger, .grade, .grade, .grade, .grade, .read, .handle, .handle] (by decide)
  exact absurd asked (by decide)

end Trickle

end ReviewChannel
