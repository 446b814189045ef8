import ReviewChannel.Proofs.Pacing

/-!
Whether the reviewer was shown a student before the review that is credited to this student.

The grader credits reviews in the order in which they were sent, whatever it has announced by then:
a trigger sends its review at once. So the review for a student can be sent before the student is
shown (`Conversation.review_ahead_of_student`). If triggers come in turn, every review that is sent
follows the lines of the students up to the one that it is credited to
(`Conversation.review_causality`), if each identifier is short enough to be read at once: one with
more characters than a read has octets is never shown as it was sent
(`Conversation.long_student_unshown`).
-/

namespace ReviewChannel

/-- The next review that is sent is for a student that was shown, like the students before. -/
def MayReview (ids : List String) (acts : List Act) : Prop :=
  (ids.take ((acts.filterMap Act.sent?).count .review + 1)).map studentLine <+:
    acts.filterMap Act.shown?

/-- Each review that was sent was for a student that was shown before. -/
def ShownFirst (ids : List String) (acts : List Act) : Prop :=
  ∀ before after, acts = before ++ .tried .review none :: after → MayReview ids before

/-- A reply sends one command at most. -/
theorem Reply.length_sent_acts_le (reply : Reply) :
    (reply.acts.filterMap Act.sent?).length ≤ 1 := by
  cases reply with
  | unsaved failure => exact Nat.zero_le 1
  | atOnce command write | afterSave command write =>
      cases write with
      | none => exact Nat.le_refl 1
      | some cause => exact Nat.zero_le 1

namespace ShownFirst

variable {ids : List String} {acts : List Act}

/-- What is added was shown first if its reviews may be sent where they are. -/
theorem append (h : ShownFirst ids acts) {more : List Act}
    (later : ∀ before after, more = before ++ .tried .review none :: after →
      MayReview ids (acts ++ before)) : ShownFirst ids (acts ++ more) :=
  BeforeEach.append h later

/-- What is added hands no review over, so nobody had to be shown before. -/
theorem append_unreviewed (h : ShownFirst ids acts) {more : List Act}
    (none : Command.review ∉ more.filterMap Act.tried?) : ShownFirst ids (acts ++ more) := by
  refine h.append fun before after eq => absurd ?_ none
  rw [eq, List.filterMap_append]
  exact List.mem_append_right _ (List.mem_cons_self ..)

/-- A reply may send its review if the review may be sent when the reply begins. -/
theorem append_reply (h : ShownFirst ids acts) {reply : Reply}
    (may : .review ∈ reply.acts.filterMap Act.sent? → MayReview ids acts) :
    ShownFirst ids (acts ++ reply.acts) := by
  refine h.append fun before after eq => ?_
  have sent : reply.acts.filterMap Act.sent? =
      before.filterMap Act.sent? ++ .review :: after.filterMap Act.sent? := by
    rw [eq, List.filterMap_append]
    rfl
  -- The review is the only command of the reply, and a reply shows nothing.
  have one := reply.length_sent_acts_le
  rw [sent, List.length_append, List.length_cons] at one
  have silent : before.filterMap Act.sent? = [] := List.eq_nil_of_length_eq_zero (by omega)
  have unshown := reply.shown_acts
  rw [eq, List.filterMap_append] at unshown
  have begins := may (by rw [sent]; exact List.mem_append_right _ (List.mem_cons_self ..))
  rw [MayReview] at begins ⊢
  rw [List.filterMap_append, List.filterMap_append, silent,
    (List.append_eq_nil_iff.mp unshown).1, List.append_nil, List.append_nil]
  exact begins

variable {σ : Type} [Surroundings σ] {client : Client σ}

/-- A trigger keeps to the order if it does not come before the student is shown. -/
theorem trigger (h : ShownFirst ids client.desk.acts)
    (inTurn : client.phase = .started → MayReview ids client.desk.acts) :
    ShownFirst ids client.trigger.2.desk.acts := by
  have posted := Reply.count_sent_ask_le client.phase client.desk.surroundings
  obtain ⟨event, acts⟩ := client.acts_trigger
  rw [acts]
  refine (h.append_reply fun review => inTurn ?_).append_unreviewed List.not_mem_nil
  by_cases started : client.phase = .started
  · exact started
  · rw [if_neg started] at posted
    exact absurd (List.count_pos_iff.mpr review) (Nat.not_lt.mpr posted)

theorem handleConnection (h : ShownFirst ids client.desk.acts) (event : ConnectionEvent) :
    ShownFirst ids (client.handleConnection event).2.desk.acts := by
  obtain ⟨more, acts, untried⟩ := client.acts_handleConnection event
  rw [acts]
  exact h.append_unreviewed (by simp [untried])

theorem teardown (h : ShownFirst ids client.desk.acts) : ShownFirst ids client.teardown.acts := by
  obtain ⟨more, acts, tried⟩ := client.acts_teardown
  rw [acts]
  exact h.append_unreviewed (by simp [tried])

end ShownFirst

namespace Conversation

variable {η : Type} {ids : List String} {c : Conversation η}

/-- In turn, the next review is for a student that was shown. -/
theorem Paced.mayReview (h : c.Paced ids) (legible : Legible ids) (shows : c.Shows)
    (inTurn : c.InTurn) (started : c.client.phase = .started) :
    MayReview ids c.client.desk.acts := by
  have ahead : (c.client.desk.acts.filterMap Act.sent?).count .review + 1 ≤ c.heard.length :=
    inTurn started
  have shown := h.shown_eq legible shows
  rw [Desk.shown] at shown
  rw [MayReview, shown]
  refine List.IsPrefix.map studentLine ?_
  rw [← Nat.min_eq_left ahead, ← List.take_take]
  exact List.take_prefix _ _

/-- Before the octet behind as many reviews as are credited, so many reviews were sent. -/
theorem Accounted.count_before (h : c.Accounted ids) {i : Nat}
    (credited : i < c.loop.reviewed.length) {before after : List Act}
    (acts : c.client.desk.acts = before ++ after)
    (place : (before.filterMap Act.sent?).length = i + 1) :
    (before.filterMap Act.sent?).count .review = i := by
  have some : c.loop.reviewed ≠ [] := List.ne_nil_of_length_pos (Nat.zero_lt_of_lt credited)
  obtain ⟨more, sent⟩ := h.begins
  rw [h.follows.counted_eq some, Desk.sent, acts, List.filterMap_append] at sent
  have front := congrArg (List.take (i + 1)) sent
  rw [List.take_left' place, List.cons_append, List.take_succ_cons,
    List.take_append_of_le_length (by rw [List.length_replicate]; omega), List.take_replicate,
    Nat.min_eq_left (Nat.le_of_lt credited)] at front
  rw [← front]
  simp

variable [Surroundings η]

/-- A patient reviewer has seen a student before the review for that student goes out. -/
theorem run_shownFirst (around : η) (endpoint : Path) (legible : Legible ids) {moves : List Move}
    (patient : Patient around endpoint ids moves) :
    ShownFirst ids ((start around endpoint ids).run moves).client.desk.acts := by
  induction moves using List.reverseRecOn with
  | nil =>
      intro before after eq
      cases before <;> cases eq
  | append_singleton moves move ih =>
      have first := ih patient.front
      have paced := run_paced around endpoint legible patient.front
      have shows := run_shows around endpoint ids moves
      rw [run_concat]
      generalize reached : (start around endpoint ids).run moves = c at first paced shows
      have proceeds := c.step_proceeds move
      generalize c.step move = next at proceeds
      cases proceeds with
      | triggers present =>
          have inTurn : c.InTurn := reached ▸ patient.passes rfl
          exact first.trigger ((paced present).mayReview legible shows inTurn)
      | handles => exact first.handleConnection _
      | leaves => exact first.teardown
      | blocked | reads | grades | graderLeaves => exact first

/-- In every interleaving, the `i`-th credit is to the `i`-th student and for the `i`-th review that
the client sent. If triggers come in turn and each identifier can be shown as it was sent, the
client had by then shown this student and all the ones before. -/
theorem review_causality (around : η) (endpoint : Path) (ids : List String) (moves : List Move)
    (i : Nat) (credit : Credit)
    (credited : ((start around endpoint ids).credits (moves.map .move))[i]? = some credit) :
    ids[i]? = some credit.id ∧
      ∃ before after, ((start around endpoint ids).run moves).client.desk.acts =
          before ++ .tried .review none :: after ∧
        (before.filterMap Act.sent?).length = credit.octet ∧
        (before.filterMap Act.sent?).count .review = i ∧
        (Legible ids → Patient around endpoint ids moves →
          (ids.take (i + 1)).map studentLine <+: before.filterMap Act.shown?) := by
  have accounted := (accounted_start around endpoint ids).turns (moves.map .move)
  have first (legible : Legible ids) (patient : Patient around endpoint ids moves) :=
    run_shownFirst around endpoint legible patient
  rw [credits_start] at credited
  rw [turns_move] at credited accounted
  generalize (start around endpoint ids).run moves = c at credited accounted first
  have accepted := accounted.accepted (List.mem_of_getElem? credited)
  rw [Credit.getElem?_from, Option.map_eq_some_iff] at credited
  obtain ⟨id, reviewed, rfl⟩ := credited
  have inside := (List.getElem?_eq_some_iff.mp reviewed).1
  have listed : ids[i]? = some id := by
    obtain ⟨others, rfl⟩ := accounted.follows.begins
    rwa [List.getElem?_append_left inside]
  obtain ⟨before, after, acts, place⟩ := exists_split_of_sent accepted
  have reviews := accounted.count_before inside acts (place.trans (Nat.add_comm 1 i))
  refine ⟨listed, before, after, acts, place, reviews, fun legible patient => ?_⟩
  have may := first legible patient before after acts
  rwa [MayReview, reviews] at may

/-- A client that waits for each student has shown the students that its reviews are credited to. -/
theorem review_causality_in_turn :
    ∃ before after,
      ((start Obliging.mk ⟨[]⟩ ["jdoe2", "wang5"]).run
        [.trigger, .grade, .grade, .read, .handle, .handle, .trigger, .grade, .grade, .read,
          .handle, .trigger, .grade]).client.desk.acts = before ++ .tried .review none :: after ∧
        (before.filterMap Act.sent?).length = 2 ∧
        [studentLine "jdoe2", studentLine "wang5"] <+: before.filterMap Act.shown? := by
  obtain ⟨-, before, after, acts, place, -, shown⟩ :=
    review_causality Obliging.mk ⟨[]⟩ ["jdoe2", "wang5"]
      [.trigger, .grade, .grade, .read, .handle, .handle, .trigger, .grade, .grade, .read, .handle,
        .trigger, .grade] 1 ⟨"wang5", 2⟩ (by decide)
  exact ⟨before, after, acts, place, shown (by decide) (by decide)⟩

/-! ### Students that are never shown -/

/-- A read returns as many octets as it may, at most. -/
theorem length_of_mem_reads (around : η) (endpoint : Path) (ids : List String) (moves : List Move) :
    ∀ octets ∈ ((start around endpoint ids).run moves).reads,
      octets.length ≤ Connection.readSize := by
  let P (c : Conversation η) : Prop := ∀ octets ∈ c.reads, octets.length ≤ Connection.readSize
  have fresh : P (start around endpoint ids) := fun octets mem => absurd mem List.not_mem_nil
  refine List.foldlRecOn (motive := P) moves step fresh fun c small move _ => ?_
  show ∀ octets ∈ (c.step move).reads, octets.length ≤ Connection.readSize
  by_cases read : move = .read
  · subst read
    cases deaf : c.deaf with
    | true =>
        rw [step, if_pos deaf]
        exact small
    | false =>
        intro octets mem
        rw [(step_read deaf).1, List.mem_append] at mem
        rcases mem with earlier | now
        · exact small octets earlier
        · obtain ⟨-, -, -, ⟨-, payload, -⟩ | ⟨-, payload, -⟩⟩ := Connection.readOnce_cases c.stream
          · rw [payload, Option.toList_some, List.mem_singleton] at now
            rw [now]
            exact List.length_take_le _ _
          · rw [payload] at now
            exact absurd now List.not_mem_nil
  · have same : (c.step move).reads = c.reads := by
      have proceeds := c.step_proceeds move
      generalize c.step move = next at proceeds
      cases proceeds with
      | reads => exact absurd rfl read
      | blocked | triggers | handles | leaves | grades | graderLeaves => rfl
    rw [same]
    exact small

/-- A student whose identifier has more characters than a read has octets is never shown as it was
sent, whatever the schedule. -/
theorem long_student_unshown (around : η) (endpoint : Path) (ids : List String)
    (moves : List Move) {id : String} (long : Connection.readSize < id.length) :
    studentLine id ∉ ((start around endpoint ids).run moves).client.desk.shown := by
  intro shown
  rw [(run_shows around endpoint ids moves).shown_eq] at shown
  obtain ⟨octets, heard, line⟩ := List.mem_filterMap.mp shown
  have small := length_of_mem_reads around endpoint ids moves octets
    ((heard_begins _).subset heard)
  have text : Utf8.decodeLossy octets = id := by
    unfold Message.classify Message.ofText at line
    split at line
    · split at line <;> cases line
    · exact studentLine_injective (Option.some.inj line)
  have short := Utf8.length_decodeLossy_le octets
  rw [text] at short
  exact absurd long (Nat.not_lt.mpr (Nat.le_trans short small))

/-! ### Reviews ahead of their students -/

/-- Two triggers in a row: the review is credited to a student that the reviewer has never seen. -/
theorem review_ahead_of_student :
    ¬ ∀ (ids : List String) (moves : List Move),
      (∀ id ∈ ids, id ≠ "" ∧ Message.isReserved id = false) →
        ∀ credit ∈ (start Obliging.mk ⟨[]⟩ ids).credits (moves.map .move),
          ∃ before after, ((start Obliging.mk ⟨[]⟩ ids).run moves).client.desk.acts =
              before ++ .tried .review none :: after ∧
            (before.filterMap Act.sent?).length = credit.octet ∧
            .informed (studentLine credit.id) ∈ before := by
  intro shown
  obtain ⟨before, after, acts, -, told⟩ := shown ["jdoe2"]
    [.trigger, .trigger, .grade, .grade, .grade] (by decide) ⟨"jdoe2", 1⟩ (by decide)
  have mem : Act.informed (studentLine "jdoe2") ∈ before ++ .tried .review none :: after :=
    List.mem_append_left _ told
  rw [← acts] at mem
  exact absurd mem (by decide)

end Conversation

end ReviewChannel
