import ReviewChannel.Proofs.InStep

/-!
A whole session in lockstep: a client that triggers, handles the payload that comes back, and only
then triggers again, until it is asked to stop.

* `Conversation.Lockstep` — the schedules of such a client, with the grader and the reader free to
  step whenever they like. They keep the session in step (`Lockstep.inStep`).
* `Conversation.lag` — at most how many moves are missing for the answer to the last trigger. No
  move raises it, and the one that is due lowers it (`InStep.lag_step_le`, `InStep.lag_due`).
* `Conversation.lockstep_session` — what the session comes to: each trigger gets one answer, the
  students are shown and reviewed in order, and the last answer ends the client.
-/

namespace ReviewChannel

/-- At most how many steps a session takes before it says the next thing. -/
def Stage.untilSaid : Stage → Nat
  | .awaitStart _ | .awaitReview _ _ => 3
  | .announce [] => 2
  | .announce (_ :: _) | .dismiss _ => 1
  | .finished _ => 0

/-- A session that waits for a command has said as much as it counts. -/
theorem ReviewLoop.length_counted_of_awaits (loop : ReviewLoop) {command : Command}
    (awaits : loop.stage.awaits = some command) : loop.counted.length = loop.said.length := by
  cases stage : loop.stage with
  | awaitStart rest => simp [counted, said, stage]
  | awaitReview id others => simp [counted, said, stage]
  | announce | dismiss | finished =>
      rw [stage] at awaits
      cases awaits

namespace Conversation

variable {η : Type} {ids : List String} {triggers : Nat} {c : Conversation η}

/-! ### Schedules in lockstep -/

section Schedules

variable [Surroundings η]

/-- A client that triggers, handles the payload that comes back, and only then triggers again, until
it is asked to stop. The reader and the grader step whenever they like. -/
structure Lockstep (around : η) (endpoint : Path) (ids : List String) (moves : List Move) :
    Prop where
  stays : Move.leave ∉ moves
  /-- Each trigger comes when all triggers before it have been answered. -/
  answered : Move.trigger.Guarded (fun before =>
    ((start around endpoint ids).run before).heard.length = before.count .trigger) moves
  triggers_until : Move.trigger.Guarded (fun before =>
    ((start around endpoint ids).run before).client.terminated = false) moves
  handles_until : Move.handle.Guarded (fun before =>
    ((start around endpoint ids).run before).client.terminated = false) moves

theorem Lockstep.front {around : η} {endpoint : Path} {before after : List Move}
    (h : Lockstep around endpoint ids (before ++ after)) :
    Lockstep around endpoint ids before where
  stays mem := h.stays (List.mem_append_left _ mem)
  answered := h.answered.front
  triggers_until := h.triggers_until.front
  handles_until := h.handles_until.front

theorem inStep_start (around : η) (endpoint : Path) (ids : List String) :
    (start around endpoint ids).InStep ids 0 where
  paced := paced_start around endpoint ids
  queued := ⟨endpoint, [], rfl, rfl, fun _ => rfl⟩
  shows := run_shows around endpoint ids []
  answered := run_answered around endpoint ids []
  tried := rfl
  taken := rfl
  waits := Nat.zero_le _
  bounded := Nat.zero_le _

/-- A session in lockstep stays in lockstep, and no failure is told. -/
theorem Lockstep.inStep {around : η} {endpoint : Path} {moves : List Move} (legible : Legible ids)
    (h : Lockstep around endpoint ids moves)
    (saved : ∀ answer ∈ ((start around endpoint ids).run moves).client.desk.saves, answer = none) :
    ((start around endpoint ids).run moves).InStep ids (moves.count .trigger) ∧
      ((start around endpoint ids).run moves).client.desk.errors = [] := by
  induction moves using List.reverseRecOn with
  | nil => exact ⟨inStep_start around endpoint ids, rfl⟩
  | append_singleton moves move ih =>
      rw [run_concat] at saved ⊢
      obtain ⟨inStep, silent⟩ := ih h.front fun answer mem => saved answer
        (((acts_step _ move).filterMap Act.save?).subset mem)
      have stays : move ≠ .leave := by
        rintro rfl
        exact h.stays (List.mem_append_right _ (List.mem_singleton_self _))
      rw [List.count_append, List.count_singleton]
      by_cases trigger : move = .trigger
      · subst trigger
        obtain ⟨next, errors⟩ := inStep.trigger legible (h.answered.passes rfl)
          (h.triggers_until.passes rfl) saved
        exact ⟨next, errors.trans silent⟩
      · rw [if_neg (by simpa using trigger)]
        refine ⟨inStep.step legible trigger stays, ?_⟩
        by_cases handle : move = .handle
        · subst handle
          have running := h.handles_until.passes rfl
          rw [Conversation.step, if_neg (by simp [inStep.paced.present])]
          split
          · rename_i event there
            exact (inStep.handles legible running there).2.trans silent
          · exact silent
        · rw [errors_step _ trigger handle stays, silent]

end Schedules

/-! ### Every trigger is answered -/

/-- At most how many moves are missing for an answer to each of the triggers: the grader says it, it
is read, and the client handles it, after the connection if that is still to be handled. -/
def lag (triggers : Nat) (c : Conversation η) : Nat :=
  if triggers ≤ c.heard.length then 0
  else if triggers ≤ c.reads.length then if triggers ≤ c.handled then 1 else 2
  else if triggers ≤ c.loop.said.length then 3
  else c.loop.stage.untilSaid + 3

/-- The move that leaves so many moves missing. -/
def due : Nat → Move
  | 0 | 1 => .handle
  | 2 => .read
  | _ => .grade

/-- The moves that catch up with a lag. -/
def dues : Nat → List Move
  | 0 => []
  | lag + 1 => due lag :: dues lag

theorem lag_le (c : Conversation η) (triggers : Nat) : c.lag triggers ≤ 6 := by
  have steps : c.loop.stage.untilSaid ≤ 3 := by
    cases c.loop.stage with
    | announce ids => cases ids <;> simp [Stage.untilSaid]
    | awaitStart | awaitReview | dismiss | finished => simp [Stage.untilSaid]
  unfold lag
  repeat' split
  all_goals omega

theorem le_heard_of_lag {c : Conversation η} (caught : c.lag triggers = 0) :
    triggers ≤ c.heard.length := by
  unfold lag at caught
  repeat' split at caught
  all_goals omega

/-- A grader that has nothing left to say has said enough. -/
theorem InStep.le_said_of_rests (h : c.InStep ids triggers)
    (rests : c.loop.stage.untilSaid = 0) : triggers ≤ c.loop.said.length := by
  have finished : c.loop.result? ≠ none := by
    unfold ReviewLoop.result?
    cases stage : c.loop.stage with
    | finished result => simp
    | announce rest =>
        rw [stage] at rests
        cases rest <;> cases rests
    | awaitStart | awaitReview | dismiss =>
        rw [stage] at rests
        cases rests
  rw [h.paced.said_of_finished finished, length_script]
  exact h.bounded

variable [Surroundings η]

/-- While an answer is missing, a step of the grader gives it or brings it closer. -/
theorem InStep.grade_progress (h : c.InStep ids triggers) (legible : Legible ids) :
    c.loop.said.length < (c.step .grade).loop.said.length ∨
      ((c.step .grade).loop.said.length = c.loop.said.length ∧
        ((c.step .grade).loop.stage.untilSaid < c.loop.stage.untilSaid ∨
          (triggers ≤ c.loop.said.length ∧ (c.step .grade).loop = c.loop))) := by
  have faultless := (h.paced.grade legible).faultless
  have follows := h.paced.accounted.follows
  have advances := c.loop.step_advances c.stream
  rw [Conversation.step] at faultless ⊢
  generalize c.loop.step c.stream = next at advances faultless ⊢
  cases advances with
  | @starts rest queue stage =>
      simp only [ReviewLoop.Follows, stage] at follows
      refine Or.inr ⟨by simp [ReviewLoop.said, stage, follows.1], Or.inl ?_⟩
      cases rest <;> simp [Stage.untilSaid, stage]
  | @reviews id others queue stage =>
      refine Or.inr ⟨by simp [ReviewLoop.said, stage], Or.inl ?_⟩
      cases others <;> simp [Stage.untilSaid, stage]
  | completes stage =>
      refine Or.inr ⟨by simp [ReviewLoop.said, stage], Or.inl ?_⟩
      simp [Stage.untilSaid, stage]
  | announces stage => exact Or.inl (by simp [ReviewLoop.said, stage])
  | dismisses stage => exact Or.inl (by simp [ReviewLoop.said, stage])
  | refuses => exact faultless.elim
  | despairs => exact faultless.elim
  | waits stage empty =>
      refine Or.inr ⟨rfl, Or.inr ⟨?_, rfl⟩⟩
      obtain ⟨unread, sent, inbox⟩ := h.paced.accounted.carried (Stage.reads_of_awaits stage)
      have none : unread = [] := by
        cases unread with
        | nil => rfl
        | cons first unread => cases empty.symm.trans inbox
      have length := congrArg List.length sent
      rw [none, List.append_nil, h.taken, h.tried, c.loop.length_counted_of_awaits stage] at length
      exact Nat.le_of_eq length
  | rests stage =>
      have said := congrArg List.length
        (h.paced.said_of_finished (by rw [ReviewLoop.result?, stage]; simp))
      rw [length_script] at said
      exact Or.inr ⟨rfl, Or.inr ⟨by rw [said]; exact h.bounded, rfl⟩⟩

/-- What the client has handled and what was read only grows. -/
theorem handled_step_le (c : Conversation η) (move : Move) :
    c.handled ≤ (c.step move).handled ∧ c.reads.length ≤ (c.step move).reads.length := by
  have proceeds := c.step_proceeds move
  generalize c.step move = next at proceeds
  cases proceeds with
  | reads =>
      refine ⟨Nat.le_refl _, ?_⟩
      rw [reads, reads, c.reads_append, List.length_append]
      exact Nat.le_add_right _ _
  | handles => exact ⟨Nat.le_succ _, Nat.le_refl _⟩
  | blocked | triggers | leaves | grades | graderLeaves => exact ⟨Nat.le_refl _, Nat.le_refl _⟩

/-- No move puts an answer further away. -/
theorem InStep.lag_step_le (h : c.InStep ids triggers) (legible : Legible ids) (move : Move) :
    (c.step move).lag triggers ≤ c.lag triggers := by
  have waits := h.waits
  have begins := Nat.le_trans c.heard_begins.length_le h.length_reads_le
  have heard := (c.heard_step move).length_le
  obtain ⟨handled, reads⟩ := c.handled_step_le move
  have said : (c.step move).loop = c.loop ∨
      c.loop.said.length < (c.step move).loop.said.length ∨
        ((c.step move).loop.said.length = c.loop.said.length ∧
          (c.step move).loop.stage.untilSaid < c.loop.stage.untilSaid) := by
    by_cases grade : move = .grade
    · subst grade
      rcases h.grade_progress legible with more | ⟨same, closer | ⟨-, rests⟩⟩
      · exact Or.inr (Or.inl more)
      · exact Or.inr (Or.inr ⟨same, closer⟩)
      · exact Or.inl rests
    · have other : Turn.move move ≠ .move .grade := by simpa using grade
      exact Or.inl (c.loop_turn other)
  -- What was heard, read and said only grows, so the lag never moves to a higher branch.
  unfold lag
  rcases said with same | more | ⟨same, closer⟩
  · rw [same]
    repeat' split
    all_goals omega
  · repeat' split
    all_goals omega
  · repeat' split
    all_goals omega

/-- When the answer was read, the next event that is handled is this answer, or the connection. -/
theorem InStep.handle_progress (h : c.InStep ids triggers) (missing : c.heard.length < triggers)
    (read : triggers ≤ c.reads.length) :
    triggers ≤ (c.step .handle).handled ∧
      (triggers ≤ c.handled → triggers ≤ (c.step .handle).heard.length) := by
  have heard := congrArg List.length h.queued.heard_eq
  have heard' := congrArg List.length (h.queued.step .handle).heard_eq
  have waits := h.waits
  have within : c.handled < c.delivered.length := by
    have longer := h.queued.length_reads_lt
    rw [List.length_take] at heard
    omega
  have handled : (c.step .handle).handled = c.handled + 1 ∧ (c.step .handle).reads = c.reads := by
    rw [Conversation.step, if_neg (by simp [h.paced.present])]
    simp only [List.getElem?_eq_getElem within]
    exact ⟨trivial, rfl⟩
  rw [handled.1, handled.2, List.length_take] at heard'
  rw [List.length_take] at heard
  omega

/-- A read takes all that the grader has said. -/
theorem InStep.reads_step_read (h : c.InStep ids triggers) :
    (c.step .read).reads = c.loop.said := by
  obtain ⟨same, -⟩ := inFlight_read h.paced.short
  have empty : (c.step .read).inbox = [] := by
    cases deaf : c.deaf with
    | true =>
        rw [Conversation.step, if_pos deaf]
        exact (h.paced.attended.deaf deaf).2
    | false =>
        rw [(step_read deaf).2]
        obtain ⟨-, -, -, ⟨-, -, -, left⟩ | ⟨-, -, left, -⟩⟩ := Connection.readOnce_cases c.stream
        · rw [left]
          exact List.drop_of_length_le h.paced.short
        · exact left
  have flight : (c.step .read).inFlight = [] := if_pos empty
  rw [flight, List.append_nil, h.paced.said_eq] at same
  exact same

/-- The move that is due brings an answer closer. -/
theorem InStep.lag_due (h : c.InStep ids triggers) (legible : Legible ids) {lag : Nat}
    (behind : c.lag triggers ≤ lag + 1) : (c.step (due lag)).lag triggers ≤ lag := by
  rcases Nat.lt_or_ge lag (c.lag triggers) with exactly | closer
  · have lag_eq : c.lag triggers = lag + 1 := Nat.le_antisymm behind exactly
    have waits := h.waits
    have begins := Nat.le_trans c.heard_begins.length_le h.length_reads_le
    match lag with
    | 0 | 1 =>
        have progress := fun missing read => h.handle_progress missing read
        have reads : (c.step .handle).reads = c.reads := c.sameWire_handle.sameQueue.reads_eq
        simp only [due, Conversation.lag, reads] at lag_eq ⊢
        repeat' split at lag_eq
        all_goals
          repeat' split
          all_goals omega
    | 2 =>
        have reads := congrArg List.length h.reads_step_read
        have said := h.le_said_of_rests
        simp only [due, Conversation.lag] at lag_eq ⊢
        repeat' split at lag_eq
        all_goals
          repeat' split
          all_goals omega
    | more + 3 =>
        have progress := h.grade_progress legible
        simp only [due, Conversation.lag] at lag_eq ⊢
        rcases progress with said | ⟨same, closer | ⟨enough, -⟩⟩
        all_goals
          repeat' split at lag_eq
        all_goals
          repeat' split
          all_goals omega
  · exact Nat.le_trans (h.lag_step_le legible (due lag)) closer

/-- A schedule in which the moves that are due come in order catches up. -/
theorem InStep.catches_up (h : c.InStep ids triggers) (legible : Legible ids) {lag : Nat}
    (behind : c.lag triggers ≤ lag) {more : List Move} (quiet : Move.trigger ∉ more)
    (stays : Move.leave ∉ more) (come : (dues lag).Sublist more) :
    (c.run more).InStep ids triggers ∧ (c.run more).lag triggers = 0 := by
  induction more generalizing c lag with
  | nil =>
      cases lag with
      | zero => exact ⟨h, Nat.le_zero.mp behind⟩
      | succ lag => cases come
  | cons move more ih =>
      obtain ⟨quiet, quieter⟩ := List.ne_and_not_mem_of_not_mem_cons quiet
      obtain ⟨stays, staying⟩ := List.ne_and_not_mem_of_not_mem_cons stays
      have next := h.step legible quiet.symm stays.symm
      have closer := h.lag_step_le legible move
      -- A move that is not due does no harm; the one that is due takes the lag one lower.
      cases lag with
      | zero => exact ih next (Nat.le_trans closer behind) quieter staying (List.nil_sublist _)
      | succ lag =>
          rw [dues] at come
          cases come with
          | cons _ later => exact ih next (Nat.le_trans closer behind) quieter staying later
          | cons_cons _ later => exact ih next (h.lag_due legible behind) quieter staying later

/-! ### The session -/

/-- What a session in lockstep has come to after some triggers. -/
structure Abreast (ids : List String) (triggers : Nat) (c : Conversation η) : Prop where
  /-- Each trigger was answered by one payload, the last one perhaps not yet. -/
  answers_le : c.heard.length ≤ triggers
  le_answers : triggers ≤ c.heard.length + 1
  /-- There is a trigger for each student and one more. -/
  triggers_le : triggers ≤ ids.length + 1
  sent_eq : c.client.desk.sent =
    (Command.start :: List.replicate ids.length .review).take triggers
  heard_eq : c.heard = (script ids).take c.heard.length
  /-- The first answers show the students, once each and in order, as they were sent. -/
  shown_eq : c.client.desk.shown = (ids.take c.heard.length).map studentLine
  errors_eq : c.client.desk.errors = []
  /-- The last answer makes the client ask its host to end. -/
  endings_eq : c.client.desk.endings = if c.heard.length = ids.length + 1 then 1 else 0
  completed : c.heard.length = ids.length + 1 →
    c.loop.result? = some (.ok ids.length) ∧ c.loop.reviewed = ids

omit [Surroundings η] in
/-- The triggers so far have sent the start and then reviews, and no more than one for each
student. -/
theorem InStep.sent_eq (h : c.InStep ids triggers) :
    c.client.desk.sent = (Command.start :: List.replicate ids.length .review).take triggers := by
  have tried := h.tried
  have bounded := h.bounded
  rw [h.taken]
  cases triggers with
  | zero => exact List.eq_nil_of_length_eq_zero tried
  | succ earlier =>
      have some : c.client.desk.attempts ≠ [] := by
        intro none
        rw [none] at tried
        cases tried
      obtain ⟨reviews, attempts⟩ := h.paced.spoken.of_ne_nil some
      rw [attempts, List.length_cons, List.length_replicate] at tried
      rw [attempts, List.take_succ_cons, List.take_replicate, Nat.min_eq_left (by omega)]
      exact congrArg (fun n => Command.start :: List.replicate n .review) (by omega)

omit [Surroundings η] in
/-- Without a complaint, a session in step has come to all of this. -/
theorem InStep.abreast (h : c.InStep ids triggers) (legible : Legible ids)
    (silent : c.client.desk.errors = []) : c.Abreast ids triggers where
  answers_le := h.length_heard_le
  le_answers := h.waits
  triggers_le := h.bounded
  sent_eq := h.sent_eq
  heard_eq := h.paced.heard_eq
  shown_eq := h.paced.shown_eq legible h.shows
  errors_eq := silent
  endings_eq := by
    rw [h.answered.answers.endings_eq]
    exact if_congr (h.stopped_iff legible) rfl rfl
  completed all := by
    refine h.paced.completed ?_
    have begins := c.heard_begins.length_le
    have reads := h.length_reads_le
    omega

/-- A session in lockstep whose saves succeed, for students that can be shown as they were sent.
However the grader and the reader step in between:

* after any number of triggers the two sides are abreast;
* a payload makes the client exit if it is the answer to the trigger behind the last student, and
  only then;
* a trigger that was not answered yet will be, as soon as the grader takes three more steps, the
  reader one and the client two. -/
theorem lockstep_session (around : η) (endpoint : Path) (ids : List String) (moves : List Move)
    (legible : Legible ids) (lockstep : Lockstep around endpoint ids moves)
    (saved : ∀ answer ∈ ((start around endpoint ids).run moves).client.desk.saves, answer = none) :
    ((start around endpoint ids).run moves).Abreast ids (moves.count .trigger) ∧
      (∀ before after event, moves = before ++ .handle :: after →
        let c := (start around endpoint ids).run before
        c.delivered[c.handled]? = some event →
          ((c.client.handle (.connection event)).1 = .exit ↔
            (c.step .handle).heard.length = ids.length + 1)) ∧
      ∀ more, .trigger ∉ more → .leave ∉ more →
        [.grade, .grade, .grade, .read, .handle, .handle].Sublist more →
          ((start around endpoint ids).run (moves ++ more)).heard.length =
            moves.count .trigger := by
  obtain ⟨inStep, silent⟩ := lockstep.inStep legible saved
  refine ⟨inStep.abreast legible silent, ?_, fun more quiet stays come => ?_⟩
  · rintro before after event rfl c there
    have running := lockstep.handles_until.passes rfl
    rw [run_append] at saved
    obtain ⟨earlier, -⟩ := lockstep.front.inStep legible fun answer mem => saved answer
      (((acts_run _ _).filterMap Act.save?).subset mem)
    exact (earlier.handles legible running there).1
  · obtain ⟨later, caught⟩ := inStep.catches_up legible (lag_le _ _) quiet stays come
    rw [run_append]
    exact Nat.le_antisymm later.length_heard_le (le_heard_of_lag caught)

/-- A whole session with two students. -/
theorem lockstep_session_of_two :
    let ids := ["jdoe2", "wang5"]
    let final := (start Obliging.mk ⟨[]⟩ ids).run
      [.trigger, .grade, .handle, .grade, .read, .handle, .trigger, .grade, .grade, .read, .handle,
        .trigger, .grade, .grade, .grade, .graderLeaves, .read, .handle]
    final.heard.length = 3 ∧ final.client.desk.shown = ids.map studentLine ∧
      final.client.desk.endings = 1 ∧ final.loop.result? = some (.ok 2) ∧
      final.loop.reviewed = ids := by
  intro ids final
  have abreast : final.Abreast ids _ := (lockstep_session Obliging.mk ⟨[]⟩ ids
    [.trigger, .grade, .handle, .grade, .read, .handle, .trigger, .grade, .grade, .read, .handle,
      .trigger, .grade, .grade, .grade, .graderLeaves, .read, .handle]
    (by decide) ⟨by decide, by decide, by decide, by decide⟩ (by decide)).1
  have heard : final.heard.length = 3 := by decide
  clear_value final
  have shown := abreast.shown_eq
  have endings := abreast.endings_eq
  obtain ⟨result, reviewed⟩ := abreast.completed heard
  rw [heard] at shown endings
  exact ⟨heard, shown, endings, result, reviewed⟩

end Conversation

end ReviewChannel
