import ReviewChannel.Proofs.Pacing

/-!
A client that waits for the answer to each of its triggers.

* `Conversation.Queued` — the order of the events on the client's channel.
* `Conversation.InStep` — what holds after some triggers when each of them came after the answer to
  the one before: nothing failed, and at most one answer is missing. A trigger that waits for the
  answer before it adds one to the triggers (`InStep.trigger`); any other move but leaving keeps
  what holds (`InStep.step`), and no failure is told (`InStep.handles`, `errors_step`).
-/

namespace ReviewChannel

open Message (stopOctets)

/-! ### Failures that were told -/

namespace Desk

variable {σ : Type}

theorem errors_note (act : Act) (desk : Desk σ) :
    (desk.note act).errors = desk.errors ++ act.error?.toList := by
  rw [errors, acts_note, List.filterMap_append]
  cases act <;> rfl

@[simp] theorem errors_inform (text : String) (desk : Desk σ) :
    (desk.inform text).errors = desk.errors :=
  (desk.errors_note _).trans (List.append_nil _)

@[simp] theorem errors_endHost (desk : Desk σ) : desk.endHost.errors = desk.errors :=
  (desk.errors_note _).trans (List.append_nil _)

@[simp] theorem errors_record [Surroundings σ] (event : LogEvent) (desk : Desk σ) :
    (desk.record event).errors = desk.errors :=
  (Desk.errors_note _ _).trans (List.append_nil _)

end Desk

/-- A reply that failed in nothing told no failure. -/
theorem Reply.complaint_eq_none {reply : Reply}
    (saved : ∀ answer ∈ reply.acts.filterMap Act.save?, answer = none)
    (taken : reply.acts.filterMap Act.sent? = reply.acts.filterMap Act.tried?) :
    reply.complaint? = none := by
  cases reply with
  | unsaved failure =>
      have failed := saved (some failure) (List.mem_singleton_self _)
      cases failed
  | atOnce command write | afterSave command write =>
      cases write with
      | none => rfl
      | some cause => cases taken

/-- A reply whose save did not fail tried one command. -/
theorem Reply.length_attempts_acts {reply : Reply}
    (saved : ∀ answer ∈ reply.acts.filterMap Act.save?, answer = none) :
    (reply.acts.filterMap Act.tried?).length = 1 := by
  cases reply with
  | unsaved failure =>
      have failed := saved (some failure) (List.mem_singleton_self _)
      cases failed
  | atOnce command write | afterSave command write => cases write <;> rfl

/-! ### The script -/

/-- Only the last message of a script asks to stop. -/
theorem stopOctets_mem_take_script {ids : List String} (legible : Legible ids) {n : Nat}
    (within : n ≤ ids.length + 1) : stopOctets ∈ (script ids).take n ↔ n = ids.length + 1 := by
  constructor
  · intro mem
    rcases Nat.lt_or_eq_of_le within with short | all
    · rw [script, List.take_append_of_le_length (by rw [List.length_map]; omega)] at mem
      obtain ⟨id, there, same⟩ := List.mem_map.mp (List.mem_of_mem_take mem)
      exact absurd same.symm (Message.stopOctets_ne_encode (legible id there).2.1)
    · exact all
  · rintro rfl
    rw [List.take_of_length_le (by simp)]
    exact List.mem_append_right _ (List.mem_singleton_self _)

/-- A message of the script is a student, or the last one asks to stop. -/
theorem getElem?_script {ids : List String} {n : Nat} {octets : List UInt8}
    (there : (script ids)[n]? = some octets) :
    (∃ id ∈ ids, octets = Utf8.encode id ∧ n < ids.length) ∨
      (octets = stopOctets ∧ n = ids.length) := by
  rcases Nat.lt_or_ge n ids.length with inside | beyond
  · rw [script, List.getElem?_append_left (by simpa using inside), List.getElem?_map,
      List.getElem?_eq_getElem inside] at there
    exact Or.inl ⟨ids[n], List.getElem_mem inside, (Option.some.inj there).symm, inside⟩
  · rw [script, List.getElem?_append_right (by simpa using beyond), List.length_map] at there
    cases offset : n - ids.length with
    | zero =>
        rw [offset] at there
        exact Or.inr ⟨(Option.some.inj there).symm, by omega⟩
    | succ more =>
        rw [offset] at there
        cases there

namespace Client

variable {σ : Type} [Surroundings σ] {client : Client σ}

/-- A trigger that failed in nothing tried one command and told no failure. -/
theorem trigger_succeeds (before : client.desk.sent = client.desk.attempts)
    (after : client.trigger.2.desk.sent = client.trigger.2.desk.attempts)
    (saved : ∀ answer ∈ client.trigger.2.desk.saves, answer = none) :
    client.trigger.2.desk.attempts.length = client.desk.attempts.length + 1 ∧
      client.trigger.2.desk.errors = client.desk.errors := by
  simp only [Desk.saves, Desk.sent, Desk.attempts, Desk.errors] at before after saved ⊢
  rw [client.filterMap_acts_trigger fun _ => rfl] at saved
  rw [client.filterMap_acts_trigger fun _ => rfl, client.filterMap_acts_trigger fun _ => rfl,
    before, List.append_cancel_left_eq] at after
  have answers := fun answer mem => saved answer (List.mem_append_right _ mem)
  constructor
  · rw [client.filterMap_acts_trigger fun _ => rfl, List.length_append,
      Reply.length_attempts_acts answers]
  · rw [client.filterMap_acts_trigger fun _ => rfl, Reply.errors_acts,
      Reply.complaint_eq_none answers after]
    exact List.append_nil _

/-- What comes of a student: the client goes on, and no failure is told. -/
theorem handle_student (client : Client σ) {id : String}
    (accepted : Message.isReserved id = false) :
    (client.handleConnection (.payload (Utf8.encode id))).1 = .goOn ∧
      (client.handleConnection (.payload (Utf8.encode id))).2.desk.errors = client.desk.errors := by
  simp [handleConnection, handlePayload, Message.classify_encode accepted]

/-- What comes of the stop directive: the client exits, and no failure is told. -/
theorem handle_stop (client : Client σ) :
    (client.handleConnection (.payload stopOctets)).1 = .exit ∧
      (client.handleConnection (.payload stopOctets)).2.desk.errors = client.desk.errors := by
  have stop : Message.classify stopOctets = .stopDirective :=
    Message.classify_eq_stopDirective_iff.mpr rfl
  simp only [handleConnection, handlePayload, stop]
  split <;> simp

theorem handle_connected (client : Client σ) (endpoint : Path) :
    (client.handleConnection (.connected endpoint)).1 = .goOn ∧
      (client.handleConnection (.connected endpoint)).2.desk.errors = client.desk.errors := by
  simp [handleConnection]

end Client

/-- A reader that goes on has delivered octets or nothing. -/
theorem Connection.readOnce_delivers (s : Stream) :
    (∃ octets, (readOnce s).1 = .more (.payload octets)) ∨
      (∃ event, event.payload? = none ∧ (readOnce s).1 = .last event) ∨
      (readOnce s).1 = .again := by
  have delivery : (readOnce s).1 = deliver (s.read .client readSize).1 := rfl
  rw [delivery]
  cases (s.read .client readSize).1 with
  | octets bytes => exact Or.inl ⟨bytes, rfl⟩
  | ended => exact Or.inr (Or.inl ⟨_, rfl, rfl⟩)
  | failed cause => exact Or.inr (Or.inl ⟨_, rfl, rfl⟩)
  | waiting | interrupted => exact Or.inr (Or.inr rfl)

namespace Conversation

variable {η : Type} {ids : List String} {c : Conversation η}

/-! ### The queue of events -/

/-- The client's queue starts with the connection. The payloads that were read follow, and what ends
the connection comes after them. -/
def Queued (c : Conversation η) : Prop :=
  ∃ (endpoint : Path) (tail : List ConnectionEvent),
    c.delivered = .connected endpoint :: (c.reads.map .payload ++ tail) ∧
      tail.filterMap ConnectionEvent.payload? = [] ∧ (c.deaf = false → tail = [])

theorem payloads_of_events (payloads : List (List UInt8)) :
    (payloads.map ConnectionEvent.payload).filterMap ConnectionEvent.payload? = payloads := by
  rw [List.filterMap_map]
  exact List.filterMap_some

/-- The client hears in order what was read: one payload for each event behind the connection. -/
theorem Queued.heard_eq (h : c.Queued) : c.heard = c.reads.take (c.handled - 1) := by
  obtain ⟨endpoint, tail, delivered, silent, -⟩ := h
  rw [heard, delivered]
  cases c.handled with
  | zero => rfl
  | succ n =>
      have rest : (tail.take (n - (c.reads.map ConnectionEvent.payload).length)).filterMap
          ConnectionEvent.payload? = [] := by
        rw [← List.sublist_nil, ← silent]
        exact (List.take_sublist _ tail).filterMap _
      rw [List.take_succ_cons, List.filterMap_cons_none rfl, List.take_append,
        List.filterMap_append, rest, ← List.map_take, payloads_of_events, List.append_nil,
        Nat.add_sub_cancel]

/-- The next event is the connection, or the first payload that was not heard, or the client has
heard all that will ever be read. -/
theorem Queued.next (h : c.Queued) {event : ConnectionEvent}
    (there : c.delivered[c.handled]? = some event) :
    (∃ endpoint, event = .connected endpoint) ∨
      (∃ octets, event = .payload octets ∧ c.reads[c.heard.length]? = some octets) ∨
      (c.heard = c.reads ∧ c.deaf = true) := by
  have heard := h.heard_eq
  obtain ⟨endpoint, tail, delivered, -, going⟩ := h
  rw [delivered] at there
  cases handled : c.handled with
  | zero =>
      rw [handled] at there
      exact Or.inl ⟨endpoint, (Option.some.inj there).symm⟩
  | succ n =>
      rw [handled, Nat.add_sub_cancel] at heard
      rw [handled, List.getElem?_cons_succ] at there
      rcases Nat.lt_or_ge n c.reads.length with inside | beyond
      · rw [List.getElem?_append_left (by simpa using inside), List.getElem?_map,
          List.getElem?_eq_getElem inside] at there
        refine Or.inr (Or.inl ⟨c.reads[n], (Option.some.inj there).symm, ?_⟩)
        rw [heard, List.length_take, Nat.min_eq_left (Nat.le_of_lt inside),
          List.getElem?_eq_getElem inside]
      · refine Or.inr (Or.inr ⟨heard.trans (List.take_of_length_le beyond), ?_⟩)
        cases deaf : c.deaf with
        | true => rfl
        | false =>
            rw [going deaf, List.append_nil, List.getElem?_eq_none (by simpa using beyond)] at there
            cases there

/-- The connection is in the queue of the client, besides what was read. -/
theorem Queued.length_reads_lt (h : c.Queued) : c.reads.length < c.delivered.length := by
  obtain ⟨endpoint, tail, delivered, -, -⟩ := h
  rw [delivered, List.length_cons, List.length_append, List.length_map]
  exact Nat.lt_succ_of_le (Nat.le_add_right _ _)

/-! ### What is in step -/

/-- A session that has said its whole script is finished, and has reviewed all students. -/
theorem Paced.completed (h : c.Paced ids) (all : ids.length < c.loop.said.length) :
    c.loop.result? = some (.ok ids.length) ∧ c.loop.reviewed = ids := by
  have follows := h.accounted.follows
  have faultless := h.faultless
  have begins := follows.begins.length_le
  cases stage : c.loop.stage with
  | awaitStart rest =>
      simp only [ReviewLoop.said, stage] at all
      cases all
  | announce rest | dismiss result =>
      simp only [ReviewLoop.said, stage, List.length_map] at all
      omega
  | awaitReview id rest =>
      simp only [ReviewLoop.said, stage] at all
      simp only [ReviewLoop.Follows, stage] at follows
      have length := congrArg List.length follows
      simp at length all
      omega
  | finished result =>
      simp only [ReviewLoop.Follows, stage] at follows
      cases result with
      | error failure => simp only [ReviewLoop.Faultless, stage] at faultless
      | ok n =>
          obtain ⟨rfl, reviewed⟩ := follows.2 n rfl
          exact ⟨by rw [ReviewLoop.result?, stage], reviewed⟩

/-- A session that has finished has said its whole script. -/
theorem Paced.said_of_finished (h : c.Paced ids) (finished : c.loop.result? ≠ none) :
    c.loop.said = script ids := by
  have follows := h.accounted.follows
  have faultless := h.faultless
  unfold ReviewLoop.result? at finished
  split at finished
  · rename_i result stage
    simp only [ReviewLoop.Follows, stage] at follows
    cases result with
    | error failure => simp only [ReviewLoop.Faultless, stage] at faultless
    | ok n =>
        simp only [ReviewLoop.said, stage]
        rw [(follows.2 n rfl).2, script]
  · exact absurd rfl finished

/-- A session in lockstep, after some triggers. -/
structure InStep (ids : List String) (triggers : Nat) (c : Conversation η) : Prop where
  paced : c.Paced ids
  queued : c.Queued
  shows : c.Shows
  answered : c.Answered
  tried : c.client.desk.attempts.length = triggers
  taken : c.client.desk.sent = c.client.desk.attempts
  waits : triggers ≤ c.heard.length + 1
  bounded : triggers ≤ ids.length + 1

variable {triggers : Nat}

/-- The grader says one thing for each trigger, at most. -/
theorem InStep.length_said_le (h : c.InStep ids triggers) : c.loop.said.length ≤ triggers := by
  have counted := c.loop.length_said_le h.paced.faultless
  have sent := h.paced.accounted.begins.length_le
  rw [h.taken, h.tried] at sent
  exact Nat.le_trans counted sent

theorem InStep.length_reads_le (h : c.InStep ids triggers) :
    c.reads.length ≤ c.loop.said.length := by
  rw [← h.paced.said_eq, List.length_append]
  exact Nat.le_add_right _ _

theorem InStep.length_heard_le (h : c.InStep ids triggers) : c.heard.length ≤ triggers :=
  Nat.le_trans c.heard_begins.length_le (Nat.le_trans h.length_reads_le h.length_said_le)

/-- The client was asked to stop once it has heard the whole script. -/
theorem InStep.stopped_iff (h : c.InStep ids triggers) (legible : Legible ids) :
    stopOctets ∈ c.heard ↔ c.heard.length = ids.length + 1 := by
  have within := Nat.le_trans h.length_heard_le h.bounded
  rw [← stopOctets_mem_take_script legible within, ← h.paced.heard_eq]

/-- The client runs until it has heard the stop directive, which comes after all students. -/
theorem InStep.running_iff (h : c.InStep ids triggers) (legible : Legible ids) :
    c.client.terminated = false ↔ c.heard.length ≤ ids.length := by
  have within := Nat.le_trans h.length_heard_le h.bounded
  have asked := h.answered.answers.terminated_iff.trans (h.stopped_iff legible)
  cases terminated : c.client.terminated with
  | true =>
      have all := asked.mp terminated
      exact ⟨fun running => absurd running (by decide), fun short => absurd all (by omega)⟩
  | false =>
      refine ⟨fun _ => ?_, fun _ => rfl⟩
      have short : c.heard.length ≠ ids.length + 1 := by
        intro all
        rw [asked.mpr all] at terminated
        cases terminated
      omega

/-- The next event of a client that was not asked to stop: the connection, the next student, or the
request to stop. -/
theorem InStep.next (h : c.InStep ids triggers) (legible : Legible ids)
    (running : c.client.terminated = false) {event : ConnectionEvent}
    (there : c.delivered[c.handled]? = some event) :
    (∃ endpoint, event = .connected endpoint) ∨
      (∃ id ∈ ids, event = .payload (Utf8.encode id) ∧ c.heard.length < ids.length) ∨
      (event = .payload stopOctets ∧ c.heard.length = ids.length) := by
  rcases h.queued.next there with connected | ⟨octets, rfl, next⟩ | ⟨all, deaf⟩
  · exact Or.inl connected
  · have said := h.paced.accounted.follows.said_begins h.paced.faultless
    obtain ⟨rest, reads⟩ := List.IsPrefix.trans ⟨c.inFlight, h.paced.said_eq⟩ said
    have inside := (List.getElem?_eq_some_iff.mp next).1
    have spoken : (script ids)[c.heard.length]? = some octets := by
      rwa [← reads, List.getElem?_append_left inside]
    rcases getElem?_script spoken with ⟨id, mem, rfl, short⟩ | ⟨rfl, last⟩
    · exact Or.inr (Or.inl ⟨id, mem, rfl, short⟩)
    · exact Or.inr (Or.inr ⟨rfl, last⟩)
  · -- The reader has stopped, so the grader has said its whole script and the client has heard it.
    obtain ⟨silent, empty⟩ := h.paced.attended.deaf deaf
    have finished : c.loop.result? ≠ none := by
      intro goesOn
      have speaks := h.paced.attended.speaks goesOn
      exact Bool.false_ne_true (silent.symm.trans speaks)
    have said := h.paced.said_eq
    have flight : c.inFlight = [] := if_pos empty
    rw [flight, List.append_nil, ← all, h.paced.said_of_finished finished] at said
    have length := congrArg List.length said
    have short := (h.running_iff legible).mp running
    rw [length_script] at length
    omega

/-! ### Steps -/

variable [Surroundings η]

theorem Queued.step (h : c.Queued) (move : Move) : (c.step move).Queued := by
  have proceeds := c.step_proceeds move
  generalize c.step move = next at proceeds
  cases proceeds with
  | reads attentive =>
      obtain ⟨endpoint, tail, delivered, -, going⟩ := h
      obtain rfl := going attentive
      rw [List.append_nil] at delivered
      have more := c.reads_append (Connection.readOnce c.stream).1
      generalize c.reads = payloads at delivered more
      simp only [Queued, reads]
      rw [more]
      rcases Connection.readOnce_delivers c.stream with ⟨octets, got⟩ | ⟨event, other, got⟩ | got
      · refine ⟨endpoint, [], ?_, rfl, fun _ => rfl⟩
        simp [got, delivered, Connection.Delivery.event?, Connection.Delivery.payload?,
          ConnectionEvent.payload?]
      · refine ⟨endpoint, [event], ?_, by simp [other], fun deaf => ?_⟩
        · simp [got, delivered, Connection.Delivery.event?, Connection.Delivery.payload?, other]
        · simp [got, Connection.Delivery.stops] at deaf
      · refine ⟨endpoint, [], ?_, rfl, fun _ => rfl⟩
        simp [got, delivered, Connection.Delivery.event?, Connection.Delivery.payload?]
  | blocked | triggers | handles | leaves | grades | graderLeaves => exact h

/-- What the client did stays on record. -/
theorem acts_step (c : Conversation η) (move : Move) :
    c.client.desk.acts <+: (c.step move).client.desk.acts := by
  have kept := Desk.acts_kept (σ := Line η) c.client.desk.acts
  have proceeds := c.step_proceeds move
  generalize c.step move = next at proceeds
  cases proceeds with
  | triggers => exact Client.trigger_kept kept List.prefix_rfl
  | handles => exact Client.handle_kept kept _ List.prefix_rfl
  | leaves => exact Client.teardown_kept kept List.prefix_rfl
  | blocked | reads | grades | graderLeaves => exact List.prefix_rfl

theorem acts_run (c : Conversation η) (moves : List Move) :
    c.client.desk.acts <+: (c.run moves).client.desk.acts := by
  induction moves generalizing c with
  | nil => exact List.prefix_rfl
  | cons move moves ih => exact (c.acts_step move).trans (ih (c.step move))

/-- Only a client that triggers or leaves tries or sends anything. -/
theorem quiet_step (c : Conversation η) {move : Move} (quiet : move ≠ .trigger)
    (stays : move ≠ .leave) :
    (c.step move).client.desk.attempts = c.client.desk.attempts ∧
      (c.step move).client.desk.sent = c.client.desk.sent := by
  have proceeds := c.step_proceeds move
  generalize c.step move = next at proceeds
  cases proceeds with
  | triggers => exact absurd rfl quiet
  | leaves => exact absurd rfl stays
  | handles => exact ⟨(c.client.handleConnection_quiet _).1, c.client.sent_handleConnection _⟩
  | blocked | reads | grades | graderLeaves => exact ⟨rfl, rfl⟩

theorem InStep.step (h : c.InStep ids triggers) (legible : Legible ids) {move : Move}
    (quiet : move ≠ .trigger) (stays : move ≠ .leave) : (c.step move).InStep ids triggers := by
  obtain ⟨attempts, sent⟩ := c.quiet_step quiet stays
  have longer := (c.heard_step move).length_le
  refine ⟨h.paced.step legible stays fun trigger => absurd trigger quiet, h.queued.step move,
    h.shows.step move, h.answered.step move, ?_, ?_, ?_, h.bounded⟩
  · rw [attempts, h.tried]
  · rw [attempts, sent, h.taken]
  · exact Nat.le_trans h.waits (Nat.add_le_add_right longer 1)

/-- A trigger of a client that was answered and not asked to stop is sent, if its save succeeds. -/
theorem InStep.trigger (h : c.InStep ids triggers) (legible : Legible ids)
    (heard : c.heard.length = triggers) (running : c.client.terminated = false)
    (saved : ∀ answer ∈ (c.step .trigger).client.desk.saves, answer = none) :
    (c.step .trigger).InStep ids (triggers + 1) ∧
      (c.step .trigger).client.desk.errors = c.client.desk.errors := by
  have short := (h.running_iff legible).mp running
  have goesOn : c.loop.result? = none := by
    cases finished : c.loop.result? with
    | none => rfl
    | some result =>
        have said := congrArg List.length (h.paced.said_of_finished (by simp [finished]))
        have spoken := h.length_said_le
        rw [length_script] at said
        omega
  have inTurn : c.InTurn := by
    intro started
    obtain ⟨reviews, tried⟩ : ∃ reviews, c.client.desk.attempts = _ := started ▸ h.paced.spoken
    have length := h.tried
    rw [tried, List.length_cons, List.length_replicate] at length
    rw [h.taken, tried]
    simp
    omega
  have paced := h.paced.trigger inTurn
  have opened := Client.trigger_kept Desk.open_kept (h.paced.wide goesOn)
  have answered := h.answered.step .trigger
  have shows := h.shows.step .trigger
  have queued := h.queued.step .trigger
  rw [Conversation.step, if_neg (by simp [h.paced.present])] at paced answered shows queued saved ⊢
  obtain ⟨tried, errors⟩ := Client.trigger_succeeds h.taken opened.taken saved
  refine ⟨⟨paced, queued, shows, answered, ?_, opened.taken, ?_, by omega⟩, errors⟩
  · rw [tried, h.tried]
  · exact Nat.add_le_add_right (Nat.le_of_eq heard.symm) 1

theorem heard_handle (present : c.gone = false) {event : ConnectionEvent}
    (there : c.delivered[c.handled]? = some event) :
    (c.step .handle).heard = c.heard ++ event.payload?.toList := by
  rw [Conversation.step, if_neg (by simp [present])]
  simp only [there]
  exact heard_next there

/-- Before it is asked to stop, a client tells no failure of what it handles, and it exits on the
last message of the script. -/
theorem InStep.handles (h : c.InStep ids triggers) (legible : Legible ids)
    (running : c.client.terminated = false) {event : ConnectionEvent}
    (there : c.delivered[c.handled]? = some event) :
    ((c.client.handle (.connection event)).1 = .exit ↔
        (c.step .handle).heard.length = ids.length + 1) ∧
      (c.client.handle (.connection event)).2.desk.errors = c.client.desk.errors := by
  have short := (h.running_iff legible).mp running
  rw [heard_handle h.paced.present there, List.length_append, Client.handle]
  rcases h.next legible running there with ⟨endpoint, rfl⟩ | ⟨id, mem, rfl, more⟩ | ⟨rfl, last⟩
  · obtain ⟨goesOn, errors⟩ := c.client.handle_connected endpoint
    simp only [goesOn, ConnectionEvent.payload?, Option.toList_none, List.length_nil]
    exact ⟨⟨fun exit => Flow.noConfusion exit, fun all => absurd all (by omega)⟩, errors⟩
  · obtain ⟨goesOn, errors⟩ := c.client.handle_student (legible id mem).2.1
    rw [goesOn, ConnectionEvent.payload?, Option.toList_some, List.length_singleton]
    exact ⟨⟨fun exit => Flow.noConfusion exit, fun all => absurd all (by omega)⟩, errors⟩
  · obtain ⟨exits, errors⟩ := c.client.handle_stop
    rw [exits, ConnectionEvent.payload?, Option.toList_some, List.length_singleton]
    exact ⟨⟨fun _ => by omega, fun _ => rfl⟩, errors⟩

/-- Neither the reader nor the grader makes the client tell anything. -/
theorem errors_step (c : Conversation η) {move : Move} (quiet : move ≠ .trigger)
    (handles : move ≠ .handle) (stays : move ≠ .leave) :
    (c.step move).client.desk.errors = c.client.desk.errors := by
  have proceeds := c.step_proceeds move
  generalize c.step move = next at proceeds
  cases proceeds with
  | triggers => exact absurd rfl quiet
  | handles => exact absurd rfl handles
  | leaves => exact absurd rfl stays
  | blocked | reads | grades | graderLeaves => rfl

end Conversation

end ReviewChannel
