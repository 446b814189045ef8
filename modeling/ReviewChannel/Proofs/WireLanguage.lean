import ReviewChannel.Proofs.Line

/-!
What a client says to its grader in a whole sitting, and what the grader can ever read of it.

* `Phase.Spoken` ties the phase of a session to the commands that were tried; every event keeps it
  (`Client.handle_spoken`), so a run does.
* `serve_speaks_session_language` — a sitting that does not start tells the reviewer once and writes
  nothing; any other one tries `stop` alone, or `start`, reviews and `stop`, and the grader can only
  ever read a beginning of that.
-/

namespace ReviewChannel

variable {σ : Type}

namespace Desk

theorem attempts_note (act : Act) (desk : Desk σ) :
    (desk.note act).attempts = desk.attempts ++ act.tried?.toList := by
  rw [attempts, acts_note, List.filterMap_append, List.filterMap_cons]
  cases act.tried? <;> rfl

@[simp] theorem attempts_inform (text : String) (desk : Desk σ) :
    (desk.inform text).attempts = desk.attempts := by
  rw [inform, attempts_note]
  exact List.append_nil _

@[simp] theorem attempts_complain (text : String) (desk : Desk σ) :
    (desk.complain text).attempts = desk.attempts := by
  rw [complain, attempts_note]
  exact List.append_nil _

@[simp] theorem attempts_endHost (desk : Desk σ) : desk.endHost.attempts = desk.attempts := by
  rw [endHost, attempts_note]
  exact List.append_nil _

@[simp] theorem attempts_wireHost (desk : Desk σ) : desk.wireHost.attempts = desk.attempts := by
  rw [wireHost, attempts_note]
  exact List.append_nil _

@[simp] theorem attempts_record [Surroundings σ] (event : LogEvent) (desk : Desk σ) :
    (desk.record event).attempts = desk.attempts := by
  rw [record, attempts_note]
  exact List.append_nil _

end Desk

variable [Surroundings σ]

/-! ### What was tried in each phase -/

/-- The commands that were tried when a session stands at a phase. -/
def Phase.Spoken : Phase → List Command → Prop
  | .notStarted, tried => tried = []
  | .started, tried => ∃ reviews, tried = .start :: List.replicate reviews .review

/-- A trigger goes on with the language of the session. -/
theorem Phase.Spoken.trigger {phase : Phase} {desk : Desk σ}
    (h : phase.Spoken desk.attempts) :
    (phase.trigger desk).2.1.Spoken (phase.trigger desk).2.2.attempts := by
  rw [Phase.trigger_eq]
  simp only [Phase.after_trigger, Desk.attempts, List.filterMap_append]
  cases phase with
  | notStarted =>
      refine ⟨0, ?_⟩
      have first := Reply.attempts_atOnce .start
        (failure? (Surroundings.transmit .start desk.surroundings).1)
      rw [show desk.acts.filterMap Act.tried? = [] from h]
      exact first
  | started =>
      obtain ⟨reviews, tried⟩ := h
      have later := Reply.later_ask desk.surroundings
      let saved := ((Reply.ask .started desk.surroundings).1.acts.filterMap Act.save?).count none
      refine ⟨reviews + saved, ?_⟩
      rw [show desk.acts.filterMap Act.tried? = _ from tried, later.attempts_acts,
        List.cons_append, List.replicate_append_replicate]

namespace Client

theorem handlePayload_quiet (octets : List UInt8) (client : Client σ) :
    (client.handlePayload octets).2.desk.attempts = client.desk.attempts ∧
      (client.handlePayload octets).2.phase = client.phase := by
  unfold handlePayload
  generalize Message.classify octets = message
  cases message with
  | identifier id => simp
  | malformed text => simp
  | stopDirective =>
      simp only
      split <;> simp

/-- What the connection delivers makes a client try nothing, and leaves the session where it is. -/
theorem handleConnection_quiet (event : ConnectionEvent) (client : Client σ) :
    (client.handleConnection event).2.desk.attempts = client.desk.attempts ∧
      (client.handleConnection event).2.phase = client.phase := by
  cases event with
  | connected endpoint => simp [handleConnection]
  | payload octets => exact handlePayload_quiet octets client
  | disconnected => simp [handleConnection]
  | transportError detail => simp [handleConnection]

/-- Whatever event is handled, the phase tells what was tried. -/
theorem handle_spoken (event : Event) {client : Client σ}
    (h : client.phase.Spoken client.desk.attempts) :
    (client.handle event).2.phase.Spoken (client.handle event).2.desk.attempts := by
  cases event with
  | trigger => simpa [handle, trigger] using h.trigger
  | shutdown => exact h
  | connection event =>
      obtain ⟨attempts, phase⟩ := client.handleConnection_quiet event
      simp only [handle, attempts, phase]
      exact h

theorem run_spoken (queue : List Event) {client : Client σ}
    (h : client.phase.Spoken client.desk.attempts) :
    (client.run queue).2.phase.Spoken (client.run queue).2.desk.attempts := by
  induction queue generalizing client with
  | nil => exact h
  | cons event rest ih =>
      have handled := handle_spoken event h
      unfold run
      split
      · rename_i next eq
        rw [eq] at handled
        exact ih handled
      · rename_i next eq
        rwa [eq] at handled

/-- Teardown tries `stop`, whatever was tried before. -/
theorem attempts_teardown (client : Client σ) :
    client.teardown.attempts = client.desk.attempts ++ [.stop] := by
  unfold teardown
  rw [Phase.teardown_eq]
  split <;>
    (rename_i eq
     obtain ⟨-, rfl⟩ := Prod.mk.inj eq
     simp [Desk.attempts, Desk.record, List.filterMap_cons, Act.tried?])

end Client

/-! ### The language of a session -/

/-- The octets of the commands that were handed to the connection. -/
def Desk.octets {σ : Type} (desk : Desk σ) : List UInt8 :=
  desk.attempts.flatMap Command.encode

/-- The octets of a whole session: `stop` alone, or `start`, reviews and `stop`. -/
def IsSession (octets : List UInt8) : Prop :=
  octets = [3] ∨ ∃ reviews, octets = 1 :: (List.replicate reviews 2 ++ [3])

/-- What a grader may rely on in the octets that it has read. -/
structure Orderly (octets : List UInt8) : Prop where
  decodes : ∀ octet ∈ octets, ∃ command, Command.decode octet = .ok command
  review_after_start : ∀ before after, octets = before ++ 2 :: after → before.head? = some 1
  stop_last : ∀ before after, octets = before ++ 3 :: after → after = []

/-- Whatever was tried before it, `stop` completes a session. -/
theorem Phase.Spoken.isSession {phase : Phase} {tried : List Command} (h : phase.Spoken tried) :
    IsSession ((tried ++ [Command.stop]).flatMap Command.encode) := by
  cases phase with
  | notStarted =>
      subst h
      exact Or.inl rfl
  | started =>
      obtain ⟨reviews, rfl⟩ := h
      refine Or.inr ⟨reviews, ?_⟩
      simp [List.flatMap_replicate, Command.encode, Command.octet]

namespace IsSession

variable {octets heard : List UInt8}

theorem mem_cases (h : IsSession octets) {octet : UInt8} (mem : octet ∈ octets) :
    octet = 1 ∨ octet = 2 ∨ octet = 3 := by
  rcases h with rfl | ⟨reviews, rfl⟩
  · exact Or.inr (Or.inr (List.mem_singleton.mp mem))
  · simp only [List.mem_cons, List.mem_append, List.mem_replicate, List.not_mem_nil] at mem
    rcases mem with start | ⟨-, review⟩ | stop | none
    · exact Or.inl start
    · exact Or.inr (Or.inl review)
    · exact Or.inr (Or.inr stop)
    · exact none.elim

/-- Only the last octet of a session is `stop`. -/
theorem eq_concat (h : IsSession octets) : ∃ before, octets = before ++ [3] ∧ 3 ∉ before := by
  rcases h with rfl | ⟨reviews, rfl⟩
  · exact ⟨[], rfl, List.not_mem_nil⟩
  · refine ⟨1 :: List.replicate reviews 2, rfl, ?_⟩
    simp [List.mem_replicate]

theorem head_of_review (h : IsSession octets) {before after : List UInt8}
    (eq : octets = before ++ 2 :: after) : before.head? = some 1 := by
  rcases h with rfl | ⟨reviews, rfl⟩ <;> cases before with
  | nil => simp at eq
  | cons first rest => simp_all

theorem nil_of_stop (h : IsSession octets) {before after : List UInt8}
    (eq : octets = before ++ 3 :: after) : after = [] := by
  obtain ⟨reviews, rfl, none⟩ := h.eq_concat
  rcases List.append_eq_append_iff.mp eq with ⟨between, rfl, rest⟩ | ⟨between, rfl, rest⟩
  · cases between with
    | nil => simpa using rest.symm
    | cons first between => simp_all
  · cases between with
    | nil => simpa using rest
    | cons first between => simp_all

/-- A grader that has read the beginning of a session has read something orderly. -/
theorem orderly (h : IsSession octets) (begins : heard <+: octets) : Orderly heard := by
  obtain ⟨rest, rfl⟩ := begins
  refine ⟨fun octet mem => ?_, fun before after eq => ?_, fun before after eq => ?_⟩
  · rcases h.mem_cases (List.mem_append_left rest mem) with rfl | rfl | rfl
    · exact ⟨.start, rfl⟩
    · exact ⟨.review, rfl⟩
    · exact ⟨.stop, rfl⟩
  · have longer : heard ++ rest = before ++ 2 :: (after ++ rest) := by
      rw [eq, List.append_assoc, List.cons_append]
    exact h.head_of_review longer
  · have longer : heard ++ rest = before ++ 3 :: (after ++ rest) := by
      rw [eq, List.append_assoc, List.cons_append]
    exact (List.append_eq_nil_iff.mp (h.nil_of_stop longer)).1

end IsSession

/-! ### A sitting on a busy line -/

section Sitting

variable {η : Type} [Surroundings η]

/-- The line carries what was tried, and no act of a client ends that. -/
theorem Desk.carries_kept :
    Desk.Kept fun desk : Desk (BusyLine η) => desk.surroundings.Carries desk.octets where
  note act quiet _ carried := by
    simpa only [octets, attempts_note, surroundings_note, quiet, Option.toList_none,
      List.append_nil] using carried
  saveAll carried := ⟨carried.reach_begins, carried.reach_eq⟩
  record _ carried := ⟨carried.reach_begins, carried.reach_eq⟩
  transmit {desk} command carried := by
    have sent := carried.transmit command
    have tried : (desk.transmit command).2.octets = desk.octets ++ command.encode := by
      rw [octets, transmit, attempts_note, List.flatMap_append]
      exact congrArg _ (List.append_nil _)
    rw [tried]
    exact sent

/-- A client wires its host once: no act but the wiring itself is one. -/
theorem Desk.wirings_kept (wirings : Nat) :
    Desk.Kept fun desk : Desk σ => desk.wirings = wirings where
  note act _ other kept := by
    rw [Desk.wirings, acts_note, List.count_append, List.count_singleton, if_neg]
    · exact kept
    · simpa using other
  saveAll kept := kept
  record _ kept := kept
  transmit command kept := by
    simpa [Desk.wirings, Desk.transmit, List.count_append, List.count_singleton] using kept

/-- Why a client does not get a connection. -/
def refused? (endpoint : Except Failure Path) (refusal : Path → Option Failure) : Option Failure :=
  match endpoint with
  | .error failure => some failure
  | .ok path => refusal path

/-- A sitting that gets no connection tells the reviewer so, and does nothing else. Any other
sitting wires the host once and speaks a whole session, of which the grader can only ever read a
beginning, whatever happens on the line in the meantime and afterwards. -/
theorem serve_speaks_session_language (endpoint : Except Failure Path)
    (refusal : Path → Option Failure) (queue : List Event) (line : BusyLine η) :
    match refused? endpoint refusal with
    | some failure =>
        ∃ desk, Client.serve endpoint (BusyLine.connect refusal) BusyLine.hangUp queue
            { surroundings := line } = .error (failure, desk) ∧
          desk.acts = [.complained failure.message] ∧ desk.surroundings = line
    | none =>
        ∃ left desk, Client.serve endpoint (BusyLine.connect refusal) BusyLine.hangUp queue
            { surroundings := line } = .ok (left, desk) ∧
          desk.wirings = 1 ∧ IsSession desk.octets ∧
          desk.surroundings.stream.client.speaks = false ∧
          desk.surroundings.stream.client.listens = false ∧
          ∀ later, (desk.surroundings.performAll later).taken <+: desk.octets ∧
            Orderly (desk.surroundings.performAll later).taken := by
  cases endpoint with
  | error failure => exact ⟨_, rfl, rfl, rfl⟩
  | ok path =>
      cases refuses : refusal path with
      | some failure =>
          simp only [refused?, refuses]
          refine ⟨({ surroundings := line } : Desk (BusyLine η)).complain failure.message,
            ?_, rfl, rfl⟩
          simp only [Client.serve, Client.activate, BusyLine.connect, refuses]
      | none =>
          simp only [refused?, refuses, Client.serve, Client.activate, BusyLine.connect]
          let client : Client (BusyLine η) :=
            { desk := { surroundings := { line with stream := {}, taken := [] } } }
          have fresh : client.wire.desk.surroundings.Carries client.wire.desk.octets :=
            ⟨List.prefix_rfl, fun _ => rfl⟩
          have carried := Client.teardown_kept Desk.carries_kept
            (Client.run_kept Desk.carries_kept queue fresh)
          have wired := Client.teardown_kept (Desk.wirings_kept 1)
            (Client.run_kept (Desk.wirings_kept 1) queue (rfl : client.wire.desk.wirings = 1))
          have silent : client.wire.phase.Spoken client.wire.desk.attempts := rfl
          have spoken := (Client.run_spoken queue silent).isSession
          rw [← Client.attempts_teardown] at spoken
          refine ⟨_, _, rfl, wired, spoken, rfl, rfl, fun later => ?_⟩
          have heard := ((List.prefix_append _ _).trans
            (carried.hangUp.performAll later).reach_begins)
          exact ⟨heard, IsSession.orderly spoken heard⟩

end Sitting

end ReviewChannel
