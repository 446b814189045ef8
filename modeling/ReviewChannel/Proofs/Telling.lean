import ReviewChannel.Proofs.Noninterference

/-!
What a reviewer is told while a client handles events: every failure, once and in full, and nothing
that is none.

* `Response.failure?`, `Response.news?` — the one failure and the one piece of news that an event
  can bring, in their words; `Response.errors_acts`, `Response.infos_acts` — these are told.
* `Reply.GivenBy`, `Response.Follows` — what happened in an event, from the events before it and the
  answers of the surroundings at that time (`Client.follows_responses`).
* `Response.announces` — a command is announced right before it is tried, whether or not it gets
  through.
* `Client.every_failure_told` — all of that for any calls of a new client, and for its teardown.
-/

namespace ReviewChannel

/-! ### What there is to tell -/

/-- What a reviewer is told of a save that failed: all that is behind the failure. -/
def SaveFailure.line (failure : SaveFailure) : String :=
  "Unable to save all files: " ++ ": ".intercalate (failure.summary :: failure.causes)

/-- What a reviewer is told of a command that did not get through. -/
def Command.unsentLine (command : Command) (cause : SystemError) : String :=
  s!"failed to send {command.label} command: {cause.message}"

namespace Response

/-- The failure that an event brought, as the reviewer has to be told of it. -/
def failure? : Response → Option String
  | triggered (.unsaved failure) => some failure.line
  | triggered (.atOnce command write) | triggered (.afterSave command write) =>
      write.map command.unsentLine
  | delivered _ (.payload octets) =>
      let text := Utf8.decodeLossy octets
      if Message.isReserved text ∧ octets ≠ Message.stopOctets then
        some s!"invalid command received: {text}"
      else none
  | delivered _ .disconnected => some "Grader closed the connection"
  | delivered _ (.transportError detail) => some s!"grader connection failed: {detail}"
  | delivered _ (.connected _) | shutDown => none

/-- What an event brought that is no failure, as the reviewer has to be told of it. -/
def news? : Response → Option String
  | triggered (.atOnce command _) => some s!"Sending {command.label} command"
  | triggered (.afterSave ..) => some "Posting review"
  | triggered (.unsaved _) => none
  | delivered _ (.connected _) => some "Connected to grader"
  | delivered terminated (.payload octets) =>
      let text := Utf8.decodeLossy octets
      if octets = Message.stopOctets then if terminated then none else some stopLine
      else if Message.isReserved text then none
      else some (studentLine text)
  | delivered _ .disconnected | delivered _ (.transportError _) | shutDown => none

/-- The command that an event made a client try to send. -/
def attempt? : Response → Option Command
  | triggered (.atOnce command _) | triggered (.afterSave command _) => some command
  | triggered (.unsaved _) | shutDown | delivered .. => none

end Response

/-! ### What is told -/

theorem Message.classify_of_reserved {octets : List UInt8}
    (reserved : isReserved (Utf8.decodeLossy octets) = true) (other : octets ≠ stopOctets) :
    classify octets = .malformed (Utf8.decodeLossy octets) := by
  have undirected := mt classify_eq_stopDirective_iff.mp other
  simp only [classify, ofText, reserved, if_true] at undirected ⊢
  split at undirected
  · exact absurd rfl undirected
  · rename_i unlike
    exact if_neg unlike

theorem Message.classify_of_not_reserved {octets : List UInt8}
    (free : ¬ isReserved (Utf8.decodeLossy octets) = true) :
    classify octets = .identifier (Utf8.decodeLossy octets) :=
  if_neg free

namespace Response

/-- What a payload brings is what is done about its message. -/
theorem told_payload (terminated : Bool) (octets : List UInt8) :
    ((Message.classify octets).acts terminated).filterMap Act.error? =
        (delivered terminated (.payload octets)).failure?.toList ∧
      ((Message.classify octets).acts terminated).filterMap Act.info? =
        (delivered terminated (.payload octets)).news?.toList := by
  by_cases stop : octets = Message.stopOctets
  · have directive := Message.classify_eq_stopDirective_iff.mpr stop
    have harmless : ¬ (Message.isReserved (Utf8.decodeLossy octets) = true ∧
        octets ≠ Message.stopOctets) := fun reserved => reserved.2 stop
    simp only [directive, failure?, news?, if_neg harmless, if_pos stop]
    cases terminated <;> exact ⟨rfl, rfl⟩
  · by_cases reserved : Message.isReserved (Utf8.decodeLossy octets) = true
    · have malformed := Message.classify_of_reserved reserved stop
      simp only [malformed, failure?, news?, if_pos (And.intro reserved stop), if_neg stop,
        if_pos reserved]
      exact ⟨rfl, rfl⟩
    · have identifier := Message.classify_of_not_reserved reserved
      have harmless : ¬ (Message.isReserved (Utf8.decodeLossy octets) = true ∧
          octets ≠ Message.stopOctets) := fun both => reserved both.1
      simp only [identifier, failure?, news?, if_neg harmless, if_neg stop, if_neg reserved]
      exact ⟨rfl, rfl⟩

/-- The reviewer is told of the failure that an event brought, and of no other. -/
theorem errors_acts (response : Response) :
    response.acts.filterMap Act.error? = response.failure?.toList := by
  cases response with
  | triggered reply =>
      rw [acts, List.filterMap_append, reply.errors_acts]
      cases reply with
      | atOnce command write => exact List.append_nil _
      | unsaved failure => rfl
      | afterSave command write => exact List.append_nil _
  | shutDown => rfl
  | delivered terminated event =>
      cases event with
      | payload octets => exact (told_payload terminated octets).1
      | connected endpoint => rfl
      | disconnected => rfl
      | transportError detail => rfl

/-- The reviewer is told of what an event brought that is no failure, and of nothing else. -/
theorem infos_acts (response : Response) :
    response.acts.filterMap Act.info? = response.news?.toList := by
  cases response with
  | triggered reply =>
      cases reply with
      | atOnce command write => cases write <;> rfl
      | unsaved failure => rfl
      | afterSave command write => cases write <;> rfl
  | shutDown => rfl
  | delivered terminated event =>
      cases event with
      | payload octets => exact (told_payload terminated octets).2
      | connected endpoint => rfl
      | disconnected => rfl
      | transportError detail => rfl

theorem attempts_acts (response : Response) :
    response.acts.filterMap Act.tried? = response.attempt?.toList := by
  cases response with
  | triggered reply =>
      cases reply with
      | atOnce command write => cases write <;> rfl
      | unsaved failure => rfl
      | afterSave command write => cases write <;> rfl
  | shutDown => rfl
  | delivered terminated event =>
      cases event with
      | payload octets =>
          simp only [acts, ConnectionEvent.acts]
          generalize Message.classify octets = message
          cases message with
          | identifier id => rfl
          | malformed text => rfl
          | stopDirective => cases terminated <;> rfl
      | connected endpoint => rfl
      | disconnected => rfl
      | transportError detail => rfl

/-- A view of what was done, response by response, if each has at most one act in it. -/
theorem filterMap_flatMap_acts {α : Type} {view : Act → Option α} {part : Response → Option α}
    (each : ∀ response, response.acts.filterMap view = (part response).toList)
    (responses : List Response) :
    (responses.flatMap acts).filterMap view = responses.filterMap part := by
  rw [List.filterMap_flatMap, List.filterMap_eq_flatMap_toList]
  simp only [each]

end Response

/-! ### What happened -/

/-- How the surroundings answer a trigger. The first one of a session sends `start` at once; each
later one saves, and sends a review if everything could be saved. -/
inductive Reply.GivenBy {σ : Type} [Surroundings σ] (s : σ) (first : Bool) : Reply → Prop where
  | starts {write : Option SystemError} (fresh : first = true)
      (sent : ReviewChannel.failure? (Surroundings.transmit .start s).1 = write) :
      GivenBy s first (.atOnce .start write)
  | unsaved {failure : SaveFailure} (later : first = false)
      (refused : (Surroundings.saveAll s).1 = .error failure) : GivenBy s first (.unsaved failure)
  | posts {write : Option SystemError} (later : first = false)
      (saved : (Surroundings.saveAll s).1 = .ok ())
      (sent : ReviewChannel.failure?
        (Surroundings.transmit .review (Surroundings.saveAll s).2).1 = write) :
      GivenBy s first (.afterSave .review write)

/-- A response to an event that was handled after others, in the surroundings as they were then. -/
def Response.Follows {σ : Type} [Surroundings σ] (before : List Event) (now : σ) :
    Response → Prop
  | triggered reply => reply.GivenBy now (decide (.trigger ∉ before))
  | delivered terminated _ => terminated = decide (stopEvent ∈ before)
  | shutDown => True

theorem Reply.givenBy_ask {σ : Type} [Surroundings σ] (phase : Phase) (s : σ) :
    (ask phase s).1.GivenBy s (decide (phase = .notStarted)) := by
  cases phase with
  | notStarted => exact .starts rfl rfl
  | started =>
      unfold ask
      simp only [transition]
      cases answered : Surroundings.saveAll s with
      | mk answer later =>
          cases answer with
          | ok _ =>
              refine .posts rfl (congrArg Prod.fst answered) ?_
              rw [answered]
          | error failure => exact .unsaved rfl (congrArg Prod.fst answered)

/-! ### What is told before a command is tried -/

/-- What the reviewer is told before a command is tried. -/
def Command.announcement : Command → String
  | .review => "Posting review"
  | command => s!"Sending {command.label} command"

/-- A command is announced right before it is tried, also if it does not get through. -/
theorem Response.Follows.announces {σ : Type} [Surroundings σ] {before : List Event} {now : σ}
    {response : Response} (follows : response.Follows before now) (command : Command)
    (write : Option SystemError) :
    BeforeEach (.tried command write) ([.informed command.announcement] <:+ ·) response.acts := by
  have quiet (none : ∀ act ∈ response.acts, act.tried? = none) :
      BeforeEach (.tried command write) ([.informed command.announcement] <:+ ·) response.acts :=
    .of_not_mem fun tried => nomatch none _ tried
  cases response with
  | shutDown => exact quiet (by simp [acts])
  | delivered terminated event =>
      refine quiet fun act mem => ?_
      have none := List.filterMap_eq_nil_iff.mp (attempts_acts (.delivered terminated event))
      exact none act mem
  | triggered reply =>
      -- An act that hands over a command comes right after its announcement, or is not done at all.
      have once (sent : Command) (answer : Option SystemError) (lead rest : List Act)
          (is : (Response.triggered reply).acts = lead ++ .tried sent answer :: rest)
          (announced : [.informed sent.announcement] <:+ lead)
          (before : ∀ act ∈ lead, act.tried? = none) (after : ∀ act ∈ rest, act.tried? = none) :
          BeforeEach (.tried command write) ([.informed command.announcement] <:+ ·)
            (Response.triggered reply).acts := by
        rw [is]
        by_cases same : Act.tried command write = .tried sent answer
        · obtain ⟨rfl, rfl⟩ := Act.tried.inj same
          exact .of_once announced (fun mem => nomatch before _ mem)
            fun mem => nomatch after _ mem
        · refine .of_not_mem fun mem => ?_
          rcases List.mem_append.mp mem with early | late
          · cases before _ early
          · rcases List.mem_cons.mp late with here | later
            · exact same here
            · cases after _ later
      cases follows with
      | @starts answer =>
          refine once .start answer [_] _ rfl (List.suffix_refl _) ?_ ?_
          · simp [Act.tried?]
          · cases answer <;> simp [Act.tried?]
      | @unsaved failure => exact quiet (by simp [acts, Reply.acts, Act.tried?])
      | @posts answer =>
          refine once .review answer [.saved none, _] _ rfl (List.suffix_cons _ _) ?_ ?_
          · simp [Act.tried?]
          · cases answer <;> simp [Act.tried?]

namespace Client

variable {σ : Type} [Surroundings σ]

/-- The `i`-th response is the one to the `i`-th event, after those before it. -/
theorem getElem?_responses (events : List Event) (client : Client σ) (i : Nat) :
    (client.responses events)[i]? =
      events[i]?.map (client.handleAll (events.take i)).response := by
  induction events generalizing client i with
  | nil => rfl
  | cons event rest ih =>
      cases i with
      | zero => rfl
      | succ i => exact ih (client.handle event).2 i

/-- The responses are what happened, each after the events before it. -/
theorem follows_responses (desk : Desk σ) (events : List Event) {i : Nat} {response : Response}
    (there : (responses events { desk })[i]? = some response) :
    response.Follows (events.take i)
      (handleAll (events.take i) { desk }).desk.surroundings := by
  rw [getElem?_responses] at there
  obtain ⟨event, -, rfl⟩ := Option.map_eq_some_iff.mp there
  generalize events.take i = before
  cases event with
  | shutdown => trivial
  | connection event =>
      have knows := terminated_handleAll before { desk : Client σ }
      refine Bool.eq_iff_iff.mpr (knows.trans ?_)
      simp
  | trigger =>
      have phase := phase_handleAll before { desk : Client σ }
      have given := Reply.givenBy_ask (handleAll before { desk : Client σ }).phase
        (handleAll before { desk : Client σ }).desk.surroundings
      have first : ((handleAll before { desk : Client σ }).phase = .notStarted) =
          (.trigger ∉ before) := by
        rw [phase, Phase.afterTriggers]
        simp [List.count_eq_zero]
      simp only [first] at given
      exact given

/-- Whatever calls are made of a new client, and however saves and writes are answered:

* each event that is handled brings at most one failure and one piece of news, according to what
  happened in it, and what the reviewer is told are these failures and this news, in order;
* what happened in an event follows from the events before it and from the answers that the
  surroundings then gave: the first trigger sends `start`, each later one saves, and sends a review
  if that worked, and the stop directive is news the first time;
* the commands that were tried are those of the triggers, each one announced right before;
* teardown tells nothing. -/
theorem every_failure_told (desk : Desk σ) (calls : List Call) :
    let client : Client σ := { desk }
    let handled := calls.flatMap Call.events
    let called := client.callAll calls
    ∃ responses : List Response,
      called.desk.errors = desk.errors ++ responses.filterMap Response.failure? ∧
      called.desk.infos = desk.infos ++ responses.filterMap Response.news? ∧
      responses.map Response.event = handled ∧
      (∀ (i : Nat) (response : Response), responses[i]? = some response →
        response.Follows (handled.take i)
          (client.handleAll (handled.take i)).desk.surroundings) ∧
      called.desk.attempts = desk.attempts ++ responses.filterMap Response.attempt? ∧
      (∃ added, called.desk.acts = desk.acts ++ added ∧
        ∀ before command write after, added = before ++ .tried command write :: after →
          [.informed command.announcement] <:+ before) ∧
      called.teardown.errors = called.desk.errors ∧ called.teardown.infos = called.desk.infos := by
  intro client handled called
  have all : called = client.handleAll handled := client.callAll_eq calls
  have acts : called.desk.acts = desk.acts ++ (client.responses handled).flatMap Response.acts := by
    rw [all, acts_handleAll]
  have follows (i : Nat) (response : Response)
      (there : (client.responses handled)[i]? = some response) :=
    follows_responses desk handled there
  refine ⟨client.responses handled, ?_, ?_, client.map_event_responses handled,
    follows, ?_, ⟨_, acts, ?_⟩, ?_, ?_⟩
  · rw [Desk.errors, acts, List.filterMap_append,
      Response.filterMap_flatMap_acts Response.errors_acts]
    rfl
  · rw [Desk.infos, acts, List.filterMap_append,
      Response.filterMap_flatMap_acts Response.infos_acts]
    rfl
  · rw [Desk.attempts, acts, List.filterMap_append,
      Response.filterMap_flatMap_acts Response.attempts_acts]
    rfl
  · intro before command write
    refine BeforeEach.flatMap_suffix (fun response mem => ?_) before
    obtain ⟨i, there⟩ := List.getElem?_of_mem mem
    exact (follows i response there).announces command write
  · rw [Desk.errors, teardown_eq, List.filterMap_append]
    exact List.append_nil _
  · rw [Desk.infos, teardown_eq, List.filterMap_append]
    exact List.append_nil _

end Client

end ReviewChannel
