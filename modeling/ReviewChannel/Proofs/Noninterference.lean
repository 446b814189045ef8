import ReviewChannel.Proofs.SingleEnding

/-!
What the connection delivers does not touch the session.

* `handledOf_begins`, `handledOf_ends` — a run handles the events up to the first one that ends it.
* `Reply.due` — the reply that the table has for a trigger, given how the next save and the next
  command are answered; a trigger gets it whatever the surroundings are (`Reply.ask_eq_due`).
* `AnsweredBy` — what was done was answered by number: the `i`-th save and the `i`-th command got
  these answers.
* `Reply.eq_of_answeredBy` — triggers that are answered by the same numbers get the same replies.
* `Oracle` — surroundings that have their answers by number, whatever those are: what a client does
  there is answered by number (`Client.answeredBy_deeds`).
* `Client.run_noninterference` — so two runs with equally many triggers ask for the same saves and
  commands, whatever else they handle and in whatever order.
-/

namespace ReviewChannel

/-! ### Where a run ends -/

/-- The event ends a run: a request to shut down, or the stop directive. -/
def Event.EndsRun (event : Event) : Prop :=
  event = .shutdown ∨ event = stopEvent

theorem Event.exits_iff (event : Event) : event.exits = true ↔ event.EndsRun := by
  cases event with
  | trigger => simp [exits, EndsRun, stopEvent]
  | shutdown => simp [exits, EndsRun]
  | connection event =>
      cases event with
      | connected endpoint => simp [exits, EndsRun, stopEvent]
      | disconnected => simp [exits, EndsRun, stopEvent]
      | transportError detail => simp [exits, EndsRun, stopEvent]
      | payload octets =>
          have spelling : EndsRun (.connection (.payload octets)) ↔
              Message.classify octets = .stopDirective := by
            simp [EndsRun, stopEvent, Message.classify_eq_stopDirective_iff]
          rw [spelling, exits]
          generalize Message.classify octets = message
          cases message <;> simp [Message.exits]

/-- What is handled begins the queue, and all of the queue is handled unless the last event that is
handled ends the run. -/
theorem handledOf_begins (queue : List Event) :
    handledOf queue <+: queue ∧
      (handledOf queue ≠ queue →
        ∃ before event, handledOf queue = before ++ [event] ∧ event.EndsRun) := by
  induction queue with
  | nil => exact ⟨List.prefix_rfl, fun all => absurd rfl all⟩
  | cons event rest ih =>
      obtain ⟨begins, last⟩ := ih
      rw [handledOf]
      by_cases exits : event.exits = true
      · rw [if_pos exits]
        exact ⟨⟨rest, rfl⟩, fun _ => ⟨[], event, rfl, event.exits_iff.mp exits⟩⟩
      · rw [if_neg exits]
        refine ⟨List.cons_prefix_cons.mpr ⟨rfl, begins⟩, fun partly => ?_⟩
        obtain ⟨before, final, handled, ends⟩ := last fun all => partly (congrArg _ all)
        exact ⟨event :: before, final, congrArg _ handled, ends⟩

/-- Nothing is handled after an event that ends the run. -/
theorem handledOf_ends {queue before after : List Event} {event : Event}
    (handled : handledOf queue = before ++ event :: after) (ends : event.EndsRun) :
    after = [] := by
  induction queue generalizing before with
  | nil => cases before <;> cases handled
  | cons first rest ih =>
      rw [handledOf] at handled
      by_cases exits : first.exits = true
      · rw [if_pos exits] at handled
        cases before with
        | nil => exact (List.cons.inj handled).2.symm
        | cons b before => cases before <;> cases (List.cons.inj handled).2
      · rw [if_neg exits] at handled
        cases before with
        | nil =>
            obtain ⟨rfl, -⟩ := List.cons.inj handled
            exact absurd (first.exits_iff.mpr ends) exits
        | cons b before => exact ih (List.cons.inj handled).2

/-! ### Answers by number -/

/-- Whether the act asks for an answer: a save, or a command that is handed over. -/
def Act.isRequest : Act → Bool
  | saved _ | tried .. => true
  | informed _ | complained _ | wired | ended | recorded _ => false

/-- The answer to the act, if it handed over a command. -/
def Act.write? : Act → Option (Option SystemError)
  | tried _ failure => some failure
  | _ => none

namespace Act

variable {xs ys : List Act}

/-- A view that shows nothing but requests. -/
theorem filterMap_of_requests {α : Type} {view : Act → Option α}
    (quiet : ∀ act, act.isRequest = false → view act = none)
    (same : xs.filter isRequest = ys.filter isRequest) :
    xs.filterMap view = ys.filterMap view := by
  have only (acts : List Act) : acts.filterMap view = (acts.filter isRequest).filterMap view := by
    rw [List.filterMap_filter]
    refine congrArg (acts.filterMap ·) (funext fun act => ?_)
    by_cases request : act.isRequest = true
    · rw [if_pos request]
    · rw [if_neg request, quiet act (Bool.eq_false_iff.mpr request)]
  rw [only xs, same, ← only ys]

theorem saves_of_requests (same : xs.filter isRequest = ys.filter isRequest) :
    xs.filterMap save? = ys.filterMap save? :=
  filterMap_of_requests (by intro act quiet; cases act <;> first | rfl | cases quiet) same

theorem writes_of_requests (same : xs.filter isRequest = ys.filter isRequest) :
    xs.filterMap write? = ys.filterMap write? :=
  filterMap_of_requests (by intro act quiet; cases act <;> first | rfl | cases quiet) same

end Act

/-- These are the answers with the numbers from 0 on. -/
def Numbered {α : Type} (answers : Nat → α) (given : List α) : Prop :=
  ∀ i answer, given[i]? = some answer → answer = answers i

theorem numbered_append {α : Type} {answers : Nat → α} {xs ys : List α} :
    Numbered answers (xs ++ ys) ↔
      Numbered answers xs ∧ Numbered (fun i => answers (xs.length + i)) ys := by
  constructor
  · intro all
    constructor
    · intro i answer there
      obtain ⟨early, -⟩ := List.getElem?_eq_some_iff.mp there
      exact all i answer ((List.getElem?_append_left early).trans there)
    · intro i answer there
      refine all _ answer ?_
      rw [List.getElem?_append_right (Nat.le_add_right ..), Nat.add_sub_cancel_left, there]
  · rintro ⟨first, later⟩ i answer there
    by_cases early : i < xs.length
    · exact first i answer ((List.getElem?_append_left early).symm.trans there)
    · have late := Nat.le_of_not_lt early
      rw [List.getElem?_append_right late] at there
      exact (later _ answer there).trans (congrArg answers (Nat.add_sub_cancel' late))

/-- What was done was answered by number: the `i`-th save, and the `i`-th command. -/
structure AnsweredBy (saves : Nat → Option SaveFailure) (sends : Nat → Option SystemError)
    (acts : List Act) : Prop where
  saves_eq : Numbered saves (acts.filterMap Act.save?)
  sends_eq : Numbered sends (acts.filterMap Act.write?)

namespace AnsweredBy

variable {saves : Nat → Option SaveFailure} {sends : Nat → Option SystemError}
  {xs ys : List Act}

/-- Only the requests matter. -/
theorem of_requests (h : AnsweredBy saves sends xs)
    (same : xs.filter Act.isRequest = ys.filter Act.isRequest) : AnsweredBy saves sends ys := by
  constructor
  · rw [← Act.saves_of_requests same]
    exact h.saves_eq
  · rw [← Act.writes_of_requests same]
    exact h.sends_eq

/-- What is done later is answered by the later numbers. -/
theorem append_iff : AnsweredBy saves sends (xs ++ ys) ↔
    AnsweredBy saves sends xs ∧
      AnsweredBy (fun i => saves ((xs.filterMap Act.save?).length + i))
        (fun i => sends ((xs.filterMap Act.write?).length + i)) ys := by
  constructor
  · rintro ⟨saved, sent⟩
    rw [List.filterMap_append, numbered_append] at saved sent
    exact ⟨⟨saved.1, sent.1⟩, ⟨saved.2, sent.2⟩⟩
  · rintro ⟨⟨saved, sent⟩, ⟨saved', sent'⟩⟩
    constructor
    · rw [List.filterMap_append, numbered_append]
      exact ⟨saved, saved'⟩
    · rw [List.filterMap_append, numbered_append]
      exact ⟨sent, sent'⟩

end AnsweredBy

namespace Reply

/-- The reply to a trigger in a phase, given how the next save and the next command are answered. -/
def due (phase : Phase) (save : Option SaveFailure) (write : Option SystemError) : Reply :=
  match (transition phase .trigger).effect, save with
  | .send command, _ => .atOnce command write
  | .saveThenSend command, none => .afterSave command write
  | .saveThenSend _, some failure => .unsaved failure

theorem ask_eq_due {σ : Type} [Surroundings σ] (phase : Phase) (s : σ) :
    ∃ save write, (ask phase s).1 = due phase save write := by
  cases phase with
  | notStarted => exact ⟨none, _, rfl⟩
  | started =>
      have later := later_ask s
      generalize (ask .started s).1 = reply at later
      cases later with
      | unsaved failure => exact ⟨some failure, none, rfl⟩
      | reviewed write => exact ⟨none, write, rfl⟩

theorem filter_acts_due (phase : Phase) (save : Option SaveFailure)
    (write : Option SystemError) :
    (due phase save write).acts.filter Act.isRequest =
      match phase, save with
      | .notStarted, _ => [.tried .start write]
      | .started, none => [.saved none, .tried .review write]
      | .started, some failure => [.saved (some failure)] := by
  cases phase with
  | notStarted => cases write <;> rfl
  | started =>
      cases save with
      | none => cases write <;> rfl
      | some failure => rfl

/-- A reply that is answered by number is the one that is due for the next two answers. -/
theorem due_eq_of_answeredBy {phase : Phase} {save : Option SaveFailure}
    {write : Option SystemError} {saves : Nat → Option SaveFailure}
    {sends : Nat → Option SystemError} {later : List Act}
    (answered : AnsweredBy saves sends ((due phase save write).acts ++ later)) :
    due phase save write = due phase (saves 0) (sends 0) := by
  have requests : AnsweredBy saves sends
      ((due phase save write).acts.filter Act.isRequest ++ later) :=
    answered.of_requests (by simp)
  rw [filter_acts_due] at requests
  cases phase with
  | notStarted =>
      obtain rfl := requests.sends_eq 0 write rfl
      rfl
  | started =>
      cases save with
      | none =>
          have saved := requests.saves_eq 0 none rfl
          obtain rfl := requests.sends_eq 0 write rfl
          rw [← saved]
      | some failure =>
          have saved := requests.saves_eq 0 (some failure) rfl
          rw [← saved]
          rfl

/-- Replies to triggers, the first one in the given phase. -/
inductive Chain : Phase → List Reply → Prop where
  | nil {phase : Phase} : Chain phase []
  | cons {phase : Phase} (save : Option SaveFailure) (write : Option SystemError)
      {replies : List Reply} (later : Chain .started replies) :
      Chain phase (due phase save write :: replies)

/-- As many triggers that are answered by the same numbers get the same replies. -/
theorem eq_of_answeredBy {phase : Phase} {replies replies' : List Reply} {more more' : List Act}
    {saves : Nat → Option SaveFailure} {sends : Nat → Option SystemError}
    (chain : Chain phase replies) (chain' : Chain phase replies')
    (length : replies.length = replies'.length)
    (answered : AnsweredBy saves sends (replies.flatMap acts ++ more))
    (answered' : AnsweredBy saves sends (replies'.flatMap acts ++ more')) :
    replies = replies' := by
  induction chain generalizing replies' saves sends with
  | nil => exact (List.eq_nil_of_length_eq_zero length.symm).symm
  | cons save write later ih =>
      cases chain' with
      | nil => cases length
      | cons save' write' later' =>
          rw [List.flatMap_cons, List.append_assoc] at answered answered'
          have first := (due_eq_of_answeredBy answered).trans (due_eq_of_answeredBy answered').symm
          rw [first] at answered
          -- The first replies are one reply, so the numbers move on alike.
          have rest := AnsweredBy.append_iff.mp answered
          have rest' := AnsweredBy.append_iff.mp answered'
          rw [first, ih later' (Nat.succ_inj.mp length) rest.2 rest'.2]

end Reply

/-! ### Surroundings that answer by number -/

/-- Surroundings with the answers that they have for the saves and for the commands to come. -/
structure Oracle where
  saves : Nat → Option SaveFailure
  sends : Nat → Option SystemError

namespace Oracle

/-- What is left after a number of saves and of commands. -/
def skip (saved sent : Nat) (oracle : Oracle) : Oracle where
  saves i := oracle.saves (saved + i)
  sends i := oracle.sends (sent + i)

def answer {ε : Type} : Option ε → Except ε Unit
  | none => .ok ()
  | some failure => .error failure

theorem failure?_answer {ε : Type} (failure : Option ε) : failure? (answer failure) = failure := by
  cases failure <;> rfl

instance : Surroundings Oracle where
  saveAll oracle := (answer (oracle.saves 0), oracle.skip 1 0)
  transmit _ oracle := (answer (oracle.sends 0), oracle.skip 0 1)
  record _ oracle := oracle

/-- The oracle answers what is done, and this is what it has left. -/
def Answers (oracle : Oracle) (acts : List Act) (left : Oracle) : Prop :=
  AnsweredBy oracle.saves oracle.sends acts ∧
    left = oracle.skip (acts.filterMap Act.save?).length (acts.filterMap Act.write?).length

namespace Answers

variable {oracle left last : Oracle} {xs ys : List Act}

theorem append (first : oracle.Answers xs left) (later : left.Answers ys last) :
    oracle.Answers (xs ++ ys) last := by
  obtain ⟨answered, rfl⟩ := first
  obtain ⟨answered', rfl⟩ := later
  refine ⟨AnsweredBy.append_iff.mpr ⟨answered, answered'⟩, ?_⟩
  simp only [skip, List.filterMap_append, List.length_append, Nat.add_assoc]

/-- Only the requests are answered. -/
theorem of_requests (h : oracle.Answers xs left)
    (same : xs.filter Act.isRequest = ys.filter Act.isRequest) : oracle.Answers ys left := by
  obtain ⟨answered, rfl⟩ := h
  refine ⟨answered.of_requests same, ?_⟩
  rw [Act.saves_of_requests same, Act.writes_of_requests same]

theorem nothing (oracle : Oracle) : oracle.Answers [] oracle := by
  refine ⟨⟨?_, ?_⟩, ?_⟩
  · rintro i answer ⟨⟩
  · rintro i answer ⟨⟩
  · simp [skip]

theorem save (oracle : Oracle) : oracle.Answers [.saved (oracle.saves 0)] (oracle.skip 1 0) := by
  refine ⟨⟨?_, ?_⟩, rfl⟩
  · rintro (_ | i) answer ⟨⟩
    rfl
  · rintro i answer ⟨⟩

theorem send (command : Command) (oracle : Oracle) :
    oracle.Answers [.tried command (oracle.sends 0)] (oracle.skip 0 1) := by
  refine ⟨⟨?_, ?_⟩, rfl⟩
  · rintro i answer ⟨⟩
  · rintro (_ | i) answer ⟨⟩
    rfl

theorem ask (phase : Phase) (oracle : Oracle) :
    oracle.Answers (Reply.ask phase oracle).1.acts (Reply.ask phase oracle).2 := by
  cases phase with
  | notStarted =>
      have sent := send .start oracle
      refine sent.of_requests ?_
      have reply : (Reply.ask .notStarted oracle).1 = .due .notStarted none (oracle.sends 0) :=
        congrArg (Reply.atOnce .start) (failure?_answer _)
      rw [reply, Reply.filter_acts_due]
      rfl
  | started =>
      have saved := save oracle
      cases first : oracle.saves 0 with
      | none =>
          rw [first] at saved
          have sent := saved.append (send .review (oracle.skip 1 0))
          have asked : Reply.ask .started oracle = (.due .started none ((oracle.skip 1 0).sends 0),
              (oracle.skip 1 0).skip 0 1) := by
            simp only [Reply.ask, transition, Surroundings.saveAll, first, answer]
            simp only [Surroundings.transmit, failure?_answer]
            rfl
          rw [asked]
          refine sent.of_requests ?_
          rw [Reply.filter_acts_due]
          rfl
      | some failure =>
          rw [first] at saved
          have asked : Reply.ask .started oracle = (.unsaved failure, oracle.skip 1 0) := by
            simp only [Reply.ask, transition, Surroundings.saveAll, first, answer]
          rw [asked]
          exact saved.of_requests rfl

end Answers

end Oracle

/-! ### The session within a run -/

def Response.reply? : Response → Option Reply
  | triggered reply => some reply
  | shutDown | delivered .. => none

/-- Only replies to triggers ask for anything. -/
theorem Response.requests_acts (response : Response) :
    response.acts.filter Act.isRequest =
      (response.reply?.toList.flatMap Reply.acts).filter Act.isRequest := by
  cases response with
  | triggered reply => simp [acts, reply?, Act.isRequest]
  | shutDown => rfl
  | delivered terminated event =>
      cases event with
      | payload octets =>
          simp only [acts, ConnectionEvent.acts]
          generalize Message.classify octets = message
          cases message with
          | identifier id => rfl
          | malformed text => rfl
          | stopDirective => cases terminated <;> rfl
      | connected endpoint => rfl
      | disconnected => rfl
      | transportError detail => rfl

namespace Client

variable {σ τ : Type} [Surroundings σ] [Surroundings τ]

/-- The replies to the triggers among the events that a client handles. -/
def replies (events : List Event) (client : Client σ) : List Reply :=
  (client.responses events).filterMap Response.reply?

/-- What a trigger comes to, if the event is one. -/
def outcome? (client : Client σ) : Event → Option TriggerOutcome
  | .trigger => some client.trigger.1
  | .shutdown | .connection _ => none

/-- What the triggers among the events that a client handles come to. -/
def outcomes : List Event → Client σ → List TriggerOutcome
  | [], _ => []
  | event :: rest, client =>
      (client.outcome? event).toList ++ outcomes rest (client.handle event).2

/-- What a client does when it runs over a queue and is then torn down. -/
def deeds (queue : List Event) (client : Client σ) : List Act :=
  (client.run queue).2.teardown.acts.drop client.desk.acts.length

theorem replies_cons (event : Event) (rest : List Event) (client : Client σ) :
    client.replies (event :: rest) =
      (client.response event).reply?.toList ++ (client.handle event).2.replies rest := by
  rw [replies, responses, List.filterMap_cons]
  cases (client.response event).reply? <;> rfl

theorem requests_responses (events : List Event) (client : Client σ) :
    ((client.responses events).flatMap Response.acts).filter Act.isRequest =
      ((client.replies events).flatMap Reply.acts).filter Act.isRequest := by
  induction events generalizing client with
  | nil => rfl
  | cons event rest ih =>
      rw [replies_cons, List.flatMap_append, List.filter_append, ← Response.requests_acts, ← ih,
        responses, List.flatMap_cons, List.filter_append]

theorem length_replies (events : List Event) (client : Client σ) :
    (client.replies events).length = events.count .trigger := by
  induction events generalizing client with
  | nil => rfl
  | cons event rest ih =>
      rw [replies_cons, List.length_append, ih, List.count_cons, Nat.add_comm]
      cases event <;> rfl

/-- A client gets the outcomes of its replies. -/
theorem outcomes_eq (events : List Event) (client : Client σ) :
    client.outcomes events = (client.replies events).map Reply.outcome := by
  induction events generalizing client with
  | nil => rfl
  | cons event rest ih =>
      have first : (client.outcome? event).toList =
          (client.response event).reply?.toList.map Reply.outcome := by
        cases event with
        | trigger =>
            rw [outcome?, trigger_eq]
            rfl
        | shutdown => rfl
        | connection event => rfl
      rw [outcomes, replies_cons, List.map_append, ih, first]

/-- Only a trigger moves the session. -/
theorem phase_handle (client : Client σ) (event : Event) :
    (client.handle event).2.phase = if event = .trigger then .started else client.phase := by
  cases event with
  | trigger =>
      rw [handle, trigger_eq]
      rfl
  | shutdown => rfl
  | connection event =>
      rw [if_neg (by simp)]
      exact (client.handleConnection_quiet event).2

theorem phase_handleAll (events : List Event) (client : Client σ) :
    (client.handleAll events).phase = client.phase.afterTriggers (events.count .trigger) := by
  induction events generalizing client with
  | nil => rfl
  | cons event rest ih =>
      have later := ih (client.handle event).2
      rw [phase_handle] at later
      refine Eq.trans later ?_
      rw [List.count_cons, Phase.afterTriggers, Phase.afterTriggers]
      by_cases trigger : event = .trigger
      · simp [trigger]
      · simp [trigger]

/-- The replies are those of the table. -/
theorem chain_replies (events : List Event) (client : Client σ) :
    Reply.Chain client.phase (client.replies events) := by
  induction events generalizing client with
  | nil => exact .nil
  | cons event rest ih =>
      have later := ih (client.handle event).2
      rw [phase_handle] at later
      rw [replies_cons]
      cases event with
      | trigger =>
          obtain ⟨save, write, reply⟩ := Reply.ask_eq_due client.phase client.desk.surroundings
          have first : client.response .trigger = .triggered (.due client.phase save write) :=
            congrArg Response.triggered reply
          rw [first]
          exact .cons save write later
      | shutdown => exact later
      | connection event => exact later

/-- A run and teardown do what the responses say, and then try `stop`. -/
theorem deeds_eq (queue : List Event) (client : Client σ) :
    client.deeds queue =
      let left := (client.handleAll (handledOf queue)).desk.surroundings
      let stop := failure? (Surroundings.transmit .stop left).1
      (client.responses (handledOf queue)).flatMap Response.acts ++
        [.tried .stop stop, .recorded (.ofWrite .stop stop),
          .recorded (.sessionEnded stop.isNone)] := by
  rw [deeds, run_eq, teardown_eq, acts_handleAll]
  simp only [List.append_assoc, List.drop_left]

theorem acts_deeds (queue : List Event) (client : Client σ) :
    (client.run queue).2.teardown.acts = client.desk.acts ++ client.deeds queue := by
  rw [deeds, run_eq, teardown_eq, acts_handleAll]
  simp only [List.append_assoc, List.drop_left]

/-- The requests of a run and teardown are those of its triggers, and `stop`. -/
theorem requests_deeds (queue : List Event) (client : Client σ) :
    ∃ stop : Option SystemError,
      (client.deeds queue).filter Act.isRequest =
        ((client.replies (handledOf queue)).flatMap Reply.acts ++ [Act.tried .stop stop]).filter
          Act.isRequest := by
  rw [deeds_eq, List.filter_append, requests_responses]
  simp only [List.filter_append]
  exact ⟨_, rfl⟩

/-- What a client asks is answered by the oracle in order, and the rest is left for later. -/
theorem oracle_answers_responses (events : List Event) (client : Client Oracle) :
    client.desk.surroundings.Answers ((client.responses events).flatMap Response.acts)
      (client.handleAll events).desk.surroundings := by
  induction events generalizing client with
  | nil => exact .nothing _
  | cons event rest ih =>
      have later := ih (client.handle event).2
      rw [responses, List.flatMap_cons]
      refine Oracle.Answers.append ?_ later
      have asked : (client.handle event).2.desk.surroundings = client.asked event := by
        rw [surroundings_handle]
        cases (client.response event).logged? <;> rfl
      rw [asked]
      refine Oracle.Answers.of_requests ?_ (Response.requests_acts _).symm
      cases event with
      | trigger =>
          have asked := Oracle.Answers.ask client.phase client.desk.surroundings
          exact asked.append (.nothing _)
      | shutdown => exact .nothing _
      | connection event => exact .nothing _

/-- What a client does in surroundings that answer by number is answered by number. -/
theorem answeredBy_deeds (queue : List Event) (client : Client Oracle) :
    AnsweredBy client.desk.surroundings.saves client.desk.surroundings.sends
      (client.deeds queue) := by
  have handled := client.oracle_answers_responses (handledOf queue)
  have stopped := Oracle.Answers.send .stop (client.handleAll (handledOf queue)).desk.surroundings
  refine (handled.append stopped).1.of_requests ?_
  rw [deeds_eq, ← Oracle.failure?_answer (Oracle.sends _ 0), List.filter_append, List.filter_append]
  rfl

/-- Of any two runs of clients in one phase, whatever is in their queues and around them:

* each handles the events of its queue up to the first one that ends a run, all of them if there is
  none, and leaves the rest;
* if they handle equally many triggers, and the `i`-th save and the `i`-th command of the one are
  answered like those of the other, then up to the end of teardown they ask for the same saves and
  try the same commands, in one order and with one answer each, their triggers come to the same, and
  they leave the session in the same phase. -/
theorem run_noninterference (client : Client σ) (queue : List Event) :
    client.run queue =
      (queue.drop (handledOf queue).length, client.handleAll (handledOf queue)) ∧
    handledOf queue <+: queue ∧
    (∀ before event after, handledOf queue = before ++ event :: after → event.EndsRun →
      after = []) ∧
    (handledOf queue ≠ queue →
      ∃ before event, handledOf queue = before ++ [event] ∧ event.EndsRun) ∧
    (client.run queue).2.teardown.acts = client.desk.acts ++ client.deeds queue ∧
    ∀ (client' : Client τ) (queue' : List Event), client.phase = client'.phase →
      (handledOf queue).count .trigger = (handledOf queue').count .trigger →
      ∀ saves sends, AnsweredBy saves sends (client.deeds queue) →
        AnsweredBy saves sends (client'.deeds queue') →
        (client.deeds queue).filter Act.isRequest =
          (client'.deeds queue').filter Act.isRequest ∧
        client.outcomes (handledOf queue) = client'.outcomes (handledOf queue') ∧
        (client.run queue).2.phase = (client'.run queue').2.phase := by
  obtain ⟨begins, ending⟩ := handledOf_begins queue
  refine ⟨client.run_eq queue, begins, fun _ _ _ => handledOf_ends, ending,
    client.acts_deeds queue, ?_⟩
  intro client' queue' phase triggers saves sends answered answered'
  obtain ⟨stop, requests⟩ := client.requests_deeds queue
  obtain ⟨stop', requests'⟩ := client'.requests_deeds queue'
  replace answered := answered.of_requests requests
  replace answered' := answered'.of_requests requests'
  have chain' := client'.chain_replies (handledOf queue')
  rw [← phase] at chain'
  have length : (client.replies (handledOf queue)).length =
      (client'.replies (handledOf queue')).length := by
    rw [length_replies, length_replies, triggers]
  have replies := Reply.eq_of_answeredBy (client.chain_replies (handledOf queue)) chain' length
    answered answered'
  rw [← replies] at answered' requests'
  have last := (AnsweredBy.append_iff.mp answered).2
  have last' := (AnsweredBy.append_iff.mp answered').2
  have stopped := (last.sends_eq 0 stop rfl).trans (last'.sends_eq 0 stop' rfl).symm
  refine ⟨?_, ?_, ?_⟩
  · rw [requests, requests', stopped]
  · rw [outcomes_eq, outcomes_eq, replies]
  · rw [run_eq, run_eq]
    simp only [phase_handleAll, phase, triggers]

/-- A lost connection, a payload and the stop directive among the triggers change nothing of what is
asked for, and the trigger after the stop directive is not handled. -/
theorem run_noninterference_mixed :
    let client : Client Oracle := { desk := { surroundings := {
      saves := fun i => if i = 0 then some { summary := "disk full" } else none
      sends := fun i => if i = 1 then some .brokenPipe else none } } }
    let plain : List Event := [.trigger, .trigger, .trigger]
    let mixed : List Event := [.connection .disconnected, .trigger, .trigger,
      .connection (.payload [0x5F, 0x5F]), .trigger, stopEvent, .trigger]
    (handledOf plain).count .trigger = (handledOf mixed).count .trigger ∧
    (client.deeds mixed).filter Act.isRequest =
      [.tried .start none, .saved (some { summary := "disk full" }), .saved none,
        .tried .review (some .brokenPipe), .tried .stop none] := by
  intro client plain mixed
  have triggers : (handledOf plain).count .trigger = (handledOf mixed).count .trigger := by
    decide
  refine ⟨triggers, ?_⟩
  obtain ⟨-, -, -, -, -, same⟩ := run_noninterference (τ := Oracle) client plain
  obtain ⟨requests, -⟩ := same client mixed rfl triggers _ _ (client.answeredBy_deeds plain)
    (client.answeredBy_deeds mixed)
  rw [← requests]
  decide +kernel

end Client

end ReviewChannel
