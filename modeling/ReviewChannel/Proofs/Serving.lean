import ReviewChannel.Connection
import ReviewChannel.Proofs.Responses

/-!
A sitting with the threads that feed its channel.

* A `Serving` is a client with its channel on the way from its connection to its end, together with
  what its reader and its host may do meanwhile. `Serving.step` is one thing that happens: the
  client's thread goes on, or the reader or the host puts an event on the channel.
* `Serving.Orderly` — how far the client has come in the events that reached the channel, of which
  the first one is the connection; every step keeps it (`Orderly.step`).
* `Serving.serve_of_left` — a sitting that has come to its end is what `Client.serve` says of the
  events that reached the channel.
-/

namespace ReviewChannel

/-- How far a sitting has come. -/
inductive Serving.Stage where
  /-- The client is about to connect, and to put the connection on the channel. -/
  | connecting
  /-- The reader is about to be started. -/
  | spawning
  /-- The host is about to be given its trigger. -/
  | wiring
  /-- The client handles events. -/
  | listening
  /-- The client was torn down. -/
  | left
  /-- There is no connection, or no reader. -/
  | refused
deriving DecidableEq, Repr

/-- A client with the channel of its events. -/
structure Serving (σ : Type) where
  client : Client σ
  stage : Serving.Stage := .connecting
  /-- The events that were handled, first one first. -/
  handled : List Event := []
  /-- The events that wait on the channel, first one first. -/
  waiting : List Event := []
  /-- Whether the reader has stopped. -/
  deaf : Bool := false
  /-- Whether the host has dropped its trigger. -/
  mute : Bool := false

namespace Serving

/-- Something that happens in a sitting. -/
inductive Move where
  /-- The client's thread takes its next step. With nothing to handle it waits. -/
  | proceeds
  /-- The system refuses the connection, or a thread for the reader. -/
  | refuses
  /-- The reader has read. -/
  | reads (result : ReadResult)
  /-- The host fires the trigger. -/
  | fires
  /-- The host asks the client to wind down. -/
  | windsDown
  /-- The host drops its trigger. -/
  | dropsTrigger
deriving DecidableEq, Repr

variable {σ : Type}

/-- A sitting that has not begun. -/
def start (around : σ) : Serving σ :=
  { client := { desk := { surroundings := around } } }

/-- The events that reached the channel. -/
def posted (s : Serving σ) : List Event :=
  s.handled ++ s.waiting

/-- Puts an event on the channel. -/
def post (event : Event) (s : Serving σ) : Serving σ :=
  { s with waiting := s.waiting ++ [event] }

/-- Whether the reader runs. It is started before the host is wired. -/
def isRead (s : Serving σ) : Bool :=
  (s.stage = .wiring || s.stage = .listening) && !s.deaf

/-- Whether the host holds a trigger. -/
def isWired (s : Serving σ) : Bool :=
  s.stage = .listening && !s.mute

/-- The host does something with its trigger, if it holds one. -/
def ask (event : Event) (s : Serving σ) : Serving σ :=
  if s.isWired then s.post event else s

/-- The reader delivers what it has read. -/
def deliver (s : Serving σ) : Connection.Delivery → Serving σ
  | .more event => s.post (.connection event)
  | .last event => { s.post (.connection event) with deaf := true }
  | .again => s

variable [Surroundings σ]

/-- Tears the client down. -/
def leave (s : Serving σ) : Serving σ :=
  { s with stage := .left, client := { s.client with desk := s.client.teardown } }

/-- The client handles the first event that waits. Without one it leaves if none can come. -/
def next (s : Serving σ) : Serving σ :=
  match s.waiting with
  | [] => if s.deaf && s.mute then s.leave else s
  | event :: waiting =>
      match s.client.handle event with
      | (.goOn, client) => { s with client, waiting, handled := s.handled ++ [event] }
      | (.exit, client) => leave { s with client, waiting, handled := s.handled ++ [event] }

/-- One step. A step that cannot be taken changes nothing. -/
def step (endpoint : Path) (s : Serving σ) : Move → Serving σ
  | .proceeds =>
      match s.stage with
      | .connecting => { s.post (.connection (.connected endpoint)) with stage := .spawning }
      | .spawning => { s with stage := .wiring }
      | .wiring => { s with stage := .listening, client := s.client.wire }
      | .listening => s.next
      | .left | .refused => s
  | .refuses =>
      match s.stage with
      | .connecting | .spawning => { s with stage := .refused }
      | .wiring | .listening | .left | .refused => s
  | .reads result => if s.isRead then s.deliver (Connection.deliver result) else s
  | .fires => s.ask .trigger
  | .windsDown => s.ask .shutdown
  | .dropsTrigger => { s with mute := s.mute || s.isWired }

/-- Several steps, one after the other. -/
def run (endpoint : Path) (s : Serving σ) (moves : List Move) : Serving σ :=
  moves.foldl (step endpoint) s

/-! ### How far the client has come -/

/-- The first event that reached the channel is the connection, and the client has handled the
events in order: all but those that wait, or those up to the first one after which it exits. -/
def Orderly (endpoint : Path) (around : σ) (s : Serving σ) : Prop :=
  let start := (start around).client
  match s.stage with
  | .connecting => s.client = start ∧ s.handled = [] ∧ s.waiting = []
  | .spawning | .wiring =>
      s.client = start ∧ s.handled = [] ∧
        s.posted.head? = some (.connection (.connected endpoint))
  | .listening =>
      s.client = start.wire.handleAll s.handled ∧ (∀ event ∈ s.handled, event.exits = false) ∧
        s.posted.head? = some (.connection (.connected endpoint))
  | .left =>
      s.client.desk = (start.wire.handleAll s.handled).teardown ∧
        s.handled = handledOf s.posted ∧
        s.posted.head? = some (.connection (.connected endpoint))
  | .refused => s.client = start ∧ s.handled = []

variable {endpoint : Path} {around : σ} {s : Serving σ}

theorem orderly_start : (start around).Orderly endpoint around :=
  ⟨rfl, rfl, rfl⟩

omit [Surroundings σ] in
/-- What is put on the channel does not change what came first. -/
theorem head?_posted_append {first : Event} (head : s.posted.head? = some first)
    (more : List Event) : (s.handled ++ (s.waiting ++ more)).head? = some first := by
  rw [← List.append_assoc, List.head?_append, show (s.handled ++ s.waiting).head? = _ from head]
  rfl

/-- The reader and the host only add to the channel, while the client goes on. -/
theorem Orderly.post (h : s.Orderly endpoint around)
    (attended : s.stage = .wiring ∨ s.stage = .listening) (more : List Event) (deaf : Bool) :
    Orderly endpoint around { s with waiting := s.waiting ++ more, deaf } := by
  unfold Orderly at h ⊢
  rcases attended with stage | stage
  · simp only [stage] at h ⊢
    obtain ⟨same, handled, head⟩ := h
    exact ⟨same, handled, head?_posted_append head more⟩
  · simp only [stage] at h ⊢
    obtain ⟨same, goes, head⟩ := h
    exact ⟨same, goes, head?_posted_append head more⟩

/-- The client handles the first event that waits, and leaves after the first one after which it
exits. -/
theorem Orderly.next (h : s.Orderly endpoint around) (stage : s.stage = .listening) :
    s.next.Orderly endpoint around := by
  unfold Orderly at h
  simp only [stage] at h
  obtain ⟨same, goes, head⟩ := h
  unfold Serving.next
  split
  · rename_i empty
    split
    · refine ⟨?_, ?_, head⟩
      · exact congrArg Client.teardown same
      · have all := handledOf_append_of_not_exits goes []
        rw [handledOf, List.append_nil] at all
        simp only [leave, posted, empty, List.append_nil]
        exact all.symm
    · unfold Orderly
      simp only [stage]
      exact ⟨same, goes, head⟩
  · rename_i event waiting queue
    have head : (s.handled ++ [event] ++ waiting).head? =
        some (.connection (.connected endpoint)) := by
      rw [List.append_assoc, List.singleton_append, ← queue]
      exact head
    have flow := s.client.flow_handle event
    have handled : (start around).client.wire.handleAll (s.handled ++ [event]) =
        (s.client.handle event).2 := by
      rw [Client.handleAll_append, ← same]
      rfl
    cases exits : event.exits with
    | true =>
        rw [exits] at flow
        rw [show s.client.handle event = (.exit, (s.client.handle event).2) from Prod.ext flow rfl]
        refine ⟨(congrArg Client.teardown handled).symm, ?_, head⟩
        have all := handledOf_append_of_not_exits goes (event :: waiting)
        rw [handledOf, exits, if_pos rfl] at all
        simp only [leave, posted, List.append_assoc, List.singleton_append]
        exact all.symm
    | false =>
        rw [exits] at flow
        rw [show s.client.handle event = (.goOn, (s.client.handle event).2) from Prod.ext flow rfl]
        unfold Orderly
        simp only [stage]
        refine ⟨handled.symm, fun e mem => ?_, head⟩
        rcases List.mem_append.mp mem with earlier | now
        · exact goes e earlier
        · rwa [List.mem_singleton.mp now]

/-- Whatever happens, the connection came first, and the client handles the events in order. -/
theorem Orderly.step (h : s.Orderly endpoint around) (move : Move) :
    (s.step endpoint move).Orderly endpoint around := by
  cases move with
  | proceeds =>
      cases stage : s.stage with
      | connecting =>
          unfold Orderly at h
          simp only [stage] at h
          obtain ⟨same, handled, waiting⟩ := h
          simp only [Serving.step, stage]
          refine ⟨same, handled, ?_⟩
          simp [posted, Serving.post, handled, waiting]
      | spawning =>
          unfold Orderly at h
          simp only [stage] at h
          simp only [Serving.step, stage]
          exact h
      | wiring =>
          unfold Orderly at h
          simp only [stage] at h
          obtain ⟨same, handled, head⟩ := h
          simp only [Serving.step, stage]
          refine ⟨?_, ?_, head⟩
          · rw [handled, same]
            rfl
          · simp [handled]
      | listening =>
          simp only [Serving.step, stage]
          exact h.next stage
      | left | refused => simpa only [Serving.step, stage] using h
  | refuses =>
      cases stage : s.stage with
      | connecting | spawning =>
          unfold Orderly at h
          simp only [stage] at h
          simp only [Serving.step, stage]
          exact ⟨h.1, h.2.1⟩
      | wiring | listening | left | refused => simpa only [Serving.step, stage] using h
  | reads result =>
      rw [Serving.step]
      split
      · rename_i reads
        have attended : s.stage = .wiring ∨ s.stage = .listening := by
          simpa using (Bool.and_eq_true_iff.mp reads).1
        cases Connection.deliver result with
        | more event => exact h.post attended _ _
        | last event => exact h.post attended _ _
        | again => exact h
      · exact h
  | fires | windsDown =>
      rw [Serving.step, ask]
      split
      · rename_i wired
        have attended : s.stage = .listening := by
          simpa using (Bool.and_eq_true_iff.mp wired).1
        exact h.post (Or.inr attended) _ _
      · exact h
  | dropsTrigger => exact h

theorem Orderly.run (h : s.Orderly endpoint around) (moves : List Move) :
    (s.run endpoint moves).Orderly endpoint around := by
  induction moves generalizing s with
  | nil => exact h
  | cons move moves ih => exact ih (h.step move)

/-- A sitting that has come to its end is the one that `Client.serve` says of the events that
reached the channel. -/
theorem serve_of_left (h : s.Orderly endpoint around) (left : s.stage = .left) :
    Client.serve (.ok endpoint) (fun _ around => (.ok (), around)) id s.posted
      (start around).client.desk = .ok (s.waiting, s.client.desk) := by
  unfold Orderly at h
  simp only [left] at h
  obtain ⟨desk, handled, -⟩ := h
  simp only [Client.serve, Client.activate, Client.run_eq, ← handled, id]
  rw [posted, List.drop_left, desk]
  rfl

end Serving

end ReviewChannel
