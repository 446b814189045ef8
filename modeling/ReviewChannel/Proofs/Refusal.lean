import Mathlib.Data.List.Induction
import ReviewChannel.Proofs.Binding
import ReviewChannel.Proofs.Grading

/-!
What a grader that listens at a path notices of those who come after it: clients, which connect, and
other graders, whose binding is refused.

* `Machine.Attended` — a grader listens at the path and some streams wait there.
* `Caller.call` is what one of them does; `Attended.call_eq` — each puts one new stream in the
  queue. A client goes on with its stream; a grader has closed its end (`Caller.stream`).
* `GraderSocket.refused_bind_joins_queue` — so a refused binding leaves the tree alone, but not the
  queue: the grader that listens takes it for a client, and its session ends before it starts.
-/

namespace ReviewChannel

namespace Machine

/-- A grader listens at the path, and these streams wait there; all of them have been made. -/
structure Attended (m : Machine) (cwd : Place) (path : Path) (listener : Nat) (queue : List Nat) :
    Prop where
  usable : address path = .ok path
  found : m.tree.linkStatus cwd path = .ok (.socket .stream (some listener))
  waiting : m.queueAt listener = some queue
  made : ∀ stream ∈ queue, stream < m.nextStream

/-- The machine with a new stream at the end of a queue. -/
def join (listener : Nat) (queue : List Nat) (s : Stream) (m : Machine) : Machine :=
  { (m.setQueue listener (some (queue ++ [m.nextStream]))).setStream m.nextStream s with
    nextStream := m.nextStream + 1 }

variable {m : Machine} {cwd : Place} {path : Path} {listener : Nat} {queue : List Nat}

theorem Attended.join (h : m.Attended cwd path listener queue) (s : Stream) :
    (m.join listener queue s).Attended cwd path listener (queue ++ [m.nextStream]) where
  usable := h.usable
  found := h.found
  waiting := if_pos rfl
  made stream mem := by
    rcases List.mem_append.mp mem with old | new
    · exact Nat.lt_succ_of_lt (h.made stream old)
    · exact List.mem_singleton.mp new ▸ Nat.lt_succ_self m.nextStream

theorem Attended.named (h : m.Attended cwd path listener queue) : path.octets ≠ [] := by
  obtain ⟨loc, located, -⟩ := FileTree.statusOf_eq_ok_iff.mp h.found
  obtain ⟨usable, -⟩ := FileTree.locate_eq_ok_iff.mp located
  intro empty
  simp [FileTree.unusable?, empty] at usable

theorem Attended.listenerAt_eq (h : m.Attended cwd path listener queue) :
    m.listenerAt cwd path = .ok (listener, queue) := by
  have listens : m.Listens cwd path listener :=
    ⟨h.usable, h.named, FileTree.status_of_linkStatus h.found fun _ => nofun⟩
  exact listens.listenerAt_eq h.waiting

theorem Attended.connect_eq (h : m.Attended cwd path listener queue) :
    m.connect cwd path = (.ok m.nextStream, m.join listener queue {}) := by
  rw [connect, h.listenerAt_eq]
  rfl

theorem Attended.knock_eq (h : m.Attended cwd path listener queue) :
    m.knock cwd path = m.join listener queue (({} : Stream).close .client) := by
  rw [knock, h.connect_eq]
  simp only [closeEnd, Machine.join, setStream, if_true, Machine.mk.injEq, true_and, and_true]
  funext n
  split <;> rfl

/-- A grader that has bound a path attends it. -/
theorem attended_of_offers {place : Place} (h : m.Offers cwd path place) :
    (m.settle place).Attended cwd path m.nextListener [] where
  usable := h.usable
  found := (leads_settle h.leads h.onlySocket).statusOf_socket (m.entryAt_settle place) false
  waiting := m.queueAt_settle place
  made _ mem := nomatch mem

end Machine

/-! ### Those who come after it -/

/-- Who comes to a path where a grader listens: a client that connects, or another grader that binds
the path. -/
inductive Caller where
  | client
  | grader
deriving DecidableEq, Repr

namespace Caller

def call (cwd : Place) (path : Path) : Caller → Machine → Machine
  | client, m => (m.connect cwd path).2
  | grader, m => (GraderSocket.bind cwd path m).2

/-- What several callers do, one after the other. -/
def callAll (cwd : Place) (path : Path) (callers : List Caller) (m : Machine) : Machine :=
  callers.foldl (fun m caller => caller.call cwd path m) m

/-- The stream that a caller leaves in the queue: a new one, of which a grader has closed its
end. -/
def stream : Caller → Stream
  | client => {}
  | grader => ({} : Stream).close .client

end Caller

namespace Machine

variable {m : Machine} {cwd : Place} {path : Path} {listener : Nat} {queue : List Nat}

/-- Binding a path where a grader listens is refused. -/
theorem Attended.bind_eq (h : m.Attended cwd path listener queue) :
    GraderSocket.bind cwd path m =
      (.error (.bind path (.custom "another grader is listening")), m.knock cwd path) := by
  have look : Binding.look.step cwd path m = (.probe, m) := by
    simp only [Binding.step, h.found]
  exact GraderSocket.bind_of_reached look h.listenerAt_eq

/-- Every caller adds its stream to the queue. -/
theorem Attended.call_eq (h : m.Attended cwd path listener queue) (caller : Caller) :
    caller.call cwd path m = m.join listener queue caller.stream := by
  cases caller with
  | client => rw [Caller.call, h.connect_eq, Caller.stream]
  | grader => rw [Caller.call, h.bind_eq, h.knock_eq, Caller.stream]

/-- What several callers leave to a grader that listens. -/
structure Called (m : Machine) (cwd : Place) (path : Path) (listener : Nat) (queue : List Nat)
    (callers : List Caller) (m' : Machine) : Prop where
  attended : m'.Attended cwd path listener
    (queue ++ List.range' m.nextStream callers.length)
  tree : m'.tree = m.tree
  next : m'.nextStream = m.nextStream + callers.length
  streams : ∀ i caller, callers[i]? = some caller →
    m'.streamAt (m.nextStream + i) = caller.stream
  others : ∀ stream < m.nextStream, m'.streamAt stream = m.streamAt stream

/-- One more caller joins the queue at its end. -/
theorem Called.snoc {callers : List Caller} {m' : Machine}
    (h : m.Called cwd path listener queue callers m') (caller : Caller) :
    m.Called cwd path listener queue (callers ++ [caller]) (caller.call cwd path m') := by
  rw [h.attended.call_eq]
  have joined := h.attended.join caller.stream
  constructor
  · simpa [h.next, List.range'_concat] using joined
  · exact h.tree
  · simp [Machine.join, h.next, Nat.add_assoc]
  · intro i caller' at_
    simp only [Machine.join, setStream, h.next]
    rcases Nat.lt_trichotomy i callers.length with before | rfl | after
    · rw [List.getElem?_append_left before] at at_
      rw [if_neg (by omega)]
      exact h.streams i caller' at_
    · obtain rfl : caller = caller' := by simpa using at_
      exact if_pos rfl
    · rw [List.getElem?_eq_none (by simp; omega)] at at_
      cases at_
  · intro stream old
    have other : stream ≠ m'.nextStream := by
      have := h.next
      omega
    exact (if_neg other).trans (h.others stream old)

/-- Whatever callers come, a grader that listens goes on listening, with all of them in its
queue. -/
theorem Attended.called (h : m.Attended cwd path listener queue) (callers : List Caller) :
    m.Called cwd path listener queue callers (Caller.callAll cwd path callers m) := by
  induction callers using List.reverseRecOn with
  | nil =>
      refine ⟨?_, rfl, rfl, fun _ _ at_ => by simp at at_, fun _ _ => rfl⟩
      simpa [Caller.callAll] using h
  | append_singleton callers caller ih =>
      rw [Caller.callAll, List.foldl_append]
      exact ih.snoc caller

theorem accept_of_cons {stream : Nat} {rest : List Nat}
    (waiting : m.queueAt listener = some (stream :: rest)) :
    (m.accept listener).1 = some stream := by
  rw [accept, waiting]

end Machine

/-! ### The session with a grader that was refused -/

theorem ReviewLoop.steps_of_finished {loop : ReviewLoop}
    (finished : loop.result?.isSome = true) (n : Nat) (s : Stream) :
    steps n loop s = (loop, s) := by
  induction n with
  | zero => rfl
  | succ n ih =>
      rw [steps, step_of_finished finished]
      exact ih

/-- A grader that was refused has gone before the session starts, and nobody is reviewed. -/
theorem ReviewLoop.run_of_refused (ids : List String) :
    ((ReviewLoop.new ids).run Caller.grader.stream).1 =
      { stage := .finished
          (.error (.transport "client disconnected while waiting for start command")) } := by
  have waits : (ReviewLoop.new ids).step Caller.grader.stream =
      ({ stage := .dismiss
          (.error (.transport "client disconnected while waiting for start command")) },
        Caller.grader.stream) := by
    cbv
  change (steps (2 * ids.length + 1 + 1 + 1) (.new ids) _).1 = _
  rw [steps, waits]
  change (steps (2 * ids.length + 1 + 1) _ _).1 = _
  rw [steps, step_dismiss rfl]
  exact congrArg Prod.fst (steps_of_finished rfl _ _)

/-! ### Refused bindings and the queue -/

namespace GraderSocket

/-- While a grader listens at a path, every other binding of the path is refused, however many
graders and clients have come before, and nothing changes in the tree. Streams that wait already are
accepted as before.

But to find out whether somebody listens, binding connects, and its stream stays in the queue
between those of the clients. The queue is what the clients alone would have left only if no binding
was refused. A refused grader that comes first is accepted in place of the next client, and then the
session has an error and no reviews, whatever the identifiers. -/
theorem refused_bind_joins_queue {m : Machine} {cwd : Place} {path : Path} {listener : Nat}
    {queue : List Nat} (attended : m.Attended cwd path listener queue) (callers : List Caller) :
    let m' := Caller.callAll cwd path callers m
    (bind cwd path m').1 = .error (.bind path (.custom "another grader is listening")) ∧
    m'.tree = m.tree ∧
    m'.queueAt listener = some (queue ++ List.range' m.nextStream callers.length) ∧
    (∀ i caller, callers[i]? = some caller →
      m'.streamAt (m.nextStream + i) = caller.stream) ∧
    (m'.queueAt listener =
        (Caller.callAll cwd path (callers.filter (· = .client)) m).queueAt listener ↔
      .grader ∉ callers) ∧
    (∀ stream rest, queue = stream :: rest →
      (m'.accept listener).1 = some stream ∧ m'.streamAt stream = m.streamAt stream) ∧
    (queue = [] → ∀ first rest, callers = first :: rest →
      (m'.accept listener).1 = some m.nextStream ∧
        m'.streamAt m.nextStream = first.stream ∧
        (first = .grader → ∀ ids,
          ((ReviewLoop.new ids).run (m'.streamAt m.nextStream)).1 =
            { stage := .finished (.error
                (.transport "client disconnected while waiting for start command")) })) := by
  intro m'
  have called : m.Called cwd path listener queue callers m' := attended.called callers
  refine ⟨?_, called.tree, called.attended.waiting, called.streams, ?_, ?_, ?_⟩
  · rw [called.attended.bind_eq]
  · rw [called.attended.waiting, (attended.called _).attended.waiting, Option.some_inj,
      List.append_right_inj]
    constructor
    · intro same refused
      have shorter := congrArg List.length same
      simp only [List.length_range'] at shorter
      have all := List.length_filter_eq_length_iff.mp shorter.symm
      simpa using all .grader refused
    · intro clients
      congr 2
      refine (List.filter_eq_self.mpr fun caller mem => ?_).symm
      cases caller with
      | client => rfl
      | grader => exact absurd mem clients
  · rintro stream rest rfl
    exact ⟨Machine.accept_of_cons called.attended.waiting,
      called.others stream (attended.made stream (List.mem_cons_self ..))⟩
  · rintro rfl first rest rfl
    have left := called.streams 0 first rfl
    refine ⟨Machine.accept_of_cons called.attended.waiting, left, ?_⟩
    rintro rfl ids
    rw [show m'.streamAt m.nextStream = Caller.grader.stream from left]
    exact ReviewLoop.run_of_refused ids

theorem refused_bind_joins_queue_leftover :
    ∃ m : Machine, m.Attended [] (Path.ofText "/w/sock") 0 [] ∧
      (Caller.callAll [] (Path.ofText "/w/sock") [.client, .grader] m).queueAt 0 = some [0, 1] := by
  obtain ⟨place, offers, -⟩ := offers_leftover
  have attended := Machine.attended_of_offers offers
  exact ⟨_, attended, (refused_bind_joins_queue attended [.client, .grader]).2.2.1⟩

/-- A grader has bound the path and nobody has connected to it. Another grader is refused, and is
accepted as if it were the client. -/
theorem refused_bind_accepted :
    ∃ socket m m', bind [] (Path.ofText "/w/sock") (.ofTree leftover) = (.ok socket, m) ∧
      m.queueAt socket.listener = some [] ∧ (m.accept socket.listener).1 = none ∧
      bind [] (Path.ofText "/w/sock") m = (.error (.bind (Path.ofText "/w/sock")
        (.custom "another grader is listening")), m') ∧
      m'.queueAt socket.listener = some [0] ∧ (m'.accept socket.listener).1 = some 0 ∧
      ((ReviewLoop.new ["jdoe2"]).run (m'.streamAt 0)).1.result? = some (.error
        (.transport "client disconnected while waiting for start command")) := by
  obtain ⟨place, offers, -⟩ := offers_leftover
  have attended := Machine.attended_of_offers offers
  have called := attended.called [.grader]
  have knocked : Caller.callAll [] (Path.ofText "/w/sock") [.grader]
      ((Machine.ofTree leftover).settle place) =
        ((Machine.ofTree leftover).settle place).knock [] (Path.ofText "/w/sock") :=
    congrArg Prod.snd attended.bind_eq
  rw [knocked] at called
  have binds := bind_of_offers offers ⟨rfl, fun _ => rfl⟩
  refine ⟨_, _, _, binds, attended.waiting, rfl, attended.bind_eq,
    called.attended.waiting, Machine.accept_of_cons called.attended.waiting, ?_⟩
  have left : (Machine.knock [] (Path.ofText "/w/sock")
      ((Machine.ofTree leftover).settle place)).streamAt 0 = Caller.grader.stream :=
    called.streams 0 .grader rfl
  rw [left, ReviewLoop.run_of_refused]
  rfl

end GraderSocket

end ReviewChannel
