import Mathlib.Data.List.Induction
import ReviewChannel.Proofs.Binding

/-!
Two graders at one path. Each binds it and drops its socket later, and their steps alternate in any
order: to look, to try a connection, to remove, to put a socket there, to listen; then to remove the
file and to close the socket.

* `Contest.move` is one step of one of them, `Contest.run` a whole interleaving; the steps of one
  grader alone are `GraderSocket.bind` (`run_bind`) and `GraderSocket.drop` (`run_drop`).
  `Contest.stride` takes the step of putting a socket there and that of listening together.
* `Contest.Exclusive` — at most one socket is alive, the path leads to it, and dropping it removes
  its own file.
* `Contest.Sound` is the invariant behind it. Two kinds of step break it (`Contest.Clashes`): a
  grader that has found a socket deserted removes what stands at the path, though the other one has
  put its own socket there meanwhile; or a grader listens at a socket whose file was removed so.
* `Contest.Sound.exclusive_iff` — the ownership is exclusive exactly as long as no step clashes.
-/

namespace ReviewChannel

/-! ### Two graders -/

/-- One of two graders. -/
inductive Party where
  | first
  | second
deriving DecidableEq, Repr

def Party.rival : Party → Party
  | first => second
  | second => first

@[simp] theorem Party.rival_rival (p : Party) : p.rival.rival = p := by
  cases p <;> rfl

@[simp] theorem Party.rival_ne (p : Party) : p.rival ≠ p := by
  cases p <;> decide

theorem Party.eq_or_eq_rival (p q : Party) : q = p ∨ q = p.rival := by
  cases p <;> cases q <;> simp [rival]

/-- How far a grader has come with its socket. -/
inductive Tenure where
  | binding (b : Binding)
  /-- The socket is dropped: its file has been removed, and it is still open. -/
  | leaving (socket : GraderSocket)
  | gone

namespace Tenure

/-- The socket that is alive: bound, and not dropped yet. -/
def alive? : Tenure → Option GraderSocket
  | binding (.done (.ok socket)) => some socket
  | _ => none

/-- The number of the socket that the grader has open. -/
def number? : Tenure → Option Nat
  | binding (.listen listener) => some listener
  | binding (.done (.ok socket)) => some socket.listener
  | leaving socket => some socket.listener
  | _ => none

/-- The next step of a grader: it binds the path, and once it has a socket it drops it. -/
def step (cwd : Place) (path : Path) : Tenure → Machine → Tenure × Machine
  | binding (.done (.ok socket)), m => (leaving socket, (m.unlink cwd socket.path).2)
  | binding b, m => (binding (b.step cwd path m).1, (b.step cwd path m).2)
  | leaving socket, m => (gone, m.closeListener socket.listener)
  | gone, m => (gone, m)

end Tenure

/-- Two graders on a machine. -/
structure Contest where
  machine : Machine
  tenure : Party → Tenure

namespace Contest

/-- Both graders are about to bind the path. -/
def start (m : Machine) : Contest :=
  { machine := m, tenure := fun _ => .binding .look }

/-- The contest with one grader somewhere else. -/
def put (p : Party) (next : Tenure × Machine) (c : Contest) : Contest :=
  { machine := next.2, tenure := fun q => if q = p then next.1 else c.tenure q }

/-- One grader takes its next step. -/
def move (cwd : Place) (path : Path) (p : Party) (c : Contest) : Contest :=
  c.put p ((c.tenure p).step cwd path c.machine)

/-- An interleaving of steps, by who takes them. -/
def run (cwd : Place) (path : Path) (moves : List Party) (c : Contest) : Contest :=
  moves.foldl (fun c p => c.move cwd path p) c

/-- One grader takes its next step, and listens at once where it has put a socket. -/
def stride (cwd : Place) (path : Path) (p : Party) (c : Contest) : Contest :=
  match c.tenure p with
  | .binding .bind => (c.move cwd path p).move cwd path p
  | _ => c.move cwd path p

/-- An interleaving in which nobody acts between a socket's being put at the path and its
listening. -/
def strides (cwd : Place) (path : Path) (turns : List Party) (c : Contest) : Contest :=
  turns.foldl (fun c p => c.stride cwd path p) c

/-- One grader has returned from binding before the other has taken a step. -/
def returned (cwd : Place) (path : Path) (p : Party) (m : Machine) : Contest :=
  (start m).put p
    (.binding (.done (GraderSocket.bind cwd path m).1), (GraderSocket.bind cwd path m).2)

/-- At most one socket is alive; who connects to the path reaches it; and what dropping it removes
is its own file. -/
structure Exclusive (cwd : Place) (path : Path) (c : Contest) : Prop where
  alone : ∀ p socket, (c.tenure p).alive? = some socket → (c.tenure p.rival).alive? = none
  leads : ∀ p socket, (c.tenure p).alive? = some socket →
    ∃ queue, c.machine.listenerAt cwd path = .ok (socket.listener, queue)
  drops : ∀ p socket, (c.tenure p).alive? = some socket →
    c.machine.tree.linkStatus cwd socket.path = .ok (.socket .stream (some socket.listener))

/-- The grader is about to remove what stands at the path while the socket of the other is alive, or
to listen at a socket whose file does not stand there. -/
def Clashes (cwd : Place) (path : Path) (c : Contest) (p : Party) : Prop :=
  (c.tenure p = .binding .remove ∧ c.machine.denies .remove = none ∧
      (c.tenure p.rival).alive?.isSome = true) ∨
    ∃ listener, c.tenure p = .binding (.listen listener) ∧
      c.machine.tree.linkStatus cwd path ≠ .ok (.socket .stream (some listener))

variable {c : Contest} {cwd : Place} {path : Path} {place : Place} {p q : Party}

@[simp] theorem put_tenure_self (next : Tenure × Machine) : (c.put p next).tenure p = next.1 :=
  if_pos rfl

@[simp] theorem put_tenure_rival (next : Tenure × Machine) :
    (c.put p next).tenure p.rival = c.tenure p.rival :=
  if_neg p.rival_ne

/-- What holds of one grader after its step, and of the other one, holds of both. -/
theorem forall_put (P : Tenure → Prop) {next : Tenure × Machine} (moved : P next.1)
    (stayed : P (c.tenure p.rival)) (q : Party) : P ((c.put p next).tenure q) := by
  rcases Party.eq_or_eq_rival p q with rfl | rfl
  · rw [put_tenure_self]
    exact moved
  · rw [put_tenure_rival]
    exact stayed

theorem run_concat (moves : List Party) (p : Party) :
    c.run cwd path (moves ++ [p]) = (c.run cwd path moves).move cwd path p :=
  List.foldl_append

theorem strides_concat (turns : List Party) (p : Party) :
    c.strides cwd path (turns ++ [p]) = (c.strides cwd path turns).stride cwd path p :=
  List.foldl_append

/-! ### The steps of one grader alone -/

theorem start_eq_put (m : Machine) (p : Party) : start m = (start m).put p (.binding .look, m) := by
  simp only [start, put, Contest.mk.injEq, true_and]
  funext q
  split <;> rfl

theorem move_put (next : Tenure × Machine) :
    (c.put p next).move cwd path p = c.put p (next.1.step cwd path next.2) := by
  rw [move, put_tenure_self]
  simp only [put, Contest.mk.injEq, true_and]
  funext q
  split <;> rfl

/-- The steps of binding are moves. -/
theorem run_steps (n : Nat) (b : Binding) (m : Machine) :
    ∃ k, (c.put p (.binding b, m)).run cwd path (List.replicate k p) =
      c.put p (.binding (Binding.steps cwd path n b m).1, (Binding.steps cwd path n b m).2) := by
  induction n generalizing b m with
  | zero => exact ⟨0, rfl⟩
  | succ n ih =>
      have on (unfinished : (Tenure.binding b).step cwd path m =
          (.binding (b.step cwd path m).1, (b.step cwd path m).2)) :
          ∃ k, (c.put p (.binding b, m)).run cwd path (List.replicate k p) =
            c.put p (.binding (Binding.steps cwd path (n + 1) b m).1,
              (Binding.steps cwd path (n + 1) b m).2) := by
        obtain ⟨k, runs⟩ := ih (b.step cwd path m).1 (b.step cwd path m).2
        refine ⟨k + 1, ?_⟩
        rw [List.replicate_succ, run, List.foldl_cons, move_put]
        exact (congrArg (run cwd path (List.replicate k p)) (congrArg (c.put p) unfinished)).trans
          runs
      cases b with
      | done result => exact ⟨0, by rw [Binding.steps_done]; rfl⟩
      | look | probe | remove | bind | listen => exact on rfl

/-- Moves of one grader alone bind the path. -/
theorem run_bind (m : Machine) (p : Party) :
    ∃ k, (start m).run cwd path (List.replicate k p) = returned cwd path p m := by
  obtain ⟨k, runs⟩ := run_steps (c := start m) (p := p) 5 .look m
  obtain ⟨result, m', five⟩ := Binding.steps_five cwd path m
  refine ⟨k, ?_⟩
  rw [← start_eq_put, five] at runs
  rw [runs, returned, GraderSocket.bind_of_steps five]

/-- Two more drop its socket. -/
theorem run_drop {socket : GraderSocket} (alive : (c.tenure p).alive? = some socket) :
    c.run cwd path [p, p] = c.put p (.gone, socket.drop cwd c.machine) := by
  have is : c.tenure p = .binding (.done (.ok socket)) := by
    unfold Tenure.alive? at alive
    split at alive
    · rename_i is
      cases alive
      exact is
    · cases alive
  have first : c.move cwd path p =
      c.put p (.leaving socket, (c.machine.unlink cwd socket.path).2) := by
    rw [move, is]
    rfl
  rw [run, List.foldl_cons, first, List.foldl_cons, move_put]
  rfl

/-! ### What keeps the ownership exclusive -/

/-- The socket stands at the place and is listened at. -/
structure Owned (place : Place) (socket : GraderSocket) (c : Contest) : Prop where
  stands : c.machine.tree.entryAt place = some (.socket .stream (some socket.listener))
  attended : (c.machine.queueAt socket.listener).isSome = true

/-- Sockets that are alive are at the path, and open ones have different numbers, all of them given
out. -/
structure Numbered (path : Path) (c : Contest) : Prop where
  paths : ∀ p socket, (c.tenure p).alive? = some socket → socket.path = path
  given : ∀ p n, (c.tenure p).number? = some n → n < c.machine.nextListener
  apart : ∀ p n n', (c.tenure p).number? = some n → (c.tenure p.rival).number? = some n' → n ≠ n'

/-- Whoever's socket is alive owns the place. -/
structure Sound (cwd : Place) (path : Path) (place : Place) (c : Contest) : Prop where
  leads : c.machine.tree.Leads cwd path place
  only : c.machine.tree.OnlySocket place
  owned : ∀ p socket, (c.tenure p).alive? = some socket → c.Owned place socket
  sockets : c.Numbered path

theorem number?_of_alive? {τ : Tenure} {socket : GraderSocket} (h : τ.alive? = some socket) :
    τ.number? = some socket.listener := by
  unfold Tenure.alive? at h
  split at h
  · cases h
    rfl
  · cases h

/-- A socket of the other grader that is open does not stand where one is alive. -/
theorem Sound.alive?_eq_none (h : c.Sound cwd path place) {n : Nat}
    (number : (c.tenure p).number? = some n)
    (stands : c.machine.tree.entryAt place = some (.socket .stream (some n))) :
    (c.tenure p.rival).alive? = none := by
  cases alive : (c.tenure p.rival).alive? with
  | none => rfl
  | some other =>
      have there := (h.owned p.rival other alive).stands
      rw [stands] at there
      cases there
      exact absurd rfl (h.sockets.apart p other.listener other.listener number
        (number?_of_alive? alive))

/-- Nobody's socket is alive where nothing stands. -/
theorem Sound.nobody (h : c.Sound cwd path place) (none : c.machine.tree.entryAt place = none)
    (p : Party) : (c.tenure p).alive? = Option.none := by
  cases alive : (c.tenure p).alive? with
  | none => rfl
  | some socket => cases none.symm.trans (h.owned p socket alive).stands

/-- Who owns the place is reached there. -/
theorem Sound.listenerAt_eq (h : c.Sound cwd path place)
    (usable : Machine.address path = .ok path) {socket : GraderSocket}
    (owned : c.Owned place socket) :
    ∃ queue, c.machine.listenerAt cwd path = .ok (socket.listener, queue) := by
  obtain ⟨queue, waiting⟩ := Option.isSome_iff_exists.mp owned.attended
  have listens : c.machine.Listens cwd path socket.listener :=
    ⟨usable, h.leads.named, h.leads.statusOf_socket owned.stands true⟩
  exact ⟨queue, listens.listenerAt_eq waiting⟩

/-- Whoever is refused has met nobody who is alive. -/
theorem Sound.nobody_of_refused (h : c.Sound cwd path place)
    (usable : Machine.address path = .ok path)
    (refused : c.machine.listenerAt cwd path = .error .refused) (p : Party) :
    (c.tenure p).alive? = none := by
  cases alive : (c.tenure p).alive? with
  | none => rfl
  | some socket =>
      obtain ⟨queue, reached⟩ := h.listenerAt_eq usable (h.owned p socket alive)
      cases reached.symm.trans refused

theorem Sound.exclusive (h : c.Sound cwd path place)
    (usable : Machine.address path = .ok path) : c.Exclusive cwd path where
  alone p socket alive :=
    h.alive?_eq_none (number?_of_alive? alive) (h.owned p socket alive).stands
  leads p socket alive := h.listenerAt_eq usable (h.owned p socket alive)
  drops p socket alive := by
    rw [h.sockets.paths p socket alive]
    exact h.leads.statusOf_socket (h.owned p socket alive).stands false

/-- What is found at the path is what stands at the place. -/
theorem Sound.entryAt_of_linkStatus (h : c.Sound cwd path place) {entry : Entry}
    (found : c.machine.tree.linkStatus cwd path = .ok entry) :
    c.machine.tree.entryAt place = some entry := by
  cases there : c.machine.tree.entryAt place with
  | none =>
      rw [FileTree.linkStatus, h.leads.statusOf_none there] at found
      cases found
  | some other =>
      obtain ⟨kind, listener, rfl⟩ := h.only other there
      rw [FileTree.linkStatus, h.leads.statusOf_socket there] at found
      cases found
      rfl

/-! ### Steps -/

/-- The tree stays as it is, no number is given out, and what the rival has open is not closed. -/
structure Quiet (c : Contest) (p : Party) (m' : Machine) : Prop where
  tree : m'.tree = c.machine.tree
  next : m'.nextListener = c.machine.nextListener
  spared : ∀ n, (c.tenure p.rival).number? = some n →
    (c.machine.queueAt n).isSome = true → (m'.queueAt n).isSome = true

theorem Quiet.refl (c : Contest) (p : Party) : c.Quiet p c.machine :=
  ⟨rfl, rfl, fun _ _ attended => attended⟩

/-- Sockets keep their numbers: the one that a grader has open after a step was open before, or has
a number that was not given out. -/
theorem Numbered.put (h : c.Numbered path) {τ : Tenure} {m' : Machine}
    (more : c.machine.nextListener ≤ m'.nextListener)
    (at_ : ∀ socket, τ.alive? = some socket → socket.path = path)
    (kept : ∀ n, τ.number? = some n → (c.tenure p).number? = some n ∨
      c.machine.nextListener ≤ n ∧ n < m'.nextListener) : (c.put p (τ, m')).Numbered path := by
  have apart (n n' : Nat) (opened : τ.number? = some n)
      (opened' : (c.tenure p.rival).number? = some n') : n ≠ n' := by
    rcases kept n opened with old | ⟨new, -⟩
    · exact h.apart p n n' old opened'
    · exact Nat.ne_of_gt (Nat.lt_of_lt_of_le (h.given p.rival n' opened') new)
  constructor
  · exact forall_put (fun τ => ∀ socket, τ.alive? = some socket → socket.path = path) at_
      (h.paths p.rival)
  · refine forall_put (fun τ => ∀ n, τ.number? = some n → n < m'.nextListener)
      (fun n opened => ?_) fun n opened => Nat.lt_of_lt_of_le (h.given p.rival n opened) more
    rcases kept n opened with old | ⟨-, new⟩
    · exact Nat.lt_of_lt_of_le (h.given p n old) more
    · exact new
  · intro q n n' opened opened'
    rcases Party.eq_or_eq_rival p q with rfl | rfl
    · rw [put_tenure_self] at opened
      rw [put_tenure_rival] at opened'
      exact apart n n' opened opened'
    · rw [put_tenure_rival] at opened
      rw [Party.rival_rival, put_tenure_self] at opened'
      exact (apart n' n opened' opened).symm

/-- A quiet step after which the socket of the grader is not alive. -/
theorem Sound.quiet (h : c.Sound cwd path place) {τ : Tenure} {m' : Machine}
    (quiet : c.Quiet p m') (after : τ.alive? = none)
    (kept : ∀ n, τ.number? = some n → (c.tenure p).number? = some n) :
    (c.put p (τ, m')).Sound cwd path place where
  leads := by
    have leads := h.leads
    rwa [← quiet.tree] at leads
  only := by
    have only := h.only
    rwa [← quiet.tree] at only
  owned := by
    refine forall_put (fun τ => ∀ socket, τ.alive? = some socket →
      (c.put p (_, m')).Owned place socket) (fun socket alive => ?_) fun socket alive => ?_
    · cases after.symm.trans alive
    · have owned := h.owned p.rival socket alive
      exact ⟨(congrArg (·.entryAt place) quiet.tree).trans owned.stands,
        quiet.spared socket.listener (number?_of_alive? alive) owned.attended⟩
  sockets := by
    have still := Nat.le_of_eq quiet.next.symm
    refine h.sockets.put still (fun socket alive => ?_) fun n opened => Or.inl (kept n opened)
    cases after.symm.trans alive

/-- Nobody's socket is alive after a step that changes what stands at the place. -/
theorem Sound.of_nobody (h : c.Sound cwd path place) {τ : Tenure} {m' : Machine}
    (leads : m'.tree.Leads cwd path place) (only : m'.tree.OnlySocket place)
    (more : c.machine.nextListener ≤ m'.nextListener)
    (rival : (c.tenure p.rival).alive? = none) (after : τ.alive? = none)
    (kept : ∀ n, τ.number? = some n → (c.tenure p).number? = some n ∨
      c.machine.nextListener ≤ n ∧ n < m'.nextListener) :
    (c.put p (τ, m')).Sound cwd path place where
  leads := leads
  only := only
  owned q socket alive := by
    have none : ((c.put p (τ, m')).tenure q).alive? = none :=
      forall_put (·.alive? = none) after rival q
    cases none.symm.trans alive
  sockets := by
    refine h.sockets.put more (fun socket alive => ?_) kept
    cases after.symm.trans alive

/-- Whoever removes what stands at the place leaves it free, if the socket of the other is not
alive. -/
theorem Sound.vacate (h : c.Sound cwd path place) {τ : Tenure}
    (rival : (c.tenure p.rival).alive? = none) (after : τ.alive? = none)
    (kept : ∀ n, τ.number? = some n → (c.tenure p).number? = some n) :
    (c.put p (τ, c.machine.vacate place)).Sound cwd path place :=
  h.of_nobody (Machine.leads_vacate h.leads h.only)
    (FileTree.onlySocket_of_none (c.machine.entryAt_vacate place)) Nat.le.refl rival after
    fun n opened => Or.inl (kept n opened)

/-- Whoever puts a socket where nothing stands has it there. -/
theorem Sound.seat (h : c.Sound cwd path place) (none : c.machine.tree.entryAt place = none) :
    (c.put p (.binding (.listen c.machine.nextListener), c.machine.seat place)).Sound cwd path
      place := by
  refine h.of_nobody (Machine.leads_seat h.leads h.only) (c.machine.onlySocket_seat place)
    (Nat.le_succ _) (h.nobody none p.rival) rfl fun n opened => Or.inr ?_
  cases opened
  exact ⟨Nat.le.refl, Nat.lt_succ_self _⟩

/-- Whoever listens at a socket that stands at the place owns it. -/
theorem Sound.settle (h : c.Sound cwd path place) {n : Nat}
    (is : c.tenure p = .binding (.listen n))
    (stands : c.machine.tree.entryAt place = some (.socket .stream (some n))) :
    (c.put p (.binding (.done (.ok ⟨n, path⟩)), c.machine.startListening n)).Sound cwd path
      place where
  leads := h.leads
  only := h.only
  owned := by
    have number : (c.tenure p).number? = some n := by rw [is]; rfl
    have rival := h.alive?_eq_none number stands
    refine forall_put (fun τ => ∀ socket, τ.alive? = some socket →
      (c.put p (_, c.machine.startListening n)).Owned place socket) (fun socket alive => ?_)
      fun socket alive => ?_
    · cases alive
      exact ⟨stands, Option.isSome_iff_exists.mpr ⟨[], if_pos rfl⟩⟩
    · cases rival.symm.trans alive
  sockets := by
    refine h.sockets.put Nat.le.refl (fun socket alive => ?_) fun m opened => Or.inl ?_
    · cases alive
      rfl
    · rw [is]
      exact opened

theorem step_binding {b b' : Binding} {m m' : Machine}
    (unfinished : (Tenure.binding b).alive? = none) (step : b.step cwd path m = (b', m')) :
    (Tenure.binding b).step cwd path m = (.binding b', m') := by
  have same : (Tenure.binding b).step cwd path m =
      (.binding (b.step cwd path m).1, (b.step cwd path m).2) := by
    cases b with
    | done result =>
        cases result with
        | ok socket => cases unfinished
        | error failure => rfl
    | look | probe | remove | bind | listen => rfl
  rw [same, step]

theorem move_binding {b b' : Binding} {m' : Machine} (is : c.tenure p = .binding b)
    (unfinished : (Tenure.binding b).alive? = none)
    (step : b.step cwd path c.machine = (b', m')) :
    c.move cwd path p = c.put p (.binding b', m') := by
  rw [move, is, step_binding unfinished step]

/-- Steps of binding that leave the tree alone. -/
theorem Sound.quiet_binding (h : c.Sound cwd path place) {b b' : Binding} {m' : Machine}
    (is : c.tenure p = .binding b) (before : (Tenure.binding b).alive? = none)
    (step : b.step cwd path c.machine = (b', m')) (quiet : c.Quiet p m')
    (after : (Tenure.binding b').number? = none) : (c.move cwd path p).Sound cwd path place := by
  rw [move_binding is before step]
  refine h.quiet quiet ?_ fun n opened => ?_
  · cases alive : (Tenure.binding b').alive? with
    | none => rfl
    | some socket => cases after.symm.trans (number?_of_alive? alive)
  · cases after.symm.trans opened

/-- Who knocks joins a queue, and closes none. -/
theorem quiet_knock {reached : Nat × List Nat}
    (h : c.machine.listenerAt cwd path = .ok reached) :
    c.Quiet p (c.machine.knock cwd path) := by
  obtain ⟨listener, queue⟩ := reached
  have queues (l : Nat) : (c.machine.knock cwd path).queueAt l =
      if l = listener then some (queue ++ [c.machine.nextStream]) else c.machine.queueAt l := by
    rw [Machine.knock, Machine.connect, h]
    rfl
  refine ⟨c.machine.tree_knock cwd path, ?_, fun n _ attended => ?_⟩
  · rw [Machine.knock, Machine.connect, h]
    rfl
  · rw [queues]
    split
    · rfl
    · exact attended

/-- Closing a socket of its own does not close the other's. -/
theorem quiet_closeListener (h : c.Numbered path) {n : Nat}
    (is : (c.tenure p).number? = some n) : c.Quiet p (c.machine.closeListener n) := by
  refine ⟨c.machine.tree_closeListener _, c.machine.nextListener_closeListener _,
    fun other opened attended => ?_⟩
  rw [Machine.queueAt_closeListener, if_neg (h.apart p n other is opened).symm]
  exact attended

theorem Sound.look (h : c.Sound cwd path place) (is : c.tenure p = .binding .look) :
    (c.move cwd path p).Sound cwd path place := by
  have quiet := Quiet.refl c p
  cases there : c.machine.tree.entryAt place with
  | none => exact h.quiet_binding is rfl (Binding.step_look_none h.leads there) quiet rfl
  | some entry =>
      obtain ⟨kind, listener, rfl⟩ := h.only entry there
      exact h.quiet_binding is rfl (Binding.step_look_socket h.leads there) quiet rfl

theorem Sound.probe (h : c.Sound cwd path place) (is : c.tenure p = .binding .probe) :
    (c.move cwd path p).Sound cwd path place := by
  have quiet := Quiet.refl c p
  cases reached : c.machine.listenerAt cwd path with
  | ok =>
      exact h.quiet_binding is rfl (Binding.step_probe_reached reached) (quiet_knock reached) rfl
  | error cause =>
      by_cases refused : cause = .refused
      · have step : Binding.probe.step cwd path c.machine = (.remove, c.machine) := by
          simp only [Binding.step, Machine.connect_of_error reached, if_pos refused]
        exact h.quiet_binding is rfl step quiet rfl
      · exact h.quiet_binding is rfl (Binding.step_probe_failed reached refused) quiet rfl

/-- Where the machine lets a socket be removed, the other one's must not be alive. -/
theorem Sound.remove (h : c.Sound cwd path place) (is : c.tenure p = .binding .remove)
    (fair : ¬ c.Clashes cwd path p) : (c.move cwd path p).Sound cwd path place := by
  have quiet := Quiet.refl c p
  cases there : c.machine.tree.entryAt place with
  | none => exact h.quiet_binding is rfl (Binding.step_remove_none h.leads there) quiet rfl
  | some entry =>
      obtain ⟨kind, listener, rfl⟩ := h.only entry there
      cases removed : c.machine.denies .remove with
      | some cause =>
          exact h.quiet_binding is rfl (Binding.step_remove_denied h.leads there removed) quiet rfl
      | none =>
          have nobody : ¬ (c.tenure p.rival).alive?.isSome = true :=
            fun alive => fair (Or.inl ⟨is, removed, alive⟩)
          rw [move_binding is rfl (Binding.step_remove_socket h.leads there removed)]
          exact h.vacate (by simpa using nobody) rfl fun _ opened => by cases opened

theorem Sound.bind (h : c.Sound cwd path place) (usable : Machine.address path = .ok path)
    (is : c.tenure p = .binding .bind) : (c.move cwd path p).Sound cwd path place := by
  have quiet := Quiet.refl c p
  cases there : c.machine.tree.entryAt place with
  | none =>
      cases made : c.machine.denies .make with
      | some cause =>
          have step := Binding.step_bind_denied h.leads there usable made
          exact h.quiet_binding is rfl step quiet rfl
      | none =>
          rw [move_binding is rfl (Binding.step_bind_none h.leads there usable made)]
          exact h.seat there
  | some entry =>
      obtain ⟨kind, listener, rfl⟩ := h.only entry there
      exact h.quiet_binding is rfl (Binding.step_bind_socket h.leads there usable) quiet rfl

/-- The socket at which a grader listens must stand at the path. -/
theorem Sound.listen (h : c.Sound cwd path place) {n : Nat}
    (is : c.tenure p = .binding (.listen n)) (fair : ¬ c.Clashes cwd path p) :
    (c.move cwd path p).Sound cwd path place := by
  have found : c.machine.tree.linkStatus cwd path = .ok (.socket .stream (some n)) := by
    by_contra other
    exact fair (Or.inr ⟨n, is, other⟩)
  rw [move_binding is rfl (Binding.step_listen n)]
  exact h.settle is (h.entryAt_of_linkStatus found)

/-- Whoever removes the file of a socket of its own that is alive removes no other's. -/
theorem Sound.leave (h : c.Sound cwd path place) {socket : GraderSocket}
    (is : c.tenure p = .binding (.done (.ok socket))) :
    (c.move cwd path p).Sound cwd path place := by
  have alive : (c.tenure p).alive? = some socket := is ▸ rfl
  have stands := (h.owned p socket alive).stands
  have kept (n : Nat) (opened : (Tenure.leaving socket).number? = some n) :
      (c.tenure p).number? = some n := by
    rw [is]
    exact opened
  have step : c.move cwd path p = c.put p (.leaving socket, (c.machine.unlink cwd path).2) := by
    rw [Contest.move, is, Tenure.step, h.sockets.paths p socket alive]
  rw [step, Machine.unlink_of_socket h.leads stands]
  cases removed : c.machine.denies .remove with
  | some cause => exact h.quiet (Quiet.refl c p) rfl kept
  | none => exact h.vacate (h.alive?_eq_none (number?_of_alive? alive) stands) rfl kept

theorem Sound.close (h : c.Sound cwd path place) {socket : GraderSocket}
    (is : c.tenure p = .leaving socket) : (c.move cwd path p).Sound cwd path place := by
  have step : c.move cwd path p = c.put p (.gone, c.machine.closeListener socket.listener) := by
    rw [Contest.move, is]
    rfl
  have number : (c.tenure p).number? = some socket.listener := by
    rw [is]
    rfl
  rw [step]
  exact h.quiet (quiet_closeListener h.sockets number) rfl fun _ opened => by cases opened

theorem Sound.rest (h : c.Sound cwd path place) (is : c.tenure p = .gone) :
    (c.move cwd path p).Sound cwd path place := by
  have step : c.move cwd path p = c.put p (.gone, c.machine) := by
    rw [Contest.move, is]
    rfl
  rw [step]
  exact h.quiet (Quiet.refl c p) rfl fun _ opened => by cases opened

/-- Every step keeps the invariant, unless it ends the exclusive ownership. -/
theorem Sound.move (h : c.Sound cwd path place)
    (usable : Machine.address path = .ok path) (fair : ¬ c.Clashes cwd path p) :
    (c.move cwd path p).Sound cwd path place := by
  cases is : c.tenure p with
  | gone => exact h.rest is
  | leaving socket => exact h.close is
  | binding b =>
      cases b with
      | look => exact h.look is
      | probe => exact h.probe is
      | remove => exact h.remove is fair
      | bind => exact h.bind usable is
      | listen n => exact h.listen is fair
      | done result =>
          cases result with
          | error failure => exact h.quiet_binding is rfl rfl (Quiet.refl c p) rfl
          | ok socket => exact h.leave is

/-- A step that clashes ends the exclusive ownership. -/
theorem Sound.not_exclusive (h : c.Sound cwd path place) (clashes : c.Clashes cwd path p) :
    ¬ (c.move cwd path p).Exclusive cwd path := by
  intro exclusive
  rcases clashes with ⟨removes, removable, living⟩ | ⟨n, listens, missing⟩
  · obtain ⟨socket, alive⟩ := Option.isSome_iff_exists.mp living
    have stands := (h.owned p.rival socket alive).stands
    rw [move_binding removes rfl (Binding.step_remove_socket h.leads stands removable)] at exclusive
    have drops := exclusive.drops p.rival socket (by rw [put_tenure_rival]; exact alive)
    have nothing := (Machine.leads_vacate h.leads h.only).statusOf_none
      (c.machine.entryAt_vacate place) false
    rw [h.sockets.paths p.rival socket alive] at drops
    cases nothing.symm.trans drops
  · rw [move_binding listens rfl (Binding.step_listen n)] at exclusive
    exact missing (exclusive.drops p ⟨n, path⟩ (by rw [put_tenure_self]; rfl))

/-! ### Interleavings -/

/-- Where no step clashes, every state is sound. -/
theorem Sound.run (h : c.Sound cwd path place) (usable : Machine.address path = .ok path)
    (moves : List Party)
    (fair : ∀ front p, front ++ [p] <+: moves → (c.run cwd path front).Sound cwd path place →
      ¬ (c.run cwd path front).Clashes cwd path p) :
    ∀ front, front <+: moves → (c.run cwd path front).Sound cwd path place := by
  intro front
  induction front using List.reverseRecOn with
  | nil => exact fun _ => h
  | append_singleton front p ih =>
      intro part
      have sound := ih ((List.prefix_append front [p]).trans part)
      rw [run_concat]
      exact sound.move usable (fair front p part sound)

/-- The ownership is exclusive exactly as long as no step clashes. -/
theorem Sound.exclusive_iff (h : c.Sound cwd path place)
    (usable : Machine.address path = .ok path) (moves : List Party) :
    (∀ front, front <+: moves → (c.run cwd path front).Exclusive cwd path) ↔
      ∀ front p, front ++ [p] <+: moves → ¬ (c.run cwd path front).Clashes cwd path p := by
  constructor
  · intro exclusive
    have fair (front : List Party) (p : Party) (part : front ++ [p] <+: moves)
        (sound : (c.run cwd path front).Sound cwd path place) :
        ¬ (c.run cwd path front).Clashes cwd path p := by
      intro clashes
      have still := exclusive (front ++ [p]) part
      rw [run_concat] at still
      exact sound.not_exclusive clashes still
    intro front p part
    have shorter := (List.prefix_append front [p]).trans part
    exact fair front p part (h.run usable moves fair front shorter)
  · intro fair front part
    exact (h.run usable moves (fun front p part _ => fair front p part) front part).exclusive usable

end Contest

end ReviewChannel
