import ReviewChannel.Proofs.Endpoints
import ReviewChannel.Proofs.Resolution

/-!
What binding a path does to the machine when nobody else acts.

* `Machine.Deserted` — a socket at which nobody listens; `Machine.Offers` — the path leads to a
  place where nothing stands, or such a socket, and can be the address of a socket;
  `Machine.Grants` — the system has nothing against a new socket there.
* `Binding.step_…` say what each step does at such a place, `GraderSocket.bind_of_offers` what the
  five steps come to.
* `GraderSocket.bind_safety` — binding puts a socket at one place that was offered, or fails and
  leaves the tree as it was, but for a deserted socket that it has removed before it failed
  (`Machine.Loses`); dropping the socket leaves nothing at the place. `bind_unsafe` has the two
  cases of which no more can be said: the empty path, which leads to no place, and a full disk.
-/

namespace ReviewChannel

namespace FileTree

/-- Of two changes at one place the second counts. -/
theorem set_set (t : FileTree) (place : Place) (entry entry' : Option Entry) :
    (t.set place entry).set place entry' = t.set place entry' := by
  cases entry <;> cases entry' <;> simp [set, List.filter_filter]

end FileTree

namespace Machine

variable {m : Machine} {cwd : Place} {path : Path} {place : Place}

/-! ### Places where a socket can be put -/

/-- The entry is a socket at which nobody listens. -/
def Deserted (m : Machine) (entry : Entry) : Prop :=
  ∃ kind listener, entry = .socket kind listener ∧
    ∀ number, listener = some number → m.queueAt number = none

/-- The path can be the address of a socket, and leads to a place where nothing stands but perhaps a
socket at which nobody listens. -/
structure Offers (m : Machine) (cwd : Place) (path : Path) (place : Place) : Prop where
  usable : address path = .ok path
  leads : m.tree.Leads cwd path place
  free : ∀ entry, m.tree.entryAt place = some entry → m.Deserted entry

theorem deserted_of_none (m : Machine) (kind : SocketKind) : m.Deserted (.socket kind none) :=
  ⟨kind, none, rfl, fun _ is => by cases is⟩

theorem Deserted.isSocket {entry : Entry} (h : m.Deserted entry) :
    ∃ kind listener, entry = .socket kind listener := by
  obtain ⟨kind, listener, is, -⟩ := h
  exact ⟨kind, listener, is⟩

theorem Offers.onlySocket (h : m.Offers cwd path place) : m.tree.OnlySocket place :=
  fun entry there => (h.free entry there).isSocket

/-- The system lets a socket be put at the place, and what stands there be removed. -/
structure Grants (m : Machine) (place : Place) : Prop where
  make : m.denies .make = none
  remove : m.tree.entryAt place ≠ none → m.denies .remove = none

/-- A socket at which nobody listens can be removed, but no other one be put in its place. -/
structure Loses (m : Machine) (cwd : Place) (path : Path) (place : Place) (cause : SystemError) :
    Prop where
  offers : m.Offers cwd path place
  leftover : m.tree.entryAt place ≠ none
  removable : m.denies .remove = none
  denied : m.denies .make = some cause

/-- The machine with nothing at the place. -/
def vacate (place : Place) (m : Machine) : Machine :=
  { m with tree := m.tree.set place none }

/-- The machine with a new socket at the place, which does not listen. -/
def seat (place : Place) (m : Machine) : Machine :=
  { m.setQueue m.nextListener none with
    tree := m.tree.set place (some (.socket .stream (some m.nextListener)))
    nextListener := m.nextListener + 1 }

/-- The machine with a new listening socket at the place. -/
def settle (place : Place) (m : Machine) : Machine :=
  (m.seat place).startListening m.nextListener

theorem vacate_settle (place : Place) (m : Machine) :
    (m.vacate place).settle place = m.settle place := by
  simp only [settle, seat, vacate, startListening, setQueue, FileTree.set_set]
  rfl

theorem entryAt_vacate (place : Place) (m : Machine) :
    (m.vacate place).tree.entryAt place = none :=
  FileTree.entryAt_set_self place none m.tree

theorem entryAt_seat (place : Place) (m : Machine) :
    (m.seat place).tree.entryAt place = some (.socket .stream (some m.nextListener)) :=
  FileTree.entryAt_set_self place _ m.tree

theorem entryAt_settle (place : Place) (m : Machine) :
    (m.settle place).tree.entryAt place = some (.socket .stream (some m.nextListener)) :=
  m.entryAt_seat place

theorem queueAt_settle (place : Place) (m : Machine) :
    (m.settle place).queueAt m.nextListener = some [] :=
  if_pos rfl

theorem leads_vacate (leads : m.tree.Leads cwd path place) (only : m.tree.OnlySocket place) :
    (m.vacate place).tree.Leads cwd path place :=
  leads.elsewhere only (FileTree.elsewhere_set m.tree place none)

theorem leads_seat (leads : m.tree.Leads cwd path place) (only : m.tree.OnlySocket place) :
    (m.seat place).tree.Leads cwd path place :=
  leads.elsewhere only (FileTree.elsewhere_set m.tree place _)

theorem leads_settle (leads : m.tree.Leads cwd path place) (only : m.tree.OnlySocket place) :
    (m.settle place).tree.Leads cwd path place :=
  leads_seat leads only

theorem onlySocket_seat (place : Place) (m : Machine) : (m.seat place).tree.OnlySocket place :=
  FileTree.onlySocket_of_socket (m.entryAt_seat place)

theorem onlySocket_settle (place : Place) (m : Machine) :
    (m.settle place).tree.OnlySocket place :=
  m.onlySocket_seat place

/-- A place is offered where nothing stands. -/
theorem Offers.of_none (usable : address path = .ok path) (leads : m.tree.Leads cwd path place)
    (none : m.tree.entryAt place = none) : m.Offers cwd path place := by
  refine ⟨usable, leads, fun entry there => ?_⟩
  cases none.symm.trans there

theorem Grants.of_none (made : m.denies .make = none) (none : m.tree.entryAt place = none) :
    m.Grants place :=
  ⟨made, fun there => absurd none there⟩

/-! ### Operations on a path that leads to a place -/

/-- Nobody can be reached at a socket that is deserted. -/
theorem listenerAt_of_deserted {entry : Entry} (usable : address path = .ok path)
    (named : path.octets ≠ []) (status : m.tree.status cwd path = .ok entry)
    (deserted : m.Deserted entry) : m.listenerAt cwd path = .error .refused := by
  obtain ⟨kind, listener, rfl, nobody⟩ := deserted
  cases listener with
  | none => simp [listenerAt, usable, named, status]
  | some number => simp [listenerAt, usable, named, status, nobody number rfl]

theorem connect_of_error {e : SystemError} (h : m.listenerAt cwd path = .error e) :
    m.connect cwd path = (.error e, m) := by
  rw [connect, h]

theorem unlink_of_socket {kind : SocketKind} {listener : Option Nat}
    (leads : m.tree.Leads cwd path place)
    (socket : m.tree.entryAt place = some (.socket kind listener)) :
    m.unlink cwd path =
      match m.denies .remove with
      | some e => (.error e, m)
      | none => (.ok (), m.vacate place) := by
  rw [unlink, leads.remove_socket socket]
  rfl

theorem unlink_of_none (leads : m.tree.Leads cwd path place)
    (none : m.tree.entryAt place = none) : m.unlink cwd path = (.error .noEntry, m) := by
  rw [unlink, leads.remove_none none]

theorem bindSocket_of_none (usable : address path = .ok path) (leads : m.tree.Leads cwd path place)
    (empty : m.tree.entryAt place = none) :
    m.bindSocket .stream cwd path =
      match m.denies .make with
      | some e => (.error e, m)
      | none => (.ok m.nextListener, m.seat place) := by
  simp only [bindSocket, usable, List.isEmpty_iff, leads.named, if_false, leads.create_none empty]
  rfl

theorem bindSocket_of_socket {kind : SocketKind} {listener : Option Nat}
    (usable : address path = .ok path) (leads : m.tree.Leads cwd path place)
    (socket : m.tree.entryAt place = some (.socket kind listener)) :
    m.bindSocket .stream cwd path = (.error .addressInUse, m) := by
  simp only [bindSocket, usable, List.isEmpty_iff, leads.named, if_false,
    leads.create_socket socket, if_true]

/-- Where a socket can be put, a place is offered. -/
theorem offers_of_bindSocket {m' : Machine} {listener : Nat} (rooted : m.tree.Rooted)
    (dir : m.tree.entryAt cwd = some .dir) (named : path.octets ≠ [])
    (h : m.bindSocket .stream cwd path = (.ok listener, m')) :
    ∃ place, m.Offers cwd path place ∧ m.Grants place ∧ m.tree.entryAt place = none := by
  obtain ⟨usable, made, -, tree, created, -⟩ := bindSocket_eq_ok named h
  obtain ⟨place, leads, none⟩ := FileTree.leads_of_create rooted dir created
  exact ⟨place, .of_none usable leads none, .of_none made none, none⟩

/-- A socket that cannot be put there changes nothing. -/
theorem eq_of_bindSocket_error {m' : Machine} {kind : SocketKind} {cause : SystemError}
    (h : m.bindSocket kind cwd path = (.error cause, m')) : m' = m := by
  unfold bindSocket at h
  simp only at h
  split at h
  · cases h
    rfl
  · split at h
    · cases h
    · split at h
      · cases h
        rfl
      · split at h <;> cases h
        rfl

/-- The machine after somebody connected to the path and closed the stream at once. -/
def knock (cwd : Place) (path : Path) (m : Machine) : Machine :=
  (m.connect cwd path).2.closeEnd .client m.nextStream

/-- Nothing in the tree changes when somebody knocks. -/
theorem tree_knock (m : Machine) (cwd : Place) (path : Path) :
    (m.knock cwd path).tree = m.tree := by
  unfold knock connect
  split <;> rfl

/-! ### Closing -/

/-- Closing streams changes nothing else. -/
theorem foldl_closeEnd (side : Side) (streams : List Nat) (m : Machine) :
    ∃ streamAt, streams.foldl (fun m stream => m.closeEnd side stream) m = { m with streamAt } := by
  induction streams generalizing m with
  | nil => exact ⟨m.streamAt, rfl⟩
  | cons stream rest ih =>
      obtain ⟨streamAt, closed⟩ := ih (m.closeEnd side stream)
      exact ⟨streamAt, closed⟩

theorem closeListener_eq (m : Machine) (listener : Nat) :
    ∃ streamAt, m.closeListener listener = { m.setQueue listener none with streamAt } :=
  foldl_closeEnd .grader _ (m.setQueue listener none)

theorem tree_closeListener (m : Machine) (listener : Nat) :
    (m.closeListener listener).tree = m.tree := by
  obtain ⟨_, closed⟩ := m.closeListener_eq listener
  rw [closed]
  rfl

theorem denies_closeListener (m : Machine) (listener : Nat) :
    (m.closeListener listener).denies = m.denies := by
  obtain ⟨_, closed⟩ := m.closeListener_eq listener
  rw [closed]
  rfl

theorem nextListener_closeListener (m : Machine) (listener : Nat) :
    (m.closeListener listener).nextListener = m.nextListener := by
  obtain ⟨_, closed⟩ := m.closeListener_eq listener
  rw [closed]
  rfl

theorem queueAt_closeListener (m : Machine) (listener l : Nat) :
    (m.closeListener listener).queueAt l = if l = listener then none else m.queueAt l := by
  obtain ⟨_, closed⟩ := m.closeListener_eq listener
  rw [closed]
  rfl

end Machine

/-! ### Steps of binding at a place -/

namespace Binding

variable {m m' : Machine} {cwd : Place} {path : Path} {place : Place}

theorem steps_of_step {b b' : Binding} (h : b.step cwd path m = (b', m')) (n : Nat) :
    steps cwd path (n + 1) b m = steps cwd path n b' m' := by
  rw [steps, h]

theorem steps_done (n : Nat) (result : Except Failure GraderSocket) :
    steps cwd path n (.done result) m = (.done result, m) := by
  induction n with
  | zero => rfl
  | succ n ih =>
      rw [steps, step]
      exact ih

/-- How many steps binding takes at most. -/
def remaining : Binding → Nat
  | look => 5
  | probe => 4
  | remove => 3
  | bind => 2
  | listen _ => 1
  | done _ => 0

/-- Every step comes nearer to the end of binding. -/
theorem remaining_step (cwd : Place) (path : Path) (b : Binding) (m : Machine) :
    (b.step cwd path m).1.remaining ≤ b.remaining - 1 := by
  cases b with
  | look =>
      simp only [step]
      split <;> simp [remaining]
  | probe =>
      simp only [step]
      split
      · exact Nat.zero_le _
      · split <;> simp [remaining]
  | remove =>
      simp only [step]
      split <;> simp [remaining]
  | bind =>
      simp only [step]
      split <;> simp [remaining]
  | listen listener => exact Nat.le.refl
  | done result => exact Nat.le.refl

/-- Five steps are enough. -/
theorem steps_five (cwd : Place) (path : Path) (m : Machine) :
    ∃ result m', steps cwd path 5 .look m = (.done result, m') := by
  have bounded (n : Nat) (b : Binding) (m : Machine) :
      (steps cwd path n b m).1.remaining ≤ b.remaining - n := by
    induction n generalizing b m with
    | zero => exact Nat.le.refl
    | succ n ih =>
        have step := b.remaining_step cwd path m
        have later := ih (b.step cwd path m).1 (b.step cwd path m).2
        rw [steps_of_step (Prod.eta (p := b.step cwd path m)).symm]
        omega
  have none := bounded 5 .look m
  cases five : steps cwd path 5 .look m with
  | mk b m' =>
      rw [five] at none
      cases b with
      | done result => exact ⟨result, m', rfl⟩
      | look | probe | remove | bind | listen => simp [remaining] at none

/-- Somebody listens: the binding fails, and closes its end of the stream. -/
theorem step_probe_reached {reached : Nat × List Nat}
    (h : m.listenerAt cwd path = .ok reached) :
    probe.step cwd path m =
      (.done (.error (.bind path (.custom "another grader is listening"))), m.knock cwd path) := by
  simp only [step, Machine.knock, Machine.connect, h]

theorem step_probe_failed {cause : SystemError} (h : m.listenerAt cwd path = .error cause)
    (other : cause ≠ .refused) :
    probe.step cwd path m = (.done (.error (.bind path cause)), m) := by
  simp only [step, Machine.connect_of_error h, if_neg other]

theorem step_listen (listener : Nat) :
    (listen listener).step cwd path m =
      (.done (.ok ⟨listener, path⟩), m.startListening listener) :=
  rfl

section Nothing

variable (leads : m.tree.Leads cwd path place) (none : m.tree.entryAt place = none)
include leads none

theorem step_look_none : look.step cwd path m = (.bind, m) := by
  simp only [step, FileTree.linkStatus, leads.statusOf_none none]

theorem step_remove_none :
    remove.step cwd path m = (.done (.error (.bind path .noEntry)), m) := by
  simp only [step, Machine.unlink_of_none leads none]

theorem step_bind_none (usable : Machine.address path = .ok path)
    (made : m.denies .make = Option.none) :
    bind.step cwd path m = (.listen m.nextListener, m.seat place) := by
  simp only [step, Machine.bindSocket_of_none usable leads none, made]

theorem step_bind_denied (usable : Machine.address path = .ok path) {cause : SystemError}
    (denied : m.denies .make = some cause) :
    bind.step cwd path m = (.done (.error (.bind path cause)), m) := by
  simp only [step, Machine.bindSocket_of_none usable leads none, denied]

end Nothing

section Socket

variable {kind : SocketKind} {listener : Option Nat} (leads : m.tree.Leads cwd path place)
  (socket : m.tree.entryAt place = some (.socket kind listener))
include leads socket

theorem step_look_socket : look.step cwd path m = (.probe, m) := by
  simp only [step, FileTree.linkStatus, leads.statusOf_socket socket]

theorem step_remove_socket (removable : m.denies .remove = none) :
    remove.step cwd path m = (.bind, m.vacate place) := by
  simp only [step, Machine.unlink_of_socket leads socket, removable]

theorem step_remove_denied {cause : SystemError} (denied : m.denies .remove = some cause) :
    remove.step cwd path m = (.done (.error (.bind path cause)), m) := by
  simp only [step, Machine.unlink_of_socket leads socket, denied]

theorem step_bind_socket (usable : Machine.address path = .ok path) :
    bind.step cwd path m = (.done (.error (.bind path .addressInUse)), m) := by
  simp only [step, Machine.bindSocket_of_socket usable leads socket]

theorem step_probe_deserted (usable : Machine.address path = .ok path)
    (deserted : m.Deserted (.socket kind listener)) :
    probe.step cwd path m = (.remove, m) := by
  have refused := Machine.listenerAt_of_deserted usable leads.named
    (leads.statusOf_socket socket true) deserted
  simp only [step, Machine.connect_of_error refused, if_true]

end Socket

end Binding

/-! ### Binding as a whole -/

namespace GraderSocket

variable {m m' : Machine} {cwd : Place} {path : Path} {place : Place}

theorem bind_of_steps {result : Except Failure GraderSocket}
    (h : Binding.steps cwd path 5 .look m = (.done result, m')) :
    bind cwd path m = (result, m') := by
  rw [bind, h]

theorem bind_of_none (h : m.Offers cwd path place) (none : m.tree.entryAt place = none)
    (made : m.denies .make = Option.none) :
    bind cwd path m = (.ok ⟨m.nextListener, path⟩, m.settle place) := by
  refine bind_of_steps ?_
  rw [Binding.steps_of_step (Binding.step_look_none h.leads none) 4,
    Binding.steps_of_step (Binding.step_bind_none h.leads none h.usable made) 3,
    Binding.steps_of_step (Binding.step_listen m.nextListener) 2, Binding.steps_done]
  rfl

/-- Where a deserted socket stands, the first steps find that out and remove it. -/
theorem steps_of_deserted (h : m.Offers cwd path place) {entry : Entry}
    (there : m.tree.entryAt place = some entry) (removable : m.denies .remove = none) (n : Nat) :
    Binding.steps cwd path (n + 3) .look m = Binding.steps cwd path n .bind (m.vacate place) := by
  have deserted := h.free entry there
  obtain ⟨kind, listener, rfl⟩ := deserted.isSocket
  rw [Binding.steps_of_step (Binding.step_look_socket h.leads there),
    Binding.steps_of_step (Binding.step_probe_deserted h.leads there h.usable deserted),
    Binding.steps_of_step (Binding.step_remove_socket h.leads there removable)]

/-- A path that offers a place is bound: a new listening socket stands there. -/
theorem bind_of_offers (h : m.Offers cwd path place) (granted : m.Grants place) :
    bind cwd path m = (.ok ⟨m.nextListener, path⟩, m.settle place) := by
  cases there : m.tree.entryAt place with
  | none => exact bind_of_none h there granted.make
  | some entry =>
      have removable := granted.remove (by simp [there])
      have still := Machine.leads_vacate h.leads h.onlySocket
      have empty := m.entryAt_vacate place
      refine bind_of_steps ?_
      rw [steps_of_deserted h there removable,
        Binding.steps_of_step (Binding.step_bind_none still empty h.usable granted.make) 1,
        Binding.steps_of_step (Binding.step_listen _) 0, Binding.steps_done,
        ← Machine.vacate_settle]
      rfl

/-- Where a deserted socket was removed and no other one could be put, nothing stands any more. -/
theorem bind_of_loses {cause : SystemError} (h : m.Loses cwd path place cause) :
    bind cwd path m = (.error (.bind path cause), m.vacate place) := by
  obtain ⟨entry, there⟩ := Option.ne_none_iff_exists'.mp h.leftover
  have still := Machine.leads_vacate h.offers.leads h.offers.onlySocket
  have empty := m.entryAt_vacate place
  refine bind_of_steps ?_
  rw [steps_of_deserted h.offers there h.removable,
    Binding.steps_of_step (Binding.step_bind_denied still empty h.offers.usable h.denied) 1,
    Binding.steps_done]

/-- Where the system is against a new socket, binding fails. -/
theorem bind_of_not_grants (h : m.Offers cwd path place) (denied : ¬ m.Grants place) :
    ∃ cause m', bind cwd path m = (.error (.bind path cause), m') ∧
      (m'.tree = m.tree ∨ m.Loses cwd path place cause ∧ m'.tree = m.tree.set place none) := by
  cases there : m.tree.entryAt place with
  | none =>
      cases made : m.denies .make with
      | none => exact absurd ⟨made, fun some => absurd there some⟩ denied
      | some cause =>
          refine ⟨cause, m, bind_of_steps ?_, Or.inl rfl⟩
          rw [Binding.steps_of_step (Binding.step_look_none h.leads there) 4,
            Binding.steps_of_step (Binding.step_bind_denied h.leads there h.usable made) 3,
            Binding.steps_done]
  | some entry =>
      cases removed : m.denies .remove with
      | some cause =>
          have deserted := h.free entry there
          obtain ⟨kind, listener, rfl⟩ := deserted.isSocket
          refine ⟨cause, m, bind_of_steps ?_, Or.inl rfl⟩
          rw [Binding.steps_of_step (Binding.step_look_socket h.leads there) 4,
            Binding.steps_of_step (Binding.step_probe_deserted h.leads there h.usable deserted) 3,
            Binding.steps_of_step (Binding.step_remove_denied h.leads there removed) 2,
            Binding.steps_done]
      | none =>
          cases made : m.denies .make with
          | none => exact absurd ⟨made, fun _ => removed⟩ denied
          | some cause =>
              have loses : m.Loses cwd path place cause := ⟨h, by simp [there], removed, made⟩
              exact ⟨cause, _, bind_of_loses loses, Or.inr ⟨loses, rfl⟩⟩

/-- Where somebody listens, binding fails. -/
theorem bind_of_reached {reached : Nat × List Nat}
    (look : Binding.look.step cwd path m = (.probe, m))
    (h : m.listenerAt cwd path = .ok reached) :
    bind cwd path m =
      (.error (.bind path (.custom "another grader is listening")), m.knock cwd path) := by
  refine bind_of_steps ?_
  rw [Binding.steps_of_step look 4, Binding.steps_of_step (Binding.step_probe_reached h) 3,
    Binding.steps_done]

section Dropped

variable (h : m.Offers cwd path place) (removable : m.denies .remove = none)
include h removable

end Dropped

/-! ### The empty path -/

section Empty

variable (empty : path.octets = [])
include empty

end Empty

/-! ### Safety -/

/-- A work directory in which a grader that was killed has left its socket. -/
def leftover : FileTree :=
  { entries := [([], .dir), ([Utf8.encode "w"], .dir),
      ([Utf8.encode "sock", Utf8.encode "w"], .socket .stream none),
      ([Utf8.encode "notes", Utf8.encode "w"], .file 0)],
    files := [{ content := Utf8.encode "notes" }] }

theorem rooted_leftover : leftover.Rooted :=
  FileTree.rooted_of_isRooted (by decide)

theorem offers_leftover :
    ∃ place, (Machine.ofTree leftover).Offers [] (Path.ofText "/w/sock") place ∧
      leftover.entryAt place = some (.socket .stream none) := by
  have found : leftover.linkStatus [] (Path.ofText "/w/sock") = .ok (.socket .stream none) := by
    cbv
  obtain ⟨place, leads, there⟩ := FileTree.leads_of_linkStatus rooted_leftover rfl found
  refine ⟨place, ⟨by cbv, leads, fun entry stands => ?_⟩, there⟩
  obtain rfl := Option.some.inj (there.symm.trans stands)
  exact (Machine.ofTree leftover).deserted_of_none .stream

end GraderSocket

end ReviewChannel
