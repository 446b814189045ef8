import ReviewChannel.Proofs.Contest

/-!
Who owns a path that two graders bind and drop.

* `Contest.exclusive_of_returned` — the ownership is exclusive if one grader begins after the other
  has returned; `Contest.Follows` is what keeps their steps from clashing.
* `Contest.exclusive_of_none` — so it is where nothing stood, if nobody acts between a socket's
  being put at the path and its listening; `Contest.Tended` is what keeps it so.
* `Contest.lost_of_stale`, `lost_of_absent` — interleavings after which both sockets are alive and
  one grader removes the file of the other.
* `Contest.exclusive_ownership` puts these together; `ownership_lost` has two directories in which
  the ownership is lost.
-/

namespace ReviewChannel.Contest

variable {c : Contest} {cwd : Place} {path : Path} {place : Place} {p q : Party}

/-! ### How an interleaving begins -/

variable {m : Machine}

/-- Nobody has a socket open. -/
theorem sound_of_idle (leads : c.machine.tree.Leads cwd path place)
    (only : c.machine.tree.OnlySocket place) (idle : ∀ p, (c.tenure p).number? = none) :
    c.Sound cwd path place := by
  have dead (p : Party) (socket : GraderSocket) : (c.tenure p).alive? ≠ some socket :=
    fun alive => by cases (idle p).symm.trans (number?_of_alive? alive)
  refine ⟨leads, only, fun p socket alive => absurd alive (dead p socket),
    fun p socket alive => absurd alive (dead p socket), fun p n opened => ?_,
    fun p n _ opened => ?_⟩
  · cases (idle p).symm.trans opened
  · cases (idle p).symm.trans opened

/-- Two graders at a place that is offered. -/
theorem sound_start (offers : m.Offers cwd path place) : (start m).Sound cwd path place :=
  sound_of_idle offers.leads offers.onlySocket fun _ => rfl

/-- One of them has bound the path before the other begins. -/
theorem sound_settled (offers : m.Offers cwd path place) (p : Party) :
    ((start m).put p (.binding (.done (.ok ⟨m.nextListener, path⟩)), m.settle place)).Sound cwd
      path place where
  leads := Machine.leads_settle offers.leads offers.onlySocket
  only := m.onlySocket_settle place
  owned := by
    refine forall_put (fun τ => ∀ socket, τ.alive? = some socket →
      ((start m).put p (_, m.settle place)).Owned place socket) (fun socket alive => ?_)
      fun socket alive => ?_
    · cases alive
      exact ⟨m.entryAt_settle place, Option.isSome_iff_exists.mpr ⟨[], m.queueAt_settle place⟩⟩
    · cases alive
  sockets := by
    refine (sound_start offers).sockets.put (Nat.le_succ _) (fun socket alive => ?_)
      fun n opened => Or.inr ?_
    · cases alive
      rfl
    · cases opened
      exact ⟨Nat.le.refl, Nat.lt_succ_self _⟩

/-- One of them has bound the path, or failed to, before the other begins. -/
theorem sound_returned (offers : m.Offers cwd path place) (p : Party) :
    (returned cwd path p m).Sound cwd path place := by
  rw [returned]
  by_cases granted : m.Grants place
  · rw [GraderSocket.bind_of_offers offers granted]
    exact sound_settled offers p
  · obtain ⟨cause, m', failed, left⟩ := GraderSocket.bind_of_not_grants offers granted
    have vacant := Machine.leads_vacate offers.leads offers.onlySocket
    have empty := FileTree.onlySocket_of_none (m.entryAt_vacate place)
    rw [failed]
    refine sound_of_idle ?_ ?_ (forall_put (·.number? = none) rfl rfl)
    · rcases left with same | ⟨-, gone⟩
      · exact same ▸ offers.leads
      · exact gone ▸ vacant
    · rcases left with same | ⟨-, gone⟩
      · exact same ▸ offers.onlySocket
      · exact gone ▸ empty

/-! ### One after the other -/

/-- One grader has returned from binding, and the other does nothing that clashes with it. -/
structure Follows (place : Place) (p : Party) (c : Contest) : Prop where
  returned : ∀ b, c.tenure p = .binding b → ∃ result, b = .done result
  removes : c.tenure p.rival = .binding .remove → (c.tenure p).alive? = none
  listens : ∀ n, c.tenure p.rival = .binding (.listen n) → (c.tenure p).alive? = none ∧
    c.machine.tree.entryAt place = some (.socket .stream (some n))

/-- Once one has returned, the step that comes next does not clash. -/
theorem Follows.not_clashes (h : c.Follows place p) (sound : c.Sound cwd path place) (q : Party) :
    ¬ c.Clashes cwd path q := by
  rcases Party.eq_or_eq_rival p q with rfl | rfl
  · rintro (⟨removes, -⟩ | ⟨n, listens, -⟩)
    · obtain ⟨result, is⟩ := h.returned .remove removes
      cases is
    · obtain ⟨result, is⟩ := h.returned (.listen n) listens
      cases is
  · rintro (⟨removes, -, living⟩ | ⟨n, listens, missing⟩)
    · rw [Party.rival_rival, h.removes removes] at living
      cases living
    · exact missing (sound.leads.statusOf_socket (h.listens n listens).2 false)

/-- Only who is refused goes on to remove. -/
theorem refused_of_remove {τ : Tenure} (h : (τ.step cwd path m).1 = .binding .remove) :
    m.listenerAt cwd path = .error .refused := by
  cases τ with
  | gone | leaving => cases h
  | binding b =>
      cases b with
      | done result => cases result <;> cases h
      | listen => cases h
      | look | remove | bind =>
          have is := Tenure.binding.inj h
          simp only [Binding.step] at is
          split at is <;> cases is
      | probe =>
          have is : (Binding.probe.step cwd path m).1 = .remove := Tenure.binding.inj h
          cases reached : m.listenerAt cwd path with
          | ok =>
              rw [Binding.step_probe_reached reached] at is
              cases is
          | error cause =>
              by_cases refused : cause = .refused
              · rw [refused]
              · rw [Binding.step_probe_failed reached refused] at is
                cases is

/-- Only who has put a socket at the path goes on to listen. -/
theorem bindSocket_of_listen {τ : Tenure} {n : Nat}
    (h : (τ.step cwd path m).1 = .binding (.listen n)) :
    m.bindSocket .stream cwd path = (.ok n, (τ.step cwd path m).2) := by
  cases τ with
  | gone | leaving => cases h
  | binding b =>
      cases b with
      | done result => cases result <;> cases h
      | listen => cases h
      | look | remove | probe =>
          have is := Tenure.binding.inj h
          simp only [Binding.step] at is
          repeat' split at is
          all_goals cases is
      | bind =>
          have is : (Binding.bind.step cwd path m).1 = .listen n := Tenure.binding.inj h
          change _ = (_, (Binding.bind.step cwd path m).2)
          simp only [Binding.step] at is ⊢
          split at is
          · rename_i bound
            cases is
            rw [bound]
          · cases is

/-- Who goes on to listen has met nobody who is alive, and has a socket at the place. -/
theorem Sound.seated (h : c.Sound cwd path place) (usable : Machine.address path = .ok path)
    {n : Nat} (listens : ((c.tenure p).step cwd path c.machine).1 = .binding (.listen n)) :
    (∀ q, (c.tenure q).alive? = none) ∧
      ((c.tenure p).step cwd path c.machine).2.tree.entryAt place =
        some (.socket .stream (some n)) := by
  have bound := bindSocket_of_listen listens
  cases there : c.machine.tree.entryAt place with
  | some entry =>
      obtain ⟨kind, listener, rfl⟩ := h.only entry there
      rw [Machine.bindSocket_of_socket usable h.leads there] at bound
      cases congrArg Prod.fst bound
  | none =>
      rw [Machine.bindSocket_of_none usable h.leads there] at bound
      split at bound
      · cases congrArg Prod.fst bound
      · cases congrArg Prod.fst bound
        have seated := congrArg (fun next => next.2.tree.entryAt place) bound
        exact ⟨h.nobody there, seated.symm.trans (c.machine.entryAt_seat place)⟩

/-- A grader that has returned binds nothing more, and changes nothing in the tree unless its socket
is alive. -/
theorem step_of_returned (cwd : Place) (path : Path) (m : Machine) {τ : Tenure}
    (returned : ∀ b, τ = .binding b → ∃ result, b = .done result) :
    (∀ b, (τ.step cwd path m).1 = .binding b → ∃ result, b = .done result) ∧
      (τ.step cwd path m).1.alive? = none ∧
      (τ.alive? = none → (τ.step cwd path m).2.tree = m.tree) := by
  cases τ with
  | gone => exact ⟨fun _ is => (by cases is), rfl, fun _ => rfl⟩
  | leaving socket =>
      exact ⟨fun _ is => (by cases is), rfl, fun _ => m.tree_closeListener socket.listener⟩
  | binding b =>
      obtain ⟨result, rfl⟩ := returned b rfl
      cases result with
      | ok socket => exact ⟨fun _ is => (by cases is), rfl, fun dead => (by cases dead)⟩
      | error failure =>
          exact ⟨fun b is => ⟨.error failure, (Tenure.binding.inj is).symm⟩, rfl, fun _ => rfl⟩

/-- Once one has returned, no step of the two leads up to a clash. -/
theorem Follows.move (h : c.Follows place p) (sound : c.Sound cwd path place)
    (usable : Machine.address path = .ok path) (q : Party) :
    (c.move cwd path q).Follows place p := by
  rcases Party.eq_or_eq_rival p q with rfl | rfl
  · obtain ⟨returned, dead, same⟩ := step_of_returned cwd path c.machine h.returned
    constructor
    · rw [Contest.move, put_tenure_self]
      exact returned
    · rw [Contest.move, put_tenure_self]
      exact fun _ => dead
    · intro n
      rw [Contest.move, put_tenure_self, put_tenure_rival]
      intro listens
      obtain ⟨before, stands⟩ := h.listens n listens
      exact ⟨dead, (congrArg (·.entryAt place) (same before)).trans stands⟩
  · have stays : (c.move cwd path p.rival).tenure p = c.tenure p := by
      have other := put_tenure_rival (c := c) (p := p.rival)
        ((c.tenure p.rival).step cwd path c.machine)
      rwa [Party.rival_rival] at other
    constructor
    · rw [stays]
      exact h.returned
    · rw [stays, Contest.move, put_tenure_self]
      intro removes
      exact sound.nobody_of_refused usable (refused_of_remove removes) p
    · intro n
      rw [stays, Contest.move, put_tenure_self]
      intro listens
      obtain ⟨nobody, stands⟩ := sound.seated usable listens
      exact ⟨nobody p, stands⟩

theorem follows_returned (p : Party) : (returned cwd path p m).Follows place p := by
  refine ⟨?_, ?_, fun n => ?_⟩
  · rw [returned, put_tenure_self]
    exact fun b is => ⟨_, (Tenure.binding.inj is).symm⟩
  · rw [returned, put_tenure_rival]
    exact fun is => by cases is
  · rw [returned, put_tenure_rival]
    exact fun is => by cases is

/-- Whatever the graders do after one has returned, the ownership is exclusive. -/
theorem exclusive_of_returned (offers : m.Offers cwd path place) (p : Party)
    (moves : List Party) : ((returned cwd path p m).run cwd path moves).Exclusive cwd path := by
  have both : ((returned cwd path p m).run cwd path moves).Sound cwd path place ∧
      ((returned cwd path p m).run cwd path moves).Follows place p := by
    induction moves using List.reverseRecOn with
    | nil => exact ⟨sound_returned offers p, follows_returned p⟩
    | append_singleton moves q ih =>
        obtain ⟨sound, follows⟩ := ih
        rw [run_concat]
        exact ⟨sound.move offers.usable (follows.not_clashes sound q),
          follows.move sound offers.usable q⟩
  exact both.1.exclusive offers.usable

/-! ### Where nothing stood -/

/-- What stands at the place is a socket that is alive, and it can be removed. So nobody finds one
deserted. -/
structure Tended (place : Place) (c : Contest) : Prop where
  removable : c.machine.denies .remove = none
  alive : ∀ entry, c.machine.tree.entryAt place = some entry →
    ∃ p socket, (c.tenure p).alive? = some socket ∧
      entry = .socket .stream (some socket.listener)
  careful : ∀ p, c.tenure p ≠ .binding .remove ∧ ∀ n, c.tenure p ≠ .binding (.listen n)

theorem Tended.not_clashes (h : c.Tended place) (p : Party) : ¬ c.Clashes cwd path p := by
  rintro (⟨removes, -⟩ | ⟨n, listens, -⟩)
  · exact (h.careful p).1 removes
  · exact (h.careful p).2 n listens

theorem Tended.careful_put (h : c.Tended place) {next : Tenure × Machine}
    (careful : next.1 ≠ .binding .remove ∧ ∀ n, next.1 ≠ .binding (.listen n)) (q : Party) :
    (c.put p next).tenure q ≠ .binding .remove ∧
      ∀ n, (c.put p next).tenure q ≠ .binding (.listen n) :=
  forall_put (fun τ => τ ≠ .binding .remove ∧ ∀ n, τ ≠ .binding (.listen n)) careful
    (h.careful p.rival) q

/-- A step that leaves the tree and the socket of the grader as they were. -/
theorem Tended.put (h : c.Tended place) {τ : Tenure} {m' : Machine}
    (tree : m'.tree = c.machine.tree) (denies : m'.denies = c.machine.denies)
    (same : ∀ socket, (c.tenure p).alive? = some socket → τ.alive? = some socket)
    (careful : τ ≠ .binding .remove ∧ ∀ n, τ ≠ .binding (.listen n)) :
    (c.put p (τ, m')).Tended place where
  removable := (congrFun denies .remove).trans h.removable
  alive entry there := by
    obtain ⟨q, socket, alive, is⟩ :=
      h.alive entry ((congrArg (·.entryAt place) tree).symm.trans there)
    rcases Party.eq_or_eq_rival p q with rfl | rfl
    · exact ⟨q, socket, by rw [put_tenure_self]; exact same socket alive, is⟩
    · exact ⟨p.rival, socket, by rw [put_tenure_rival]; exact alive, is⟩
  careful := h.careful_put careful

theorem Tended.binding (h : c.Tended place) {b b' : Binding} {m' : Machine}
    (is : c.tenure p = .binding b) (before : (Tenure.binding b).alive? = none)
    (step : b.step cwd path c.machine = (b', m')) (tree : m'.tree = c.machine.tree)
    (denies : m'.denies = c.machine.denies)
    (careful : Tenure.binding b' ≠ .binding .remove ∧
      ∀ n, Tenure.binding b' ≠ .binding (.listen n)) : (c.move cwd path p).Tended place := by
  rw [move_binding is before step]
  refine h.put tree denies (fun socket alive => ?_) careful
  rw [is, before] at alive
  cases alive

/-- A grader that has put a socket at the place and listens there is alive. -/
theorem Tended.settle (h : c.Tended place) : (c.put p
    (.binding (.done (.ok ⟨c.machine.nextListener, path⟩)), c.machine.settle place)).Tended
      place where
  removable := h.removable
  alive entry found := by
    refine ⟨p, ⟨c.machine.nextListener, path⟩, ?_,
      Option.some.inj (found.symm.trans (c.machine.entryAt_settle place))⟩
    rw [put_tenure_self]
    rfl
  careful := h.careful_put ⟨by simp, by simp⟩

theorem Tended.bind_failed (h : c.Tended place) (sound : c.Sound cwd path place)
    (usable : Machine.address path = .ok path) (is : c.tenure p = .binding .bind)
    {failure : Failure}
    (step : Binding.bind.step cwd path c.machine = (.done (.error failure), c.machine)) :
    ((c.move cwd path p).move cwd path p).Tended place ∧
      ((c.move cwd path p).move cwd path p).Sound cwd path place := by
  have still : (c.move cwd path p).move cwd path p = c.move cwd path p := by
    rw [move_binding is rfl step, move_put]
    rfl
  rw [still]
  exact ⟨h.binding is rfl step rfl rfl ⟨by simp, by simp⟩, sound.bind usable is⟩

/-- A grader that puts a socket at the place and listens at once takes it over, or fails. -/
theorem Tended.bind (h : c.Tended place) (sound : c.Sound cwd path place)
    (usable : Machine.address path = .ok path) (is : c.tenure p = .binding .bind) :
    ((c.move cwd path p).move cwd path p).Tended place ∧
      ((c.move cwd path p).move cwd path p).Sound cwd path place := by
  cases there : c.machine.tree.entryAt place with
  | some entry =>
      obtain ⟨kind, listener, rfl⟩ := sound.only entry there
      exact h.bind_failed sound usable is (Binding.step_bind_socket sound.leads there usable)
  | none =>
      cases made : c.machine.denies .make with
      | some cause =>
          exact h.bind_failed sound usable is
            (Binding.step_bind_denied sound.leads there usable made)
      | none =>
          have seats := move_binding is rfl (Binding.step_bind_none sound.leads there usable made)
          constructor
          · rw [seats, move_put]
            exact h.settle
          · rw [seats, move_binding (put_tenure_self _) rfl (Binding.step_listen _)]
            exact (sound.seat there).settle (put_tenure_self _) (c.machine.entryAt_seat place)

theorem Tended.look (h : c.Tended place) (sound : c.Sound cwd path place)
    (is : c.tenure p = .binding .look) : (c.move cwd path p).Tended place := by
  cases there : c.machine.tree.entryAt place with
  | none =>
      have step := Binding.step_look_none sound.leads there
      exact h.binding is rfl step rfl rfl ⟨by simp, by simp⟩
  | some entry =>
      obtain ⟨kind, listener, rfl⟩ := sound.only entry there
      have step := Binding.step_look_socket sound.leads there
      exact h.binding is rfl step rfl rfl ⟨by simp, by simp⟩

/-- Nobody is refused, so nobody goes on to remove. -/
theorem Tended.not_refused (h : c.Tended place) (sound : c.Sound cwd path place)
    (usable : Machine.address path = .ok path) :
    c.machine.listenerAt cwd path ≠ .error .refused := by
  intro refused
  cases there : c.machine.tree.entryAt place with
  | none =>
      have status := sound.leads.statusOf_none there true
      simp [Machine.listenerAt, usable, sound.leads.named, FileTree.status, status] at refused
      exact absurd refused (by decide)
  | some entry =>
      obtain ⟨q, socket, alive, -⟩ := h.alive entry there
      cases (sound.nobody_of_refused usable refused q).symm.trans alive

theorem Tended.probe (h : c.Tended place) (sound : c.Sound cwd path place)
    (usable : Machine.address path = .ok path) (is : c.tenure p = .binding .probe) :
    (c.move cwd path p).Tended place := by
  cases reached : c.machine.listenerAt cwd path with
  | ok =>
      refine h.binding is rfl (Binding.step_probe_reached reached)
        (c.machine.tree_knock cwd path) ?_ ⟨by simp, by simp⟩
      rw [Machine.knock, Machine.connect, reached]
      rfl
  | error cause =>
      have unrefused : cause ≠ .refused := by
        rintro rfl
        exact h.not_refused sound usable reached
      exact h.binding is rfl (Binding.step_probe_failed reached unrefused) rfl rfl
        ⟨by simp, by simp⟩

/-- Whoever drops a socket leaves nothing at the place. -/
theorem Tended.leave (h : c.Tended place) (sound : c.Sound cwd path place) {socket : GraderSocket}
    (is : c.tenure p = .binding (.done (.ok socket))) : (c.move cwd path p).Tended place := by
  have alive : (c.tenure p).alive? = some socket := is ▸ rfl
  have stands := (sound.owned p socket alive).stands
  have drops : c.move cwd path p = c.put p (.leaving socket, c.machine.vacate place) := by
    rw [Contest.move, is, Tenure.step, sound.sockets.paths p socket alive,
      Machine.unlink_of_socket sound.leads stands, h.removable]
  rw [drops]
  refine ⟨h.removable, fun entry there => ?_, h.careful_put ⟨by simp, by simp⟩⟩
  cases (c.machine.entryAt_vacate place).symm.trans there

/-- Where every socket that is found is alive, every other step keeps it so. -/
theorem Tended.move (h : c.Tended place) (sound : c.Sound cwd path place)
    (usable : Machine.address path = .ok path) (other : c.tenure p ≠ .binding .bind) :
    (c.move cwd path p).Tended place := by
  cases is : c.tenure p with
  | gone =>
      rw [Contest.move, is]
      exact h.put rfl rfl (fun _ alive => by rw [is] at alive; cases alive) ⟨by simp, by simp⟩
  | leaving socket =>
      rw [Contest.move, is]
      exact h.put (c.machine.tree_closeListener _) (c.machine.denies_closeListener _)
        (fun _ alive => by rw [is] at alive; cases alive) ⟨by simp, by simp⟩
  | binding b =>
      cases b with
      | bind => exact absurd is other
      | remove => exact absurd is (h.careful p).1
      | listen n => exact absurd is ((h.careful p).2 n)
      | look => exact h.look sound is
      | probe => exact h.probe sound usable is
      | done result =>
          cases result with
          | error failure => exact h.binding is rfl rfl rfl rfl ⟨by simp, by simp⟩
          | ok socket => exact h.leave sound is

theorem Tended.stride (h : c.Tended place) (sound : c.Sound cwd path place)
    (usable : Machine.address path = .ok path) (p : Party) :
    (c.stride cwd path p).Tended place ∧ (c.stride cwd path p).Sound cwd path place := by
  unfold Contest.stride
  split
  · rename_i is
    exact h.bind sound usable is
  · rename_i other
    exact ⟨h.move sound usable other, sound.move usable (h.not_clashes p)⟩

/-- Where nothing stood at first, and nobody acts between a socket's being put there and its
listening, the ownership is exclusive. -/
theorem exclusive_of_none (offers : m.Offers cwd path place)
    (none : m.tree.entryAt place = none) (removable : m.denies .remove = Option.none)
    (turns : List Party) : ((start m).strides cwd path turns).Exclusive cwd path := by
  have both : ((start m).strides cwd path turns).Tended place ∧
      ((start m).strides cwd path turns).Sound cwd path place := by
    induction turns using List.reverseRecOn with
    | nil =>
        refine ⟨⟨removable, fun entry there => ?_, fun p => ⟨?_, fun n => ?_⟩⟩, sound_start offers⟩
        · cases none.symm.trans there
        · exact fun is => by cases is
        · exact fun is => by cases is
    | append_singleton turns p ih =>
        rw [strides_concat]
        exact ih.1.stride ih.2 offers.usable p
  exact both.2.exclusive offers.usable

/-! ### Races -/

/-- The contest in which one grader has come so far, and the other one so far. -/
def pair (p : Party) (m : Machine) (τ σ : Tenure) : Contest :=
  { machine := m, tenure := fun q => if q = p then τ else σ }

variable {m' : Machine} {τ τ' σ : Tenure}

theorem start_eq_pair (m : Machine) :
    start m = pair .first m (.binding .look) (.binding .look) := by
  simp only [start, pair, ite_self]

theorem pair_swap (m : Machine) (τ σ : Tenure) : pair .first m τ σ = pair .second m σ τ := by
  simp only [pair, Contest.mk.injEq, true_and]
  funext q
  cases q <;> rfl

theorem move_pair (step : τ.step cwd path m = (τ', m')) :
    (pair p m τ σ).move cwd path p = pair p m' τ' σ := by
  have is : (pair p m τ σ).tenure p = τ := if_pos rfl
  rw [move, is, show τ.step cwd path (pair p m τ σ).machine = (τ', m') from step]
  simp only [put, pair, Contest.mk.injEq, true_and]
  funext q
  split <;> rfl

theorem stride_pair (step : τ.step cwd path m = (τ', m')) (other : τ ≠ .binding .bind) :
    (pair p m τ σ).stride cwd path p = pair p m' τ' σ := by
  have is : (pair p m τ σ).tenure p = τ := if_pos rfl
  unfold stride
  split
  · rename_i binds
    exact absurd (is.symm.trans binds) other
  · exact move_pair step

theorem stride_pair_bind {n : Nat}
    (step : (Tenure.binding .bind).step cwd path m = (.binding (.listen n), m')) :
    (pair p m (.binding .bind) σ).stride cwd path p =
      pair p (m'.startListening n) (.binding (.done (.ok ⟨n, path⟩))) σ := by
  have is : (pair p m (.binding .bind) σ).tenure p = .binding .bind := if_pos rfl
  have listens : (Tenure.binding (.listen n)).step cwd path m' =
      (.binding (.done (.ok ⟨n, path⟩)), m'.startListening n) := rfl
  rw [stride, is]
  exact (congrArg (move cwd path p) (move_pair step)).trans (move_pair listens)

/-- Both sockets are alive, the path leads to the second one, and dropping the first removes the
file of the second. -/
structure Lost (cwd : Place) (path : Path) (c : Contest) : Prop where
  both : ∃ socket other, (c.tenure .first).alive? = some socket ∧
    (c.tenure .second).alive? = some other ∧ other.listener ≠ socket.listener ∧
    (∃ queue, c.machine.listenerAt cwd path = .ok (other.listener, queue)) ∧
    ((c.move cwd path .first).tenure .second).alive? = some other
  removed : (c.move cwd path .first).machine.tree.linkStatus cwd path = .error .noEntry

section Race

variable (offers : m.Offers cwd path place) (made : m.denies .make = none)
  (removable : m.denies .remove = none)
include offers

/-- Two graders have bound the path, one after the other. -/
theorem lost_of_settled (removable : m.denies .remove = none) :
    (pair .second ((m.settle place).settle place)
      (.binding (.done (.ok ⟨m.nextListener + 1, path⟩)))
      (.binding (.done (.ok ⟨m.nextListener, path⟩)))).Lost cwd path := by
  have leads := Machine.leads_settle (Machine.leads_settle offers.leads offers.onlySocket)
    (m.onlySocket_settle place)
  have stands := (m.settle place).entryAt_settle place
  have listens : ((m.settle place).settle place).Listens cwd path (m.nextListener + 1) :=
    ⟨offers.usable, leads.named, leads.statusOf_socket stands true⟩
  have granted : ((m.settle place).settle place).denies .remove = none := removable
  have drops : (Tenure.binding (.done (.ok ⟨m.nextListener, path⟩))).step cwd path
      ((m.settle place).settle place) =
        (.leaving ⟨m.nextListener, path⟩, ((m.settle place).settle place).vacate place) := by
    rw [Tenure.step, Machine.unlink_of_socket leads stands, granted]
  rw [← pair_swap]
  constructor
  · refine ⟨⟨m.nextListener, path⟩, ⟨m.nextListener + 1, path⟩, rfl, rfl, Nat.succ_ne_self _,
      ⟨[], listens.listenerAt_eq ((m.settle place).queueAt_settle place)⟩, ?_⟩
    rw [move_pair drops]
    rfl
  · rw [move_pair drops]
    exact (Machine.leads_vacate leads (FileTree.onlySocket_of_socket stands)).statusOf_none
      (((m.settle place).settle place).entryAt_vacate place) false

include removable in
/-- The second grader is about to remove the socket of the first, which is alive. -/
theorem removes_settled : (Tenure.binding .remove).step cwd path (m.settle place) =
    (.binding .bind, (m.settle place).vacate place) :=
  step_binding rfl (Binding.step_remove_socket (Machine.leads_settle offers.leads offers.onlySocket)
    (m.entryAt_settle place) removable)

include made in
/-- And then it puts its own there. -/
theorem binds_settled :
    (Tenure.binding .bind).step cwd path ((m.settle place).vacate place) =
      (.binding (.listen (m.nextListener + 1)), ((m.settle place).vacate place).seat place) := by
  have leads := Machine.leads_settle offers.leads offers.onlySocket
  exact step_binding rfl (Binding.step_bind_none
    (Machine.leads_vacate leads (m.onlySocket_settle place))
    ((m.settle place).entryAt_vacate place) offers.usable made)

include made removable

/-- Both graders find the same socket deserted, and one has replaced it before the other removes
it. -/
theorem lost_of_stale {entry : Entry} (there : m.tree.entryAt place = some entry) :
    ((start m).strides cwd path
      [.first, .first, .second, .second, .first, .first, .second, .second]).Lost cwd path := by
  have deserted := offers.free entry there
  obtain ⟨kind, listener, rfl⟩ := deserted.isSocket
  have looks := step_binding rfl (Binding.step_look_socket offers.leads there)
  have probes := step_binding rfl
    (Binding.step_probe_deserted offers.leads there offers.usable deserted)
  have removes := step_binding rfl (Binding.step_remove_socket offers.leads there removable)
  have still := Machine.leads_vacate offers.leads offers.onlySocket
  have binds := step_binding rfl
    (Binding.step_bind_none still (m.entryAt_vacate place) offers.usable made)
  have first : ((m.vacate place).seat place).startListening (m.vacate place).nextListener =
      m.settle place := m.vacate_settle place
  have second : (((m.settle place).vacate place).seat place).startListening (m.nextListener + 1) =
      (m.settle place).settle place := (m.settle place).vacate_settle place
  rw [start_eq_pair, strides]
  simp only [List.foldl_cons, List.foldl_nil]
  rw [stride_pair looks (by simp), stride_pair probes (by simp), pair_swap,
    stride_pair looks (by simp), stride_pair probes (by simp), ← pair_swap,
    stride_pair removes (by simp), stride_pair_bind binds, first, pair_swap,
    stride_pair (removes_settled offers removable) (by simp),
    stride_pair_bind (binds_settled offers made), second]
  exact lost_of_settled offers removable

/-- One grader finds the socket of the other before it listens, and removes it when it does. -/
theorem lost_of_absent (none : m.tree.entryAt place = Option.none) :
    ((start m).run cwd path
      [.first, .first, .second, .second, .first, .second, .second, .second]).Lost cwd path := by
  have seated := Machine.leads_seat offers.leads offers.onlySocket
  have stands := m.entryAt_seat place
  have deserted : (m.seat place).Deserted (.socket .stream (some m.nextListener)) :=
    ⟨.stream, some m.nextListener, rfl, fun number is => Option.some.inj is ▸ if_pos rfl⟩
  have looks := step_binding rfl (Binding.step_look_none offers.leads none)
  have binds := step_binding rfl (Binding.step_bind_none offers.leads none offers.usable made)
  have looks' := step_binding rfl (Binding.step_look_socket seated stands)
  have probes := step_binding rfl
    (Binding.step_probe_deserted seated stands offers.usable deserted)
  have listens (n : Nat) (m : Machine) : (Tenure.binding (.listen n)).step cwd path m =
      (.binding (.done (.ok ⟨n, path⟩)), m.startListening n) := rfl
  have first : (m.seat place).startListening m.nextListener = m.settle place := rfl
  have second : (((m.settle place).vacate place).seat place).startListening (m.nextListener + 1) =
      (m.settle place).settle place := (m.settle place).vacate_settle place
  rw [start_eq_pair, run]
  simp only [List.foldl_cons, List.foldl_nil]
  rw [move_pair looks, move_pair binds, pair_swap, move_pair looks', move_pair probes, ← pair_swap,
    move_pair (listens _ _), first, pair_swap, move_pair (removes_settled offers removable),
    move_pair (binds_settled offers made), move_pair (listens _ _), second]
  exact lost_of_settled offers removable

end Race

/-! ### Paths that cannot be bound -/

/-- Binding comes to a failure from here, and changes nothing on the way. -/
inductive Hopeless (cwd : Place) (path : Path) (m : Machine) : Binding → Prop where
  | failed (failure : Failure) : Hopeless cwd path m (.done (.error failure))
  | goes {b b' : Binding} (unfinished : 0 < b.remaining)
      (step : b.step cwd path m = (b', m)) (later : Hopeless cwd path m b') :
      Hopeless cwd path m b

theorem Hopeless.step {b : Binding} (h : Hopeless cwd path m b) :
    ∃ b', b.step cwd path m = (b', m) ∧ Hopeless cwd path m b' := by
  cases h with
  | failed failure => exact ⟨_, rfl, .failed failure⟩
  | goes _ step later => exact ⟨_, step, later⟩

theorem Hopeless.alive? {b : Binding} (h : Hopeless cwd path m b) :
    (Tenure.binding b).alive? = none := by
  cases h with
  | failed failure => rfl
  | goes unfinished _ _ =>
      cases b with
      | done result => cases unfinished
      | look | probe | remove | bind | listen => rfl

/-- Binding a path that cannot be bound fails and leaves the machine as it is. -/
theorem Hopeless.bind_eq (h : Hopeless cwd path m .look) :
    ∃ failure, GraderSocket.bind cwd path m = (.error failure, m) := by
  have steps (n : Nat) {b : Binding} (h : Hopeless cwd path m b) :
      ∃ b', Binding.steps cwd path n b m = (b', m) ∧ Hopeless cwd path m b' := by
    induction n generalizing b with
    | zero => exact ⟨b, rfl, h⟩
    | succ n ih =>
        obtain ⟨b', step, later⟩ := h.step
        rw [Binding.steps_of_step step]
        exact ih later
  obtain ⟨b, five, later⟩ := steps 5 h
  rw [GraderSocket.bind, five]
  cases later with
  | failed failure => exact ⟨failure, rfl⟩
  | goes unfinished _ _ =>
      cases b with
      | done result => cases unfinished
      | look | probe | remove | bind | listen => exact ⟨_, rfl⟩

theorem Hopeless.not_bound (h : Hopeless cwd path m .look) {socket : GraderSocket} :
    GraderSocket.bind cwd path m ≠ (.ok socket, m') := by
  obtain ⟨failure, fails⟩ := h.bind_eq
  intro bound
  cases bound.symm.trans fails

/-- Neither grader gets anywhere. -/
structure Barren (cwd : Place) (path : Path) (m : Machine) (c : Contest) : Prop where
  machine : c.machine = m
  hopeless : ∀ p, ∃ b, c.tenure p = .binding b ∧ Hopeless cwd path m b

theorem Barren.move (h : c.Barren cwd path m) (p : Party) :
    (c.move cwd path p).Barren cwd path m := by
  obtain ⟨b, is, hopeless⟩ := h.hopeless p
  obtain ⟨b', step, later⟩ := hopeless.step
  rw [← h.machine] at step
  rw [move_binding is hopeless.alive? step]
  exact ⟨h.machine, forall_put (fun τ => ∃ b, τ = .binding b ∧ Hopeless cwd path m b)
    ⟨b', rfl, later⟩ (h.hopeless p.rival)⟩

theorem Barren.run (h : c.Barren cwd path m) (moves : List Party) :
    (c.run cwd path moves).Barren cwd path m := by
  induction moves using List.reverseRecOn with
  | nil => exact h
  | append_singleton moves p ih =>
      rw [run_concat]
      exact ih.move p

theorem Barren.strides (h : c.Barren cwd path m) (turns : List Party) :
    (c.strides cwd path turns).Barren cwd path m := by
  induction turns using List.reverseRecOn with
  | nil => exact h
  | append_singleton turns p ih =>
      rw [strides_concat, Contest.stride]
      split
      · exact (ih.move p).move p
      · exact ih.move p

theorem Barren.nobody (h : c.Barren cwd path m) (p : Party) : (c.tenure p).alive? = none := by
  obtain ⟨b, is, hopeless⟩ := h.hopeless p
  rw [is]
  exact hopeless.alive?

theorem Barren.exclusive (h : c.Barren cwd path m) : c.Exclusive cwd path :=
  ⟨fun p _ _ => h.nobody p.rival, fun p _ alive => absurd ((h.nobody p).symm.trans alive) nofun,
    fun p _ alive => absurd ((h.nobody p).symm.trans alive) nofun⟩

theorem Hopeless.ne_listen {n : Nat} : ¬ Hopeless cwd path m (.listen n) := by
  intro h
  cases h with
  | goes _ step later =>
      cases congrArg Prod.fst step
      cases later with
      | goes unfinished => cases unfinished

theorem Barren.not_clashes (h : c.Barren cwd path m) (p : Party) : ¬ c.Clashes cwd path p := by
  rintro (⟨-, -, living⟩ | ⟨n, listens, -⟩)
  · rw [h.nobody p.rival] at living
    cases living
  · obtain ⟨b, is, hopeless⟩ := h.hopeless p
    cases is.symm.trans listens
    exact hopeless.ne_listen

theorem barren_start (h : Hopeless cwd path m .look) : (start m).Barren cwd path m :=
  ⟨rfl, fun _ => ⟨.look, rfl, h⟩⟩

theorem barren_returned (h : Hopeless cwd path m .look) (p : Party) :
    (returned cwd path p m).Barren cwd path m := by
  obtain ⟨failure, fails⟩ := h.bind_eq
  rw [returned, fails]
  exact ⟨rfl, forall_put (fun τ => ∃ b, τ = .binding b ∧ Hopeless cwd path m b)
    ⟨_, rfl, .failed failure⟩ ⟨.look, rfl, h⟩⟩

/-- Where nothing is found at the path, a place is offered there, or nobody can bind the path. -/
theorem offers_or_hopeless_of_absent (rooted : m.tree.Rooted)
    (dir : m.tree.entryAt cwd = some .dir) (named : path.octets ≠ []) {e : SystemError}
    (absent : m.tree.linkStatus cwd path = .error e) :
    (∃ place, m.Offers cwd path place ∧ m.tree.entryAt place = none) ∨
      Hopeless cwd path m .look := by
  have look : Binding.look.step cwd path m = (.bind, m) := by
    simp only [Binding.step, absent]
  cases binds : m.bindSocket .stream cwd path with
  | mk result m' =>
      cases result with
      | ok listener =>
          obtain ⟨place, offers, -, none⟩ := Machine.offers_of_bindSocket rooted dir named binds
          exact Or.inl ⟨place, offers, none⟩
      | error cause =>
          obtain rfl := Machine.eq_of_bindSocket_error binds
          have bind : Binding.bind.step cwd path m' =
              (.done (.error (.bind path cause)), m') := by
            simp only [Binding.step, binds]
          exact Or.inr (.goes (by decide) look (.goes (by decide) bind (.failed _)))

/-- Where a deserted socket is found at the path, its place is offered, or the path is too long. -/
theorem offers_or_hopeless_of_stale (rooted : m.tree.Rooted)
    (dir : m.tree.entryAt cwd = some .dir) {entry : Entry}
    (found : m.tree.linkStatus cwd path = .ok entry) (deserted : m.Deserted entry) :
    (Machine.address path = .ok path ∧
      ∃ place, m.Offers cwd path place ∧ m.tree.entryAt place = some entry) ∨
      (∃ e, Machine.address path = .error e) ∧ Hopeless cwd path m .look := by
  obtain ⟨kind, listener, rfl⟩ := deserted.isSocket
  obtain ⟨place, leads, there⟩ := FileTree.leads_of_linkStatus rooted dir found
  cases addressed : Machine.address path with
  | ok path' =>
      obtain rfl := Machine.address_eq_ok addressed
      refine Or.inl ⟨rfl, place, ⟨addressed, leads, fun entry stands => ?_⟩, there⟩
      rw [there] at stands
      cases stands
      exact deserted
  | error e =>
      have unreached : m.listenerAt cwd path = .error e := by
        rw [Machine.listenerAt, addressed]
      have other : e ≠ .refused := by
        unfold Machine.address at addressed
        split at addressed
        · cases addressed
          decide
        · split at addressed <;> cases addressed
          decide
      exact Or.inr ⟨⟨e, rfl⟩, .goes (by decide) (Binding.step_look_socket leads there)
        (.goes (by decide) (Binding.step_probe_failed unreached other) (.failed _))⟩

/-! ### The ownership of a path -/

theorem grants_of_bind (offers : m.Offers cwd path place) {socket : GraderSocket}
    (bound : GraderSocket.bind cwd path m = (.ok socket, m')) : m.Grants place := by
  by_contra denied
  obtain ⟨cause, left, failed, -⟩ := GraderSocket.bind_of_not_grants offers denied
  rw [bound] at failed
  cases failed

/-- Two graders bind a path at which nothing stands, or a socket at which nobody listens, and drop
their sockets, in any interleaving of their steps. The ownership is exclusive all the way exactly if
no step removes the file of a socket that is alive, or makes a socket alive whose file is gone. So
it is if one grader begins after the other has returned, and if nothing stood at the path and every
grader listens as soon as it has put its socket there.

But that a socket is deserted and that it is removed are two steps, and nothing keeps the other
grader from acting in between. At every deserted socket that one grader could replace there is an
interleaving, in which every grader listens as soon as it has put its socket there, after which both
sockets are alive and dropping the first removes the file of the second. If nothing stood at the
path there is one too: a socket that does not listen yet is taken for a deserted one. -/
theorem exclusive_ownership (m : Machine) (cwd : Place) (path : Path) (rooted : m.tree.Rooted)
    (dir : m.tree.entryAt cwd = some .dir) (named : path.octets ≠ [])
    (initial : (∃ e, m.tree.linkStatus cwd path = .error e) ∨
      ∃ entry, m.tree.linkStatus cwd path = .ok entry ∧ m.Deserted entry) :
    (∀ moves, (∀ front, front <+: moves → ((start m).run cwd path front).Exclusive cwd path) ↔
      ∀ front p, front ++ [p] <+: moves → ¬ ((start m).run cwd path front).Clashes cwd path p) ∧
    (∀ p, (∃ k, (start m).run cwd path (List.replicate k p) = returned cwd path p m) ∧
      ∀ moves, ((returned cwd path p m).run cwd path moves).Exclusive cwd path) ∧
    (m.denies .remove = none →
      ((∃ e, m.tree.linkStatus cwd path = .error e) →
        ∀ turns, ((start m).strides cwd path turns).Exclusive cwd path) ∧
      ∀ socket m', GraderSocket.bind cwd path m = (.ok socket, m') →
        ((∃ entry, m.tree.linkStatus cwd path = .ok entry) →
          ∃ turns, ((start m).strides cwd path turns).Lost cwd path) ∧
        ((∃ e, m.tree.linkStatus cwd path = .error e) →
          ∃ moves, ((start m).run cwd path moves).Lost cwd path)) := by
  have offered : (∃ place, m.Offers cwd path place) ∨ Hopeless cwd path m .look := by
    rcases initial with ⟨e, absent⟩ | ⟨entry, found, deserted⟩
    · exact (offers_or_hopeless_of_absent rooted dir named absent).imp_left
        fun ⟨place, offers, _⟩ => ⟨place, offers⟩
    · exact (offers_or_hopeless_of_stale rooted dir found deserted).imp
        (fun ⟨_, place, offers, _⟩ => ⟨place, offers⟩) And.right
  refine ⟨fun moves => ?_, fun p => ⟨run_bind m p, fun moves => ?_⟩,
    fun removable => ⟨fun ⟨e, absent⟩ turns => ?_, fun socket m' bound => ⟨?_, ?_⟩⟩⟩
  · rcases offered with ⟨place, offers⟩ | hopeless
    · exact (sound_start offers).exclusive_iff offers.usable moves
    · have barren := (barren_start hopeless).run
      exact ⟨fun _ front p _ => (barren front).not_clashes p,
        fun _ front _ => (barren front).exclusive⟩
  · rcases offered with ⟨place, offers⟩ | hopeless
    · exact exclusive_of_returned offers p moves
    · exact ((barren_returned hopeless p).run moves).exclusive
  · rcases offers_or_hopeless_of_absent rooted dir named absent with
      ⟨place, offers, none⟩ | hopeless
    · exact exclusive_of_none offers none removable turns
    · exact ((barren_start hopeless).strides turns).exclusive
  · rintro ⟨entry, found⟩
    have deserted : m.Deserted entry := by
      rcases initial with ⟨e, absent⟩ | ⟨entry', found', deserted⟩
      · cases absent.symm.trans found
      · cases found.symm.trans found'
        exact deserted
    rcases offers_or_hopeless_of_stale rooted dir found deserted with
      ⟨-, place, offers, there⟩ | ⟨-, hopeless⟩
    · exact ⟨_, lost_of_stale offers (grants_of_bind offers bound).make removable there⟩
    · exact absurd bound hopeless.not_bound
  · rintro ⟨e, absent⟩
    rcases offers_or_hopeless_of_absent rooted dir named absent with
      ⟨place, offers, none⟩ | hopeless
    · exact ⟨_, lost_of_absent offers (grants_of_bind offers bound).make removable none⟩
    · exact absurd bound hopeless.not_bound

theorem exclusive_ownership_leftover :
    GraderSocket.leftover.Rooted ∧ GraderSocket.leftover.entryAt [] = some .dir ∧
      (∃ turns, ((start (.ofTree GraderSocket.leftover)).strides [] (Path.ofText "/w/sock")
        turns).Lost [] (Path.ofText "/w/sock")) ∧
      ∀ p moves, ((returned [] (Path.ofText "/w/sock") p (.ofTree GraderSocket.leftover)).run []
        (Path.ofText "/w/sock") moves).Exclusive [] (Path.ofText "/w/sock") := by
  have found : GraderSocket.leftover.linkStatus [] (Path.ofText "/w/sock") =
      .ok (.socket .stream none) := by
    cbv
  have deserted := (Machine.ofTree GraderSocket.leftover).deserted_of_none .stream
  obtain ⟨-, after, raced⟩ := exclusive_ownership (.ofTree GraderSocket.leftover) []
    (Path.ofText "/w/sock") GraderSocket.rooted_leftover rfl (by decide)
    (Or.inr ⟨_, found, deserted⟩)
  obtain ⟨place, offers, -⟩ := GraderSocket.offers_leftover
  have bound := GraderSocket.bind_of_offers offers ⟨rfl, fun _ => rfl⟩
  exact ⟨GraderSocket.rooted_leftover, rfl, ((raced rfl).2 _ _ bound).1 ⟨_, found⟩,
    fun p => (after p).2⟩

/-- At the socket that a killed grader has left, both graders look and try a connection, one
replaces the socket, and the other replaces it once more: both sockets are alive. In a directory
without one, the second grader finds the first one's socket before it listens. -/
theorem ownership_lost :
    ((start (.ofTree GraderSocket.leftover)).strides [] (Path.ofText "/w/sock")
      [.first, .first, .second, .second, .first, .first, .second, .second]).Lost []
        (Path.ofText "/w/sock") ∧
    ((start (.ofTree (.configured []))).run [] (Path.ofText "/w/sock")
      [.first, .first, .second, .second, .first, .second, .second, .second]).Lost []
        (Path.ofText "/w/sock") := by
  constructor
  · obtain ⟨place, offers, there⟩ := GraderSocket.offers_leftover
    exact lost_of_stale offers rfl rfl there
  · have absent : (FileTree.configured []).linkStatus [] (Path.ofText "/w/sock") =
        .error .noEntry := by
      cbv
    have rooted : (FileTree.configured []).Rooted := FileTree.rooted_of_isRooted (by decide)
    rcases offers_or_hopeless_of_absent (m := .ofTree (.configured [])) rooted rfl (by decide)
      absent with ⟨place, offers, none⟩ | hopeless
    · exact lost_of_absent offers rfl rfl none
    · have is : (Path.ofText "/w").socketIn Path.defaultSocketName = Path.ofText "/w/sock" := by
        decide
      obtain ⟨m, binds, -⟩ := GraderSocket.bind_configured []
      rw [GraderSocket.bindIn, is] at binds
      exact absurd binds hopeless.not_bound

end ReviewChannel.Contest
