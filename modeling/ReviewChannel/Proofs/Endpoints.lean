import Mathlib.Computability.Primrec.List
import ReviewChannel.Program
import ReviewChannel.Proofs.Spelling
import ReviewChannel.Proofs.Walking

/-!
Where a client looks for its grader, and where the grader listens. The client joins its work
directory with the name in its configuration; the grader always takes the default name.

* `Path.socketIn_eq_default_iff` — for which names these are the same path.
* `GraderSocket.bind_eq_ok` — a grader that has bound a path listens there.
* `Machine.connect_to_listener` — who connects to a path where somebody listens joins the queue.
* `endpoint_agreement` — with such a name, a client meets the grader of the same work directory;
  `endpoint_disagreement` has a configuration with another name.
-/

namespace ReviewChannel

/-! ### Names -/

namespace Path

theorem ofText_injective {text text' : String} (same : ofText text = ofText text') :
    text = text' := by
  have read := Utf8.decode?_encode text
  rw [show Utf8.encode text = Utf8.encode text' from congrArg octets same,
    Utf8.decode?_encode] at read
  exact (Option.some.inj read).symm

/-- Names that do not start at the root are told apart under a directory. -/
theorem join_inj {dir name name' : Path} (relative : name.isAbsolute = false)
    (relative' : name'.isAbsolute = false) : dir.join name = dir.join name' ↔ name = name' := by
  constructor
  · intro same
    simp only [join, relative, relative', Bool.false_eq_true, if_false] at same
    cases name
    cases name'
    split at same <;> simpa using same
  · exact congrArg _

theorem join_of_isAbsolute {name : Path} (dir : Path) (absolute : name.isAbsolute = true) :
    dir.join name = name :=
  if_pos absolute

/-- What is under a directory that starts at the root starts there too. -/
theorem isAbsolute_join {dir name : Path} (absolute : dir.isAbsolute = true) :
    (dir.join name).isAbsolute = true := by
  unfold join
  split
  · assumption
  · obtain ⟨octets⟩ := dir
    cases octets with
    | nil => cases absolute
    | cons b rest => split <;> exact absolute

/-- The socket of the default name. -/
theorem socketIn_default (workdir : Path) :
    workdir.socketIn defaultSocketName = workdir.join (ofText defaultSocketName) := by
  unfold socketIn
  split <;> rfl

/-- The names that lead a client to the socket of the default name. -/
def IsDefaultName (workdir : Path) (name : String) : Prop :=
  trimBlank name.toList = [] ∨ name = defaultSocketName ∨
    (ofText name).isAbsolute = true ∧ ofText name = workdir.socketIn defaultSocketName

/-- No other name gives the path of the default one. -/
theorem socketIn_eq_default_iff (workdir : Path) (name : String) :
    workdir.socketIn name = workdir.socketIn defaultSocketName ↔
      workdir.IsDefaultName name := by
  have relative : (ofText defaultSocketName).isAbsolute = false := by decide
  rw [IsDefaultName, socketIn_default]
  by_cases blank : trimBlank name.toList = []
  · simp [socketIn, blank]
  · have named : ¬ (trimBlank name.toList).isEmpty = true := by simpa using blank
    rw [socketIn, if_neg named]
    cases absolute : (ofText name).isAbsolute with
    | true =>
        rw [join_of_isAbsolute _ absolute]
        refine ⟨fun same => Or.inr (Or.inr ⟨rfl, same⟩), ?_⟩
        rintro (none | rfl | ⟨-, same⟩)
        · exact absurd none blank
        · rw [relative] at absolute
          cases absolute
        · exact same
    | false =>
        rw [join_inj absolute relative]
        refine ⟨fun same => Or.inr (Or.inl (ofText_injective same)), ?_⟩
        rintro (none | rfl | ⟨rooted, -⟩)
        · exact absurd none blank
        · rfl
        · cases rooted

theorem octets_socketIn_default_ne_nil (workdir : Path) :
    (workdir.socketIn defaultSocketName).octets ≠ [] := by
  have named : (ofText defaultSocketName).octets ≠ [] := by decide
  rw [socketIn_default, join]
  split
  · exact named
  · split
    · exact List.append_ne_nil_of_right_ne_nil _ named
    · exact List.append_ne_nil_of_right_ne_nil _ (List.cons_ne_nil _ _)

end Path

/-! ### Listening -/

namespace Machine

variable {m m' : Machine} {cwd : Place} {path : Path} {listener : Nat} {queue : List Nat}

/-- Somebody listens at a path whose address can be used. -/
structure Listens (m : Machine) (cwd : Place) (path : Path) (listener : Nat) : Prop where
  usable : address path = .ok path
  named : path.octets ≠ []
  status : m.tree.status cwd path = .ok (.socket .stream (some listener))

theorem address_eq_ok {path' : Path} (h : address path = .ok path') : path' = path := by
  unfold address at h
  split at h
  · cases h
  · split at h
    · cases h
    · cases h
      rfl

/-- All that putting a socket at a path needs and does. -/
theorem bindSocket_eq_ok {kind : SocketKind} (named : path.octets ≠ [])
    (h : m.bindSocket kind cwd path = (.ok listener, m')) :
    address path = .ok path ∧ m.denies .make = none ∧ listener = m.nextListener ∧
      ∃ tree, m.tree.create cwd path (.socket kind (some m.nextListener)) = .ok tree ∧
        m' = { m.setQueue m.nextListener none with tree, nextListener := m.nextListener + 1 } := by
  unfold bindSocket at h
  simp only at h
  split at h
  · cases h
  · rename_i addressed
    obtain rfl := address_eq_ok addressed
    simp only [List.isEmpty_iff, named, if_false] at h
    split at h
    · cases h
    · rename_i tree created
      split at h
      · cases h
      · rename_i granted
        cases h
        exact ⟨addressed, granted, rfl, tree, created, rfl⟩

/-- A socket that was put at a path listens there once it is told to, and nobody waits yet. -/
theorem listens_of_bindSocket (named : path.octets ≠ [])
    (h : m.bindSocket .stream cwd path = (.ok listener, m')) :
    (m'.startListening listener).Listens cwd path listener ∧
      (m'.startListening listener).queueAt listener = some [] := by
  obtain ⟨usable, -, rfl, tree, created, rfl⟩ := bindSocket_eq_ok named h
  have plain (target : Path) : Entry.socket .stream (some m.nextListener) ≠ .symlink target := by
    intro same
    cases same
  obtain ⟨-, status⟩ := FileTree.status_of_created created plain
  exact ⟨⟨usable, named, status⟩, if_pos rfl⟩

/-- Nobody stops listening while nothing in the tree goes away. -/
theorem Listens.extends (h : m.Listens cwd path listener)
    (grown : FileTree.Extends m.tree m'.tree) : m'.Listens cwd path listener :=
  ⟨h.usable, h.named, FileTree.status_extends h.status grown⟩

/-- From another place, the path leads there too if it starts at the root. -/
theorem Listens.from {here : Place} (h : m.Listens cwd path listener)
    (same : here = cwd ∨ path.isAbsolute = true) : m.Listens here path listener := by
  rcases same with rfl | absolute
  · exact h
  · exact ⟨h.usable, h.named, by rw [m.tree.status_of_isAbsolute absolute here cwd, h.status]⟩

theorem Listens.listenerAt_eq (h : m.Listens cwd path listener)
    (waiting : m.queueAt listener = some queue) :
    m.listenerAt cwd path = .ok (listener, queue) := by
  simp [listenerAt, h.usable, h.named, h.status, waiting]

/-- Who connects to a path where somebody listens joins the queue there. -/
theorem connect_to_listener (h : m.Listens cwd path listener)
    (waiting : m.queueAt listener = some queue) :
    ∃ m', m.connect cwd path = (.ok m.nextStream, m') ∧
      m'.queueAt listener = some (queue ++ [m.nextStream]) := by
  rw [connect, h.listenerAt_eq waiting]
  exact ⟨_, rfl, if_pos rfl⟩

end Machine

/-! ### Binding -/

section Binding

variable {cwd : Place} {path : Path}

/-- A binding that is done with a socket has put it at the path, and it listens. -/
def Binding.Listening (cwd : Place) (path : Path) (m : Machine) : Binding → Prop
  | .listen listener => ∃ before : Machine, before.bindSocket .stream cwd path = (.ok listener, m)
  | .done (.ok socket) =>
      socket.path = path ∧ ∃ before bound : Machine,
        before.bindSocket .stream cwd path = (.ok socket.listener, bound) ∧
          m = bound.startListening socket.listener
  | _ => True

theorem Binding.listening_step {b : Binding} {m : Machine} (h : b.Listening cwd path m) :
    (b.step cwd path m).1.Listening cwd path (b.step cwd path m).2 := by
  cases b with
  | look =>
      simp only [Binding.step]
      split <;> exact True.intro
  | probe =>
      simp only [Binding.step]
      split
      · exact True.intro
      · split <;> exact True.intro
  | remove =>
      simp only [Binding.step]
      split <;> exact True.intro
  | bind =>
      simp only [Binding.step]
      split
      · rename_i bound
        exact ⟨m, bound⟩
      · exact True.intro
  | listen listener =>
      obtain ⟨before, bound⟩ := h
      exact ⟨rfl, before, m, bound, rfl⟩
  | done result => exact h

theorem Binding.listening_steps (n : Nat) {b : Binding} {m : Machine}
    (h : b.Listening cwd path m) :
    (Binding.steps cwd path n b m).1.Listening cwd path (Binding.steps cwd path n b m).2 := by
  induction n generalizing b m with
  | zero => exact h
  | succ n ih => exact ih (Binding.listening_step h)

/-- A grader that has bound a path listens there. -/
theorem GraderSocket.bind_eq_ok {m m' : Machine} {socket : GraderSocket}
    (h : GraderSocket.bind cwd path m = (.ok socket, m')) :
    socket.path = path ∧ ∃ before bound : Machine,
      before.bindSocket .stream cwd path = (.ok socket.listener, bound) ∧
        m' = bound.startListening socket.listener := by
  have begins : Binding.look.Listening cwd path m := True.intro
  have listening := Binding.listening_steps 5 begins
  unfold GraderSocket.bind at h
  split at h
  · rename_i result after ended
    cases h
    rw [ended] at listening
    exact listening
  · cases h

/-- A grader binds a path where nothing stands and a socket can be put. -/
theorem GraderSocket.bind_of_created {m : Machine} {e : SystemError} {tree : FileTree}
    (missing : m.tree.linkStatus cwd path = .error e) (usable : Machine.address path = .ok path)
    (named : path.octets ≠ []) (granted : m.denies .make = none)
    (created : m.tree.create cwd path (.socket .stream (some m.nextListener)) = .ok tree) :
    ∃ m', GraderSocket.bind cwd path m = (.ok ⟨m.nextListener, path⟩, m') ∧
      m'.tree = tree ∧ m'.queueAt m.nextListener = some [] := by
  have bound : m.bindSocket .stream cwd path = (.ok m.nextListener,
      { m.setQueue m.nextListener none with tree, nextListener := m.nextListener + 1 }) := by
    simp only [Machine.bindSocket, usable, List.isEmpty_iff, named, if_false, created, granted]
  simp only [GraderSocket.bind, Binding.steps, Binding.step, missing, bound]
  exact ⟨_, rfl, rfl, if_pos rfl⟩

end Binding

/-- A grader that waits for a client listens at the socket of its work directory. -/
theorem Program.startGrader_eq_listening {workdir : Path} {ids ids' : List String}
    {written written' : Output} {place place' : Workplace} {socket : GraderSocket}
    (h : Program.startGrader workdir ids written place = .listening socket ids' written' place') :
    socket.path = workdir.socketIn Path.defaultSocketName ∧
      place'.machine.Listens place.cwd (workdir.socketIn Path.defaultSocketName)
        socket.listener := by
  unfold Program.startGrader at h
  split at h
  · cases h
  · simp only at h
    split at h
    · cases h
    · rename_i bound
      cases h
      obtain ⟨path, before, seated, put, rfl⟩ := GraderSocket.bind_eq_ok bound
      exact ⟨path, (Machine.listens_of_bindSocket workdir.octets_socketIn_default_ne_nil put).1⟩

/-- A client that is given a work directory joins it with the name in its configuration. -/
theorem TerminalHost.endpoint_of_workdir (config : Config) (workdir : Path) (env : Environment) :
    TerminalHost.endpoint { config, workdir := some workdir } env =
      .ok (workdir.socketIn config.socketName) :=
  rfl

/-! ### Meeting -/

/-- A client looks for its grader at the name in its configuration, and a grader listens at the
default name, whatever the configuration. Where these are the same, a client that is started while
the grader listens in its work directory waits for that very grader. -/
theorem endpoint_agreement (config : Config) (workdir : Path) :
    (∀ env, TerminalHost.endpoint { config, workdir := some workdir } env =
      .ok (workdir.socketIn config.socketName)) ∧
    (∀ cwd m socket m', GraderSocket.bindIn cwd workdir m = (.ok socket, m') →
      socket.path = workdir.socketIn Path.defaultSocketName) ∧
    (workdir.socketIn config.socketName = workdir.socketIn Path.defaultSocketName ↔
      workdir.IsDefaultName config.socketName) ∧
    ∀ ids written place socket ids' written' place',
      Program.startGrader workdir ids written place = .listening socket ids' written' place' →
      socket.path = workdir.socketIn Path.defaultSocketName ∧
      (workdir.IsDefaultName config.socketName →
        ∀ (later : Workplace) (queue : List Nat),
          later.cwd = place.cwd ∨ workdir.isAbsolute = true →
          FileTree.Extends place'.machine.tree later.machine.tree →
          later.machine.queueAt socket.listener = some queue →
          ∃ client stream,
            Client.activate
                (TerminalHost.endpoint { config, workdir := some workdir } later.environment)
                Workplace.connect { surroundings := later } = .ok client ∧
              client.desk.surroundings.stream = some stream ∧
              client.desk.surroundings.machine.queueAt socket.listener =
                some (queue ++ [stream])) := by
  refine ⟨TerminalHost.endpoint_of_workdir config workdir,
    fun cwd m socket m' bound => (GraderSocket.bind_eq_ok bound).1,
    workdir.socketIn_eq_default_iff config.socketName, ?_⟩
  intro ids written place socket ids' written' place' started
  obtain ⟨path, listens⟩ := Program.startGrader_eq_listening started
  refine ⟨path, fun default later queue same grown waiting => ?_⟩
  have absolute : workdir.isAbsolute = true →
      (workdir.socketIn Path.defaultSocketName).isAbsolute = true := by
    rw [Path.socketIn_default]
    exact Path.isAbsolute_join
  have there := (listens.extends grown).from (same.imp_right absolute)
  obtain ⟨m, connects, joined⟩ := Machine.connect_to_listener there waiting
  rw [← (workdir.socketIn_eq_default_iff config.socketName).mpr default] at connects
  refine ⟨{ desk := { surroundings := { later with machine := m, stream := _ } } }, _, ?_, rfl,
    joined⟩
  rw [TerminalHost.endpoint_of_workdir, Client.activate]
  simp only [Workplace.connect, connects]

/-! ### Two configurations -/

/-- A tree with a configuration file at the root and a work directory. -/
def FileTree.configured (content : List UInt8) : FileTree :=
  { entries := [([], .dir), ([Utf8.encode "w"], .dir), ([Utf8.encode ".grader"], .dir),
      ([Utf8.encode "config.toml", Utf8.encode ".grader"], .file 0)],
    files := [{ content }] }

theorem Config.load_configured {text : String} {config : Config}
    (read : Config.ofToml? text = some config) :
    Config.load (.configured (Utf8.encode text)) [] (FileTree.pathOf []) =
      .ok (config, some (Config.fileIn (FileTree.pathOf []))) := by
  have found (content : List UInt8) : Config.find? (.configured content) [] (FileTree.pathOf []) =
      some (Config.fileIn (FileTree.pathOf []), content) := by
    cbv
  simp only [Config.load, found, Utf8.decode?_encode, read]

/-- The grader of the work directory binds the default name there. -/
theorem GraderSocket.bind_configured (content : List UInt8) :
    ∃ m, GraderSocket.bindIn [] (Path.ofText "/w") (.ofTree (.configured content)) =
        (.ok ⟨0, Path.ofText "/w/sock"⟩, m) ∧
      m.queueAt 0 = some [] ∧
      m.tree.status [] (Path.ofText "/w/control") = .error .noEntry := by
  have is : (Path.ofText "/w").socketIn Path.defaultSocketName = Path.ofText "/w/sock" := by decide
  have missing : (FileTree.configured content).linkStatus [] (Path.ofText "/w/sock") =
      .error .noEntry := by
    cbv
  have usable : Machine.address (Path.ofText "/w/sock") = .ok (Path.ofText "/w/sock") := by cbv
  have created : (FileTree.configured content).create [] (Path.ofText "/w/sock")
      (.socket .stream (some 0)) = .ok ((FileTree.configured content).set
        [Utf8.encode "sock", Utf8.encode "w"] (some (.socket .stream (some 0)))) := by
    cbv
  obtain ⟨m, binds, tree, waiting⟩ := GraderSocket.bind_of_created
    (m := .ofTree (.configured content)) missing usable (by decide) rfl created
  refine ⟨m, by rw [GraderSocket.bindIn, is, binds]; rfl, waiting, ?_⟩
  rw [tree]
  cbv

/-- A blank name is the default one, also if its blanks are not spaces: the first client waits for
the grader of its work directory. -/
theorem endpoint_agreement_of_blank_name :
    let text := "[endpoint]\nsocket_name = \"\u2003\"\n"
    let place : Workplace :=
      { machine := .ofTree (.configured (Utf8.encode text)), stamp := "noon" }
    let workdir := Path.ofText "/w"
    ∃ config source, Config.load (.configured (Utf8.encode text)) [] (FileTree.pathOf []) =
        .ok (config, some source) ∧
      workdir.IsDefaultName config.socketName ∧
      ∃ socket written place', Program.startGrader workdir ["jdoe2"] {} place =
          .listening socket ["jdoe2"] written place' ∧
        ∃ client stream,
          Client.activate (TerminalHost.endpoint { config, workdir := some workdir } [])
              Workplace.connect { surroundings := place' } = .ok client ∧
            client.desk.surroundings.machine.queueAt socket.listener = some [stream] := by
  intro text place workdir
  let config : Config := { socketName := "\u2003" }
  have read : Config.ofToml? text = some config := by decide +kernel
  have default : workdir.IsDefaultName config.socketName := Or.inl (by decide)
  have made (content : List UInt8) :
      (FileTree.configured content).makeDirs [] (Path.ofText "/w") =
        (.ok (), .configured content) := by
    cbv
  obtain ⟨m, bound, empty, -⟩ := GraderSocket.bind_configured (Utf8.encode text)
  obtain ⟨written, started⟩ : ∃ written, Program.startGrader workdir ["jdoe2"] {} place =
      .listening ⟨0, Path.ofText "/w/sock"⟩ ["jdoe2"] written { place with machine := m } := by
    unfold Program.startGrader
    simp only [place, workdir, Machine.ofTree, made] at bound ⊢
    rw [bound]
    exact ⟨_, rfl⟩
  refine ⟨config, _, Config.load_configured read, default, _, written, _, started, ?_⟩
  obtain ⟨-, -, -, meets⟩ := endpoint_agreement config workdir
  obtain ⟨client, stream, activated, -, joined⟩ := (meets _ _ _ _ _ _ _ started).2 default
    { place with machine := m } [] (Or.inl rfl) (FileTree.Extends.refl _) empty
  exact ⟨client, stream, activated, joined⟩

/-- A configuration that names another socket: its client does not look where the grader of its work
directory listens, and finds nobody. -/
theorem endpoint_disagreement :
    let text := "[endpoint]\nsocket_name = \"control\"\n"
    let workdir := Path.ofText "/w"
    let bound := GraderSocket.bindIn [] workdir (.ofTree (.configured (Utf8.encode text)))
    ∃ config source, Config.load (.configured (Utf8.encode text)) [] (FileTree.pathOf []) =
        .ok (config, some source) ∧
      ∃ endpoint, TerminalHost.endpoint { config, workdir := some workdir } [] = .ok endpoint ∧
      ∃ socket, bound.1 = .ok socket ∧ endpoint ≠ socket.path ∧
        (bound.2.connect [] endpoint).1 = .error .noEntry := by
  intro text workdir bound
  have read : Config.ofToml? text = some { socketName := "control" } := by decide +kernel
  have is : workdir.socketIn "control" = Path.ofText "/w/control" := by decide
  obtain ⟨m, binds, -, missing⟩ := GraderSocket.bind_configured (Utf8.encode text)
  have usable : Machine.address (Path.ofText "/w/control") = .ok (Path.ofText "/w/control") := by
    cbv
  have named : (Path.ofText "/w/control").octets.isEmpty = false := by decide
  refine ⟨_, _, Config.load_configured read, Path.ofText "/w/control", congrArg Except.ok is,
    ⟨0, Path.ofText "/w/sock"⟩, congrArg Prod.fst binds, by decide, ?_⟩
  rw [show bound = _ from binds]
  simp only [Machine.connect, Machine.listenerAt, usable, named, missing, Bool.false_eq_true,
    if_false]

end ReviewChannel
