import ReviewChannel.Proofs.Walking

/-!
Paths that lead to one place, whether or not a socket stands there.

* `FileTree.Rooted` — a tree as a file system has it: what something stands in is a directory.
* `FileTree.Approaches` — a path comes to a place through directories and links at other places. Who
  changes the place alone does not change that (`Approaches.elsewhere`).
* `FileTree.Leads` says so of a path and a working directory. It settles what `statusOf`, `create`
  and `remove` do at the path, as long as nothing but a socket stands there.
* `leads_of_linkStatus` and `leads_of_create` — in a rooted tree, a path at which a socket was found
  or made leads to its place.
-/

namespace ReviewChannel.FileTree

variable {t t' : FileTree} {follow : Bool} {links : Nat} {here place : Place}
  {pieces : List (List UInt8)} {cwd : Place} {path : Path}

/-! ### Rooted trees -/

/-- The root is a directory, and so is every place in which something stands. -/
structure Rooted (t : FileTree) : Prop where
  root : t.entryAt [] = some .dir
  inside : ∀ name place entry, t.entryAt (name :: place) = some entry →
    t.entryAt place = some .dir

/-- Whether the root and the parents of all that stands in the tree are directories. -/
def isRooted (t : FileTree) : Bool :=
  t.entryAt [] = some .dir && t.entries.all fun e =>
    match e.1 with
    | [] => true
    | _ :: parent => t.entryAt parent = some .dir

theorem rooted_of_isRooted (h : t.isRooted = true) : t.Rooted := by
  obtain ⟨root, all⟩ := Bool.and_eq_true_iff.mp h
  refine ⟨of_decide_eq_true root, fun name place entry there => ?_⟩
  obtain ⟨before, after, split, -⟩ := List.lookup_eq_some_iff.mp there
  have listed : (name :: place, entry) ∈ t.entries := by simp [split]
  exact of_decide_eq_true (List.all_eq_true.mp all _ listed)

theorem Rooted.start (rooted : t.Rooted) (dir : t.entryAt cwd = some .dir) (path : Path) :
    t.entryAt (startOf cwd path) = some .dir := by
  unfold startOf
  split
  · exact rooted.root
  · exact dir

/-- One step up from a directory is a directory. -/
theorem Rooted.tail (rooted : t.Rooted) (dir : t.entryAt here = some .dir) :
    t.entryAt here.tail = some .dir := by
  cases here with
  | nil => exact rooted.root
  | cons name place => exact rooted.inside name place .dir dir

/-! ### Coming to a place -/

/-- Nothing but a socket stands at the place, if anything does. -/
def OnlySocket (t : FileTree) (place : Place) : Prop :=
  ∀ entry, t.entryAt place = some entry → ∃ kind listener, entry = .socket kind listener

theorem onlySocket_of_none (none : t.entryAt place = none) : t.OnlySocket place := by
  intro entry there
  rw [none] at there
  cases there

theorem onlySocket_of_socket {kind : SocketKind} {listener : Option Nat}
    (socket : t.entryAt place = some (.socket kind listener)) : t.OnlySocket place := by
  intro entry there
  rw [socket] at there
  cases there
  exact ⟨kind, listener, rfl⟩

/-- Everything but the place is the same in both trees. -/
def Elsewhere (place : Place) (t t' : FileTree) : Prop :=
  ∀ p, p ≠ place → t'.entryAt p = t.entryAt p

theorem elsewhere_set (t : FileTree) (place : Place) (entry : Option Entry) :
    Elsewhere place t (t.set place entry) :=
  fun _ other => entryAt_set_ne other entry t

/-- Following components from here comes to the place through directories and links. The last
component is the name of the place, and what stands there is not looked at. -/
inductive Approaches (t : FileTree) (place : Place) : Nat → Place → List (List UInt8) → Prop where
  | ends {links : Nat} {here : Place} {piece : List UInt8} (name : IsName piece)
      (is : piece :: here = place) : Approaches t place links here [piece]
  | stays {links : Nat} {here : Place} {piece : List UInt8} {rest : List (List UInt8)}
      (nothing : Path.namesNothing piece = true) (later : Approaches t place links here rest) :
      Approaches t place links here (piece :: rest)
  | ascends {links : Nat} {here : Place} {rest : List (List UInt8)}
      (later : Approaches t place links here.tail rest) :
      Approaches t place links here ([Path.dot, Path.dot] :: rest)
  | enters {links : Nat} {here : Place} {piece : List UInt8} {rest : List (List UInt8)}
      (name : IsName piece) (dir : t.entryAt (piece :: here) = some .dir)
      (later : Approaches t place links (piece :: here) rest) :
      Approaches t place links here (piece :: rest)
  | follows {links : Nat} {here : Place} {piece : List UInt8} {target : Path}
      {rest : List (List UInt8)} (name : IsName piece)
      (link : t.entryAt (piece :: here) = some (.symlink target)) (on : rest ≠ [])
      (leads : target.octets.isEmpty = false)
      (later : Approaches t place links (if target.isAbsolute then [] else here)
        (Path.pieces target.octets ++ rest)) :
      Approaches t place (links + 1) here (piece :: rest)

/-- A path that comes to a place has no slash at its end. -/
theorem Approaches.last (h : Approaches t place links here pieces) :
    ∃ piece, pieces.getLast? = some piece ∧ piece ≠ [] := by
  have longer {piece : List UInt8} {rest : List (List UInt8)}
      (h : ∃ last, rest.getLast? = some last ∧ last ≠ []) :
      ∃ last, (piece :: rest).getLast? = some last ∧ last ≠ [] := by
    obtain ⟨last, is, named⟩ := h
    exact ⟨last, by rw [List.getLast?_cons, is]; rfl, named⟩
  induction h with
  | @ends _ _ piece name _ =>
      refine ⟨piece, rfl, ?_⟩
      rintro rfl
      exact absurd name.names (by decide)
  | stays _ _ ih | ascends _ ih | enters _ _ _ ih => exact longer ih
  | @follows _ _ _ _ rest _ _ on _ _ ih =>
      refine longer ?_
      rwa [List.getLast?_append, List.getLast?_eq_some_getLast on, Option.some_or,
        ← List.getLast?_eq_some_getLast on] at ih

/-- What happens at the place alone does not change the way there. -/
theorem Approaches.elsewhere (h : Approaches t place links here pieces)
    (only : t.OnlySocket place) (same : Elsewhere place t t') :
    Approaches t' place links here pieces := by
  -- Directories and links on the way are at other places, since only a socket stands at this one.
  have kept {p : Place} {entry : Entry} (there : t.entryAt p = some entry)
      (passed : ∀ kind listener, entry ≠ .socket kind listener) : t'.entryAt p = some entry := by
    rw [same p, there]
    rintro rfl
    obtain ⟨kind, listener, is⟩ := only entry there
    exact passed kind listener is
  induction h with
  | ends name is => exact .ends name is
  | stays nothing _ ih => exact .stays nothing ih
  | ascends _ ih => exact .ascends ih
  | enters name dir _ ih => exact .enters name (kept dir fun _ _ => nofun) ih
  | follows name link on leads _ ih => exact .follows name (kept link fun _ _ => nofun) on leads ih

/-- A path that comes to a place leads there. -/
theorem Approaches.walks (h : Approaches t place links here pieces) (only : t.OnlySocket place) :
    Walks t follow links here pieces ⟨place, false⟩ := by
  induction h with
  | ends name is =>
      subst is
      cases there : t.entryAt _ with
      | none => exact .misses name there rfl
      | some entry =>
          obtain ⟨kind, listener, rfl⟩ := only entry there
          exact .finds name there nofun fun _ => nofun
  | stays nothing _ ih => exact .stays nothing ih
  | ascends _ ih => exact .ascends ih
  | enters name dir _ ih => exact .enters name dir ih
  | follows name link on leads _ ih =>
      exact .follows name link (Or.inl (by simpa using on)) leads ih

/-- A path that leads to a place comes there, if it starts in a directory of a rooted tree and does
not ask for a directory where nothing stands. -/
theorem Walks.approaches {loc : Location} (h : Walks t false links here pieces loc)
    (rooted : t.Rooted) (dir : t.entryAt here = some .dir) (only : t.OnlySocket loc.place)
    (plainly : t.entryAt loc.place = none → loc.asDir = false) :
    Approaches t loc.place links here pieces := by
  induction h with
  | arrives =>
      obtain ⟨kind, listener, is⟩ := only .dir dir
      cases is
  | stays nothing _ ih => exact .stays nothing (ih dir only plainly)
  | ascends _ ih => exact .ascends (ih (rooted.tail dir) only plainly)
  | @misses links here piece rest name none ends =>
      obtain rfl : rest = [] := by simpa using plainly none
      exact .ends name rfl
  | enters name into _ ih => exact .enters name into (ih into only plainly)
  | keeps name link not =>
      obtain ⟨kind, listener, is⟩ := only _ link
      cases is
  | @follows links here piece target rest loc name link on leads _ ih =>
      have begins : t.entryAt (if target.isAbsolute then [] else here) = some .dir :=
        rooted.start dir target
      exact .follows name link (by simpa using on) leads (ih begins only plainly)
  | finds name there closed plain => exact .ends name rfl

/-! ### A path that leads to a place -/

/-- The path leads to the place, whether or not a socket stands there. -/
structure Leads (t : FileTree) (cwd : Place) (path : Path) (place : Place) : Prop where
  usable : unusable? path = none
  approaches : Approaches t place linkLimit (startOf cwd path) (Path.pieces path.octets)

namespace Leads

theorem elsewhere (h : t.Leads cwd path place) (only : t.OnlySocket place)
    (same : Elsewhere place t t') : t'.Leads cwd path place :=
  ⟨h.usable, h.approaches.elsewhere only same⟩

theorem named (h : t.Leads cwd path place) : path.octets ≠ [] := by
  intro empty
  have usable := h.usable
  simp [unusable?, empty] at usable

theorem locate_eq (h : t.Leads cwd path place) (only : t.OnlySocket place) (follow : Bool) :
    t.locate cwd follow path = .ok ⟨place, false⟩ :=
  locate_eq_ok_iff.mpr ⟨h.usable, h.approaches.walks only⟩

theorem locateNew_eq (h : t.Leads cwd path place) (only : t.OnlySocket place) :
    t.locateNew cwd path = .ok ⟨place, false⟩ := by
  obtain ⟨piece, is, named⟩ := h.approaches.last
  have last : (Path.pieces path.octets).getLast? ≠ some [] := by simpa [is] using named
  refine locateNew_eq_ok_iff.mpr ⟨h.usable, by simp [last], false, ?_⟩
  rw [withoutEnd_eq_self last]
  exact h.approaches.walks only

/-- A path leads to one place. -/
theorem unique {place' : Place} (h : t.Leads cwd path place) (only : t.OnlySocket place)
    (h' : t.Leads cwd path place') (only' : t.OnlySocket place') : place' = place := by
  have same := (h'.locate_eq only' false).symm.trans (h.locate_eq only false)
  cases same
  rfl

section Nothing

variable (h : t.Leads cwd path place) (none : t.entryAt place = none)
include h none

theorem statusOf_none (follow : Bool) : t.statusOf cwd follow path = .error .noEntry := by
  simp only [statusOf, h.locate_eq (onlySocket_of_none none), none]

theorem create_none (entry : Entry) :
    create cwd path entry t = .ok (t.set place (some entry)) := by
  simp only [create, h.locateNew_eq (onlySocket_of_none none), none, Bool.false_eq_true, if_false]

theorem remove_none : remove cwd path t = .error .noEntry := by
  simp only [remove, h.locate_eq (onlySocket_of_none none), none]

end Nothing

section Socket

variable {kind : SocketKind} {listener : Option Nat} (h : t.Leads cwd path place)
  (socket : t.entryAt place = some (.socket kind listener))
include h socket

theorem statusOf_socket (follow : Bool) :
    t.statusOf cwd follow path = .ok (.socket kind listener) := by
  simp only [statusOf, h.locate_eq (onlySocket_of_socket socket), socket]

theorem create_socket (entry : Entry) : create cwd path entry t = .error .occupied := by
  simp only [create, h.locateNew_eq (onlySocket_of_socket socket), socket]

theorem remove_socket : remove cwd path t = .ok (t.set place none) := by
  simp only [remove, h.locate_eq (onlySocket_of_socket socket), socket]

end Socket

end Leads

/-! ### Paths that were used -/

/-- A path at which a socket is found leads to the place of the socket. -/
theorem leads_of_linkStatus (rooted : t.Rooted) (dir : t.entryAt cwd = some .dir)
    {kind : SocketKind} {listener : Option Nat}
    (found : t.linkStatus cwd path = .ok (.socket kind listener)) :
    ∃ place, t.Leads cwd path place ∧ t.entryAt place = some (.socket kind listener) := by
  obtain ⟨loc, located, there⟩ := statusOf_eq_ok_iff.mp found
  obtain ⟨usable, walked⟩ := locate_eq_ok_iff.mp located
  have only := onlySocket_of_socket there
  refine ⟨loc.place, ⟨usable, walked.approaches rooted (rooted.start dir path) only ?_⟩, there⟩
  intro none
  rw [none] at there
  cases there

/-- A path at which something can be made leads to the place where it is made. -/
theorem leads_of_create (rooted : t.Rooted) (dir : t.entryAt cwd = some .dir) {entry : Entry}
    (made : create cwd path entry t = .ok t') :
    ∃ place, t.Leads cwd path place ∧ t.entryAt place = none := by
  unfold create at made
  split at made
  · cases made
  · rename_i loc located
    split at made
    · cases made
    · rename_i missing
      split at made
      · cases made
      · rename_i file
        obtain ⟨usable, slash, asDir, walked⟩ := locateNew_eq_ok_iff.mp located
        have last : (Path.pieces path.octets).getLast? ≠ some [] := by
          simpa [slash] using file
        rw [withoutEnd_eq_self last] at walked
        exact ⟨loc.place, ⟨usable, walked.approaches rooted (rooted.start dir path)
          (onlySocket_of_none missing) fun _ => walked.asDir_eq_false last⟩, missing⟩

/-- What stands at the end of a path that does not end at a link is found also by who follows
links. -/
theorem status_of_linkStatus {entry : Entry} (found : t.linkStatus cwd path = .ok entry)
    (plain : ∀ target, entry ≠ .symlink target) : t.status cwd path = .ok entry := by
  have followed {links : Nat} {here : Place} {pieces : List (List UInt8)} {loc : Location}
      (h : Walks t false links here pieces loc) (there : t.entryAt loc.place = some entry) :
      Walks t true links here pieces loc := by
    induction h with
    | arrives => exact .arrives
    | stays nothing _ ih => exact .stays nothing (ih there)
    | ascends _ ih => exact .ascends (ih there)
    | misses name none ends => exact .misses name none ends
    | enters name dir _ ih => exact .enters name dir (ih there)
    | keeps name link not =>
        rw [link] at there
        cases there
        exact absurd rfl (plain _)
    | follows name link on leads _ ih => exact .follows name link (Or.inr rfl) leads (ih there)
    | finds name ends closed plain => exact .finds name ends closed plain
  obtain ⟨loc, located, there⟩ := statusOf_eq_ok_iff.mp found
  obtain ⟨usable, walked⟩ := locate_eq_ok_iff.mp located
  exact statusOf_eq_ok_iff.mpr ⟨loc, locate_eq_ok_iff.mpr ⟨usable, followed walked there⟩, there⟩

end ReviewChannel.FileTree
