import ReviewChannel.FileTree

/-!
Following paths in a tree of files that grows.

* `FileTree.Walks` says how a path is followed, one rule for each kind of component;
  `FileTree.walk_eq_ok_iff` — that is what `walk` does when it succeeds.
* `FileTree.Extends` — a tree in which nothing has gone or changed. What a path led to it still
  leads to (`Walks.extends`), and a path that led to a place where nothing stood leads to what
  stands there now (`Walks.made`), also if links at its end are followed (`Walks.following`).
* `FileTree.status_of_made` — where a path led to nothing, it finds what stands there now; so do the
  paths of files that were opened (`status_of_opened`) and of what was put there
  (`status_of_created`).
* `FileTree.makeDirs_again` — a directory that was made with its parents need not be made again.
-/

namespace ReviewChannel.FileTree

/-! ### Following a path -/

/-- Whether a component is a name that may stand in a directory. -/
structure IsName (piece : List UInt8) : Prop where
  names : Path.namesNothing piece = false
  down : piece ≠ [Path.dot, Path.dot]
  short : piece.length ≤ nameLimit

/-- Following components from a place leads to a location. -/
inductive Walks (t : FileTree) (follow : Bool) :
    Nat → Place → List (List UInt8) → Location → Prop where
  | arrives {links : Nat} {here : Place} : Walks t follow links here [] ⟨here, false⟩
  | stays {links : Nat} {here : Place} {piece : List UInt8} {rest : List (List UInt8)}
      {loc : Location} (nothing : Path.namesNothing piece = true)
      (later : Walks t follow links here rest loc) : Walks t follow links here (piece :: rest) loc
  | ascends {links : Nat} {here : Place} {rest : List (List UInt8)} {loc : Location}
      (later : Walks t follow links here.tail rest loc) :
      Walks t follow links here ([Path.dot, Path.dot] :: rest) loc
  /-- Nothing stands there, and the path ends. -/
  | misses {links : Nat} {here : Place} {piece : List UInt8} {rest : List (List UInt8)}
      (name : IsName piece) (none : t.entryAt (piece :: here) = none) (ends : isEnd rest = true) :
      Walks t follow links here (piece :: rest) ⟨piece :: here, !rest.isEmpty⟩
  | enters {links : Nat} {here : Place} {piece : List UInt8} {rest : List (List UInt8)}
      {loc : Location} (name : IsName piece) (dir : t.entryAt (piece :: here) = some .dir)
      (later : Walks t follow links (piece :: here) rest loc) :
      Walks t follow links here (piece :: rest) loc
  /-- The path ends at a link, which is not followed. -/
  | keeps {links : Nat} {here : Place} {piece : List UInt8} {target : Path} (name : IsName piece)
      (link : t.entryAt (piece :: here) = some (.symlink target)) (not : follow = false) :
      Walks t follow links here [piece] ⟨piece :: here, false⟩
  | follows {links : Nat} {here : Place} {piece : List UInt8} {target : Path}
      {rest : List (List UInt8)} {loc : Location} (name : IsName piece)
      (link : t.entryAt (piece :: here) = some (.symlink target))
      (on : rest.isEmpty = false ∨ follow = true) (leads : target.octets.isEmpty = false)
      (later : Walks t follow links (if target.isAbsolute then [] else here)
        (Path.pieces target.octets ++ rest) loc) :
      Walks t follow (links + 1) here (piece :: rest) loc
  /-- The path ends at something else. -/
  | finds {links : Nat} {here : Place} {piece : List UInt8} {entry : Entry} (name : IsName piece)
      (there : t.entryAt (piece :: here) = some entry) (closed : entry ≠ .dir)
      (plain : ∀ target, entry ≠ .symlink target) :
      Walks t follow links here [piece] ⟨piece :: here, false⟩

variable {t t' : FileTree} {follow : Bool} {links : Nat} {here : Place}
  {pieces : List (List UInt8)} {loc : Location}

theorem isName_of_not {piece : List UInt8} (names : ¬ Path.namesNothing piece = true)
    (down : ¬ piece = [Path.dot, Path.dot]) (short : ¬ nameLimit < piece.length) : IsName piece :=
  ⟨Bool.eq_false_iff.mpr names, down, Nat.le_of_not_lt short⟩

/-- The rules cover all that following a path does. -/
theorem walks_of_walk (h : t.walk follow links here pieces = .ok loc) :
    Walks t follow links here pieces loc := by
  fun_induction walk t follow links here pieces with
  | case1 =>
      cases h
      exact .arrives
  | case2 links here piece rest nothing ih => exact .stays nothing (ih h)
  | case3 links here rest _ ih => exact .ascends (ih h)
  | case5 links here piece rest names down short place none ends =>
      cases h
      exact .misses (isName_of_not names down short) none ends
  | case7 links here piece rest names down short place dir ih =>
      exact .enters (isName_of_not names down short) dir (ih h)
  | case8 links here piece rest names down short place target link stops =>
      cases h
      obtain ⟨last, not⟩ := Bool.and_eq_true_iff.mp stops
      obtain rfl := List.isEmpty_iff.mp last
      exact .keeps (isName_of_not names down short) link (by simpa using not)
  | case11 here piece rest names down short place target link goes links leads ih =>
      have on : rest.isEmpty = false ∨ follow = true := by
        cases empty : rest.isEmpty with
        | false => exact Or.inl rfl
        | true => exact Or.inr (by simpa [empty] using goes)
      exact .follows (isName_of_not names down short) link on (Bool.eq_false_iff.mpr leads) (ih h)
  | case12 links here piece rest names down short place entry closed plain there last =>
      cases h
      obtain rfl := List.isEmpty_iff.mp last
      exact .finds (isName_of_not names down short) there closed plain
  | case4 | case6 | case9 | case10 | case13 => cases h

/-- A name is looked up where the path has come to. -/
theorem walk_name {piece : List UInt8} {rest : List (List UInt8)} (name : IsName piece) :
    t.walk follow links here (piece :: rest) =
      match t.entryAt (piece :: here) with
      | none => if isEnd rest then .ok ⟨piece :: here, !rest.isEmpty⟩ else .error .noEntry
      | some .dir => t.walk follow links (piece :: here) rest
      | some (.symlink target) =>
          if rest.isEmpty && !follow then .ok ⟨piece :: here, false⟩
          else
            match links with
            | 0 => .error .linkLoop
            | links + 1 =>
                if target.octets.isEmpty then .error .noEntry
                else t.walk follow links (if target.isAbsolute then [] else here)
                  (Path.pieces target.octets ++ rest)
      | some _ => if rest.isEmpty then .ok ⟨piece :: here, false⟩ else .error .notDirectory := by
  have names : ¬ Path.namesNothing piece = true := by simp [name.names]
  rw [walk]
  exact (if_neg names).trans ((if_neg name.down).trans (if_neg (Nat.not_lt_of_le name.short)))

/-- What the rules say is what following a path does. -/
theorem Walks.walk_eq (h : Walks t follow links here pieces loc) :
    t.walk follow links here pieces = .ok loc := by
  induction h with
  | arrives => rw [walk]
  | stays nothing _ ih => rw [walk, if_pos nothing, ih]
  | ascends _ ih => rw [walk, if_neg (by decide), if_pos rfl, ih]
  | misses name none ends =>
      rw [walk_name name, none]
      exact if_pos ends
  | enters name dir _ ih =>
      rw [walk_name name, dir]
      exact ih
  | keeps name link not =>
      rw [walk_name name, link, not]
      rfl
  | @follows links here piece target rest loc name link on leads _ ih =>
      have goes : (rest.isEmpty && !follow) = false := by
        rcases on with more | through
        · rw [more, Bool.false_and]
        · rw [through, Bool.not_true, Bool.and_false]
      simp only [walk_name name, link, goes, leads, Bool.false_eq_true, if_false]
      exact ih
  | @finds links here piece entry name there closed plain =>
      rw [walk_name name, there]
      cases entry with
      | dir => exact absurd rfl closed
      | symlink target => exact absurd rfl (plain target)
      | file | socket | device | program => rfl

/-- A path is followed as the rules say, and in no other way. -/
theorem walk_eq_ok_iff :
    t.walk follow links here pieces = .ok loc ↔ Walks t follow links here pieces loc :=
  ⟨walks_of_walk, Walks.walk_eq⟩

/-! ### Trees that grow -/

/-- Nothing of the first tree has gone or changed in the second. -/
def Extends (t t' : FileTree) : Prop :=
  ∀ place entry, t.entryAt place = some entry → t'.entryAt place = some entry

theorem Extends.refl (t : FileTree) : Extends t t :=
  fun _ _ there => there

theorem Extends.trans {t'' : FileTree} (h : Extends t t') (h' : Extends t' t'') : Extends t t'' :=
  fun place entry there => h' place entry (h place entry there)

/-- Something new takes the place of nothing. -/
theorem extends_set {place : Place} (none : t.entryAt place = none) (entry : Entry) :
    Extends t (t.set place (some entry)) := by
  intro p e there
  have other : p ≠ place := by
    rintro rfl
    rw [none] at there
    cases there
  rwa [entryAt_set_ne other]

/-- A path leads to what it led to. -/
theorem Walks.extends (h : Walks t follow links here pieces loc) (grown : Extends t t')
    {entry : Entry} (found : t.entryAt loc.place = some entry) :
    Walks t' follow links here pieces loc := by
  induction h with
  | arrives => exact .arrives
  | stays nothing _ ih => exact .stays nothing (ih found)
  | ascends _ ih => exact .ascends (ih found)
  | misses name none ends =>
      rw [none] at found
      cases found
  | enters name dir _ ih => exact .enters name (grown _ _ dir) (ih found)
  | keeps name link not => exact .keeps name (grown _ _ link) not
  | follows name link on leads _ ih => exact .follows name (grown _ _ link) on leads (ih found)
  | finds name there closed plain => exact .finds name (grown _ _ there) closed plain

/-- The end of a path leads nowhere else. -/
theorem walks_of_isEnd {ends : List (List UInt8)} (h : isEnd ends = true) :
    Walks t follow links here ends ⟨here, false⟩ := by
  induction ends with
  | nil => exact .arrives
  | cons piece rest ih =>
      obtain ⟨empty, later⟩ := Bool.and_eq_true_iff.mp h
      exact .stays (by simp [Path.namesNothing, empty]) (ih later)

/-- A path that led to a place where nothing stood leads to what stands there now: a directory, or
something else if the path does not ask for one. -/
theorem Walks.made (h : Walks t follow links here pieces loc) (grown : Extends t t')
    (missing : t.entryAt loc.place = none) {entry : Entry}
    (made : t'.entryAt loc.place = some entry)
    (fits : entry = .dir ∨ (∀ target, entry ≠ .symlink target) ∧ loc.asDir = false) :
    ∃ asDir, Walks t' follow links here pieces ⟨loc.place, asDir⟩ := by
  induction h with
  | arrives => exact ⟨false, .arrives⟩
  | stays nothing _ ih =>
      obtain ⟨asDir, later⟩ := ih missing made fits
      exact ⟨asDir, .stays nothing later⟩
  | ascends _ ih =>
      obtain ⟨asDir, later⟩ := ih missing made fits
      exact ⟨asDir, .ascends later⟩
  | misses name none ends =>
      by_cases dir : entry = .dir
      · exact ⟨false, .enters name (dir ▸ made) (walks_of_isEnd ends)⟩
      · obtain ⟨plain, last⟩ := fits.resolve_left dir
        obtain rfl := List.isEmpty_iff.mp (by simpa using last)
        exact ⟨false, .finds name made dir plain⟩
  | enters name dir _ ih =>
      obtain ⟨asDir, later⟩ := ih missing made fits
      exact ⟨asDir, .enters name (grown _ _ dir) later⟩
  | keeps name link not =>
      rw [link] at missing
      cases missing
  | follows name link on leads _ ih =>
      obtain ⟨asDir, later⟩ := ih missing made fits
      exact ⟨asDir, .follows name (grown _ _ link) on leads later⟩
  | finds name there closed plain =>
      rw [there] at missing
      cases missing

/-- Where a path leads to nothing, it does not end at a link, so it does not matter whether links at
its end are followed, nor whether slashes follow. -/
theorem Walks.following (h : Walks t false links here pieces loc)
    (missing : t.entryAt loc.place = none) {ends : List (List UInt8)} (blank : isEnd ends = true) :
    ∃ asDir, (ends = [] → asDir = loc.asDir) ∧
      Walks t true links here (pieces ++ ends) ⟨loc.place, asDir⟩ := by
  induction h with
  | arrives => exact ⟨false, fun _ => rfl, walks_of_isEnd blank⟩
  | stays nothing _ ih =>
      obtain ⟨asDir, same, later⟩ := ih missing
      exact ⟨asDir, same, .stays nothing later⟩
  | ascends _ ih =>
      obtain ⟨asDir, same, later⟩ := ih missing
      exact ⟨asDir, same, .ascends later⟩
  | @misses links here piece rest name none finished =>
      have all : isEnd (rest ++ ends) = true := by
        rw [isEnd, List.all_append]
        exact Bool.and_eq_true_iff.mpr ⟨finished, blank⟩
      refine ⟨!(rest ++ ends).isEmpty, ?_, .misses name none all⟩
      rintro rfl
      rw [List.append_nil]
  | enters name dir _ ih =>
      obtain ⟨asDir, same, later⟩ := ih missing
      exact ⟨asDir, same, .enters name dir later⟩
  | keeps name link not =>
      rw [link] at missing
      cases missing
  | @follows links here piece target rest loc name link on leads _ ih =>
      obtain ⟨asDir, same, later⟩ := ih missing
      rw [List.append_assoc] at later
      exact ⟨asDir, same, .follows name link (Or.inr rfl) leads later⟩
  | finds name there closed plain =>
      rw [there] at missing
      cases missing

/-- A path without a slash at its end does not ask for a directory, if no link at its end is
followed. -/
theorem Walks.asDir_eq_false (h : Walks t false links here pieces loc)
    (last : pieces.getLast? ≠ some []) : loc.asDir = false := by
  have tail {piece : List UInt8} {rest : List (List UInt8)}
      (last : (piece :: rest).getLast? ≠ some []) : rest.getLast? ≠ some [] := by
    intro same
    rw [List.getLast?_cons, same] at last
    exact last rfl
  induction h with
  | arrives => rfl
  | stays _ _ ih => exact ih (tail last)
  | ascends _ ih => exact ih (tail last)
  | @misses links here piece rest name none ends =>
      cases more : rest.getLast? with
      | none => simp [List.getLast?_eq_none_iff.mp more]
      | some other =>
          have blank : other = [] := by
            have mem := List.mem_of_getLast? more
            exact List.isEmpty_iff.mp (List.all_eq_true.mp ends other mem)
          exact absurd (blank ▸ more) (tail last)
  | enters name dir _ ih => exact ih (tail last)
  | keeps => rfl
  | @follows links here piece target rest loc name link on leads _ ih =>
      refine ih ?_
      have more : rest ≠ [] := by simpa using on
      rw [List.getLast?_append, List.getLast?_eq_some_getLast more, Option.some_or,
        ← List.getLast?_eq_some_getLast more]
      exact tail last
  | finds => rfl

/-! ### Places and what stands there -/

variable {cwd : Place} {path : Path}

theorem locate_eq_ok_iff : t.locate cwd follow path = .ok loc ↔
    unusable? path = none ∧
      Walks t follow linkLimit (startOf cwd path) (Path.pieces path.octets) loc := by
  unfold locate
  cases unusable? path with
  | some e => simp
  | none => simp [walk_eq_ok_iff]

/-- Where something new would go: the last component is not followed if it is a link. -/
theorem locateNew_eq_ok_iff : t.locateNew cwd path = .ok loc ↔
    unusable? path = none ∧ loc.asDir = decide ((Path.pieces path.octets).getLast? = some []) ∧
      ∃ asDir, Walks t false linkLimit (startOf cwd path)
        (withoutEnd (Path.pieces path.octets)) ⟨loc.place, asDir⟩ := by
  unfold locateNew
  cases unusable? path with
  | some e => simp
  | none =>
      simp only [true_and]
      constructor
      · intro h
        split at h
        · cases h
        · rename_i found walked
          cases h
          exact ⟨rfl, found.asDir, walk_eq_ok_iff.mp walked⟩
      · rintro ⟨asDir, _, walked⟩
        rw [walked.walk_eq, ← asDir]

theorem statusOf_eq_ok_iff {entry : Entry} : t.statusOf cwd follow path = .ok entry ↔
    ∃ loc, t.locate cwd follow path = .ok loc ∧ t.entryAt loc.place = some entry := by
  unfold statusOf
  cases t.locate cwd follow path with
  | error e => simp
  | ok loc =>
      cases there : t.entryAt loc.place with
      | none => simp [there]
      | some e => simp [there]

/-- What stands at a path still stands there. -/
theorem status_extends {entry : Entry} (h : t.status cwd path = .ok entry)
    (grown : Extends t t') : t'.status cwd path = .ok entry := by
  obtain ⟨loc, located, there⟩ := statusOf_eq_ok_iff.mp h
  obtain ⟨usable, walked⟩ := locate_eq_ok_iff.mp located
  exact statusOf_eq_ok_iff.mpr ⟨loc, locate_eq_ok_iff.mpr ⟨usable, walked.extends grown there⟩,
    grown _ _ there⟩

/-- A path that starts at the root leads to the same from everywhere. -/
theorem status_of_isAbsolute (t : FileTree) {path : Path} (absolute : path.isAbsolute = true)
    (cwd cwd' : Place) : t.status cwd path = t.status cwd' path := by
  simp only [status, statusOf, locate, startOf, absolute, if_true]

/-- The pieces of a path are those without slashes at its end, and nothing but slashes. -/
theorem exists_withoutEnd_append (pieces : List (List UInt8)) :
    ∃ ends, isEnd ends = true ∧ withoutEnd pieces ++ ends = pieces := by
  refine ⟨(pieces.reverse.takeWhile List.isEmpty).reverse, ?_, ?_⟩
  · rw [isEnd, List.all_reverse]
    exact List.all_takeWhile
  · rw [withoutEnd, ← List.reverse_append, List.takeWhile_append_dropWhile, List.reverse_reverse]

theorem withoutEnd_eq_self (last : pieces.getLast? ≠ some []) : withoutEnd pieces = pieces := by
  rw [← List.head?_reverse] at last
  rw [withoutEnd]
  cases reversed : pieces.reverse with
  | nil => simpa using (List.reverse_eq_nil_iff.mp reversed).symm
  | cons piece rest =>
      have named : ¬ piece.isEmpty = true := by
        simpa [reversed] using last
      rw [List.dropWhile_cons_of_neg named, ← reversed, List.reverse_reverse]

/-- Where something new at a path would stand is where the path leads to; it asks for a directory
there only if there is a slash at its end. -/
theorem locate_of_locateNew (h : t.locateNew cwd path = .ok loc)
    (missing : t.entryAt loc.place = none) :
    ∃ asDir, (loc.asDir = false → asDir = false) ∧
      t.locate cwd true path = .ok ⟨loc.place, asDir⟩ := by
  obtain ⟨usable, slash, asDir, walked⟩ := locateNew_eq_ok_iff.mp h
  obtain ⟨ends, blank, whole⟩ := exists_withoutEnd_append (Path.pieces path.octets)
  obtain ⟨asDir', same, followed⟩ := walked.following missing blank
  rw [whole] at followed
  refine ⟨asDir', fun file => ?_, locate_eq_ok_iff.mpr ⟨usable, followed⟩⟩
  have last : (Path.pieces path.octets).getLast? ≠ some [] := by
    simpa [slash] using file
  rw [withoutEnd_eq_self last] at walked whole
  rw [same (List.self_eq_append_right.mp whole.symm), walked.asDir_eq_false last]

/-- A path that led to a place where nothing stood finds what stands there now: a directory, or
something else if the path does not ask for one. -/
theorem status_of_made (located : t.locate cwd true path = .ok loc)
    (missing : t.entryAt loc.place = none) (grown : Extends t t') {entry : Entry}
    (made : t'.entryAt loc.place = some entry)
    (fits : entry = .dir ∨ (∀ target, entry ≠ .symlink target) ∧ loc.asDir = false) :
    t'.status cwd path = .ok entry := by
  obtain ⟨usable, walked⟩ := locate_eq_ok_iff.mp located
  obtain ⟨_, walked'⟩ := walked.made grown missing made fits
  exact statusOf_eq_ok_iff.mpr ⟨_, locate_eq_ok_iff.mpr ⟨usable, walked'⟩, made⟩

/-! ### Making directories -/

/-- A directory stands at a path, and nothing new can. -/
structure Standing (t : FileTree) (cwd : Place) (path : Path) : Prop where
  there : ∃ loc entry, t.locateNew cwd path = .ok loc ∧ t.entryAt loc.place = some entry
  dir : t.status cwd path = .ok .dir

theorem Standing.extends (h : Standing t cwd path) (grown : Extends t t') :
    Standing t' cwd path := by
  obtain ⟨⟨loc, entry, located, there⟩, dir⟩ := h
  constructor
  · obtain ⟨usable, asDir, last, walked⟩ := locateNew_eq_ok_iff.mp located
    exact ⟨loc, entry, locateNew_eq_ok_iff.mpr ⟨usable, asDir, last, walked.extends grown there⟩,
      grown _ _ there⟩
  · exact status_extends dir grown

theorem Standing.makeDir_eq (h : Standing t cwd path) :
    makeDir cwd path t = .error .occupied := by
  obtain ⟨loc, entry, located, there⟩ := h.there
  rw [makeDir, located]
  simp only [there]

theorem Standing.unlessDir_eq (h : Standing t cwd path) :
    unlessDir cwd path t .occupied = .ok () := by
  simp [unlessDir, isDir, h.dir]

/-- A directory that stands there is left as it is. -/
theorem Standing.makeDirs_eq (h : Standing t cwd path) : makeDirs cwd path t = (.ok (), t) := by
  have other : SystemError.occupied ≠ .noEntry := by decide
  unfold makeDirs
  split
  · rfl
  · simp only [h.makeDir_eq, if_neg other, h.unlessDir_eq]

/-- A directory that was made stands there. -/
theorem standing_of_makeDir (h : makeDir cwd path t = .ok t') : Standing t' cwd path := by
  unfold makeDir at h
  split at h
  · cases h
  · rename_i loc located
    split at h
    · cases h
    · rename_i missing
      cases h
      obtain ⟨usable, asDir, last, walked⟩ := locateNew_eq_ok_iff.mp located
      have grown := extends_set missing .dir
      have made := entryAt_set_self loc.place (some .dir) t
      constructor
      · obtain ⟨again, walked'⟩ := walked.made grown missing made (Or.inl rfl)
        exact ⟨loc, .dir, locateNew_eq_ok_iff.mpr ⟨usable, asDir, again, walked'⟩, made⟩
      · obtain ⟨_, -, leads⟩ := locate_of_locateNew located missing
        exact status_of_made leads missing grown made (Or.inl rfl)

/-- Following a path does not fail because something stands there. -/
theorem walk_ne_occupied : t.walk follow links here pieces ≠ .error .occupied := by
  fun_induction walk t follow links here pieces with
  | case1 | case5 | case8 | case12 => exact fun h => nomatch h
  | case4 | case6 | case9 | case10 | case13 =>
      exact fun h => absurd (Except.error.inj h) (by decide)
  | case2 | case3 | case7 | case11 => assumption

theorem unusable?_ne_occupied : unusable? path ≠ some .occupied := by
  unfold unusable?
  split
  · exact fun h => absurd (Option.some.inj h) (by decide)
  split
  · exact fun h => absurd (Option.some.inj h) (by decide)
  split
  · exact fun h => absurd (Option.some.inj h) (by decide)
  · exact fun h => nomatch h

theorem locateNew_ne_occupied : t.locateNew cwd path ≠ .error .occupied := by
  unfold locateNew
  split
  · rename_i e unusable
    intro h
    exact unusable?_ne_occupied (Except.error.inj h ▸ unusable)
  · simp only
    split
    · rename_i e walked
      intro h
      exact walk_ne_occupied (Except.error.inj h ▸ walked)
    · exact fun h => nomatch h

/-- What could not be made because a directory is there stands there. -/
theorem standing_of_unlessDir {e : SystemError} (h : makeDir cwd path t = .error e)
    (excused : unlessDir cwd path t e = .ok ()) : Standing t cwd path := by
  unfold unlessDir at excused
  split at excused
  · rename_i is
    obtain ⟨occupied, dir⟩ := Bool.and_eq_true_iff.mp is
    obtain rfl := of_decide_eq_true occupied
    constructor
    · unfold makeDir at h
      split at h
      · rename_i e located
        exact absurd (Except.error.inj h ▸ located) locateNew_ne_occupied
      · rename_i loc located
        split at h
        · rename_i entry there
          exact ⟨loc, entry, located, there⟩
        · cases h
    · unfold isDir at dir
      split at dir
      · rename_i found
        exact found
      · cases dir
  · cases excused

/-- Directories that were made stand there, unless the path has no parent. -/
theorem standing_of_makeDirs (h : makeDirs cwd path t = (.ok (), t')) :
    path.parent? = none ∨ Standing t' cwd path := by
  unfold makeDirs at h
  split at h
  · rename_i none
    exact Or.inl none
  · refine Or.inr ?_
    split at h
    · rename_i made
      cases h
      exact standing_of_makeDir made
    · rename_i e refused
      split at h
      · split at h
        · cases h
        · rename_i t₁ _
          split at h
          · rename_i made
            cases h
            exact standing_of_makeDir made
          · rename_i e' refused'
            obtain ⟨excused, rfl⟩ := Prod.mk.inj h
            exact standing_of_unlessDir refused' excused
      · obtain ⟨excused, rfl⟩ := Prod.mk.inj h
        exact standing_of_unlessDir refused excused

/-- Directories that were made need not be made again. -/
theorem makeDirs_again (h : makeDirs cwd path t = (.ok (), t')) {t'' : FileTree}
    (grown : Extends t' t'') : makeDirs cwd path t'' = (.ok (), t'') := by
  rcases standing_of_makeDirs h with none | standing
  · unfold makeDirs
    split
    · rfl
    · rename_i parent
      rw [none] at parent
      cases parent
  · exact (standing.extends grown).makeDirs_eq

/-! ### Opening files -/

/-- A regular file that was opened is found at its path, and opening it changes nothing that was
there. -/
theorem status_of_opened {number : Nat} (h : openToAppend cwd path t = .ok (.file number, t')) :
    Extends t t' ∧ t'.status cwd path = .ok (.file number) := by
  unfold openToAppend at h
  split at h
  · cases h
  · rename_i loc located
    split at h
    · rename_i missing
      split at h
      · cases h
      · rename_i last
        cases h
        let kept : FileTree := { t with files := t.files ++ [{}] }
        have grown : Extends t (t.newFile loc.place {}).2 :=
          extends_set (t := kept) missing (.file t.files.length)
        have made := entryAt_set_self loc.place (some (.file t.files.length)) kept
        exact ⟨grown, status_of_made located missing grown made
          (Or.inr ⟨fun _ => nofun, Bool.eq_false_iff.mpr last⟩)⟩
    · cases h
    · cases h
    · rename_i entry _ _ there
      cases h
      exact ⟨Extends.refl t, statusOf_eq_ok_iff.mpr ⟨loc, located, there⟩⟩

/-- A regular file that stands at a path is what is opened there. -/
theorem openToAppend_of_status {number : Nat} (h : t.status cwd path = .ok (.file number)) :
    openToAppend cwd path t = .ok (.file number, t) := by
  obtain ⟨loc, located, there⟩ := statusOf_eq_ok_iff.mp h
  rw [openToAppend, located]
  simp only [there]

/-! ### Putting something new in the tree -/

/-- What was put at a path, and is no link, is found there. -/
theorem status_of_created {entry : Entry} (h : create cwd path entry t = .ok t')
    (plain : ∀ target, entry ≠ .symlink target) :
    Extends t t' ∧ t'.status cwd path = .ok entry := by
  unfold create at h
  split at h
  · cases h
  · rename_i loc located
    split at h
    · cases h
    · rename_i missing
      split at h
      · cases h
      · rename_i file
        cases h
        have grown := extends_set missing entry
        have made := entryAt_set_self loc.place (some entry) t
        obtain ⟨asDir, plainly, leads⟩ := locate_of_locateNew located missing
        exact ⟨grown, status_of_made leads missing grown made
          (Or.inr ⟨plain, plainly (Bool.eq_false_iff.mpr file)⟩)⟩

end ReviewChannel.FileTree
