import ReviewChannel.Config.Search
import ReviewChannel.Proofs.IllFormed
import ReviewChannel.Proofs.Parents

/-!
Which file a configuration comes from.

* `FileTree.Holds` — a regular file stands at the end of a path and of symbolic links, and what is
  in it. No directory does (`not_holds_of_dir`), and neither does a link that leads nowhere
  (`not_holds_of_error`).
* `Config.Nearest` — the first directory, from a start upwards, with a configuration file;
  `Config.find?_eq_some_iff` — the search finds this file.
* `Config.nearest_file_settles` — what is loaded, by the nearest file alone.
-/

namespace ReviewChannel

namespace FileTree

variable {t : FileTree} {cwd : Place} {path : Path} {content : List UInt8}

/-- A regular file stands at the end of the path and of symbolic links, and this is in it. -/
inductive Holds (t : FileTree) (cwd : Place) (path : Path) : List UInt8 → Prop where
  | file {number : Nat} (there : t.status cwd path = .ok (.file number)) :
      Holds t cwd path (t.file number).content
  | program {name : String} (there : t.status cwd path = .ok (.program name)) :
      Holds t cwd path programOctets

/-- Reading a file at a path finds what the walk along that path finds. -/
theorem fileAt?_eq_some_iff : t.fileAt? cwd path = some content ↔ t.Holds cwd path content := by
  constructor
  · intro found
    unfold fileAt? at found
    split at found
    · rename_i entry there
      cases entry with
      | file number =>
          cases found
          exact .file there
      | program name =>
          cases found
          exact .program there
      | dir | symlink | socket | device => cases found
    · cases found
  · intro holds
    cases holds with
    | file there => simp only [fileAt?, there, content?]
    | program there => simp only [fileAt?, there, content?]

theorem fileAt?_eq_none_iff :
    t.fileAt? cwd path = none ↔ ∀ content, ¬ t.Holds cwd path content := by
  simp only [Option.eq_none_iff_forall_ne_some, ne_eq, fileAt?_eq_some_iff]

end FileTree

namespace Config

variable {t : FileTree} {cwd : Place} {start dir : Path} {content : List UInt8}

/-- The directory is the first one from the start upwards with a configuration file, and this is in
the file. -/
def Nearest (t : FileTree) (cwd : Place) (start dir : Path) (content : List UInt8) : Prop :=
  ∃ n, start.Rises n dir ∧ t.Holds cwd (fileIn dir) content ∧
    ∀ m < n, ∀ nearer, start.Rises m nearer → ∀ other, ¬ t.Holds cwd (fileIn nearer) other

/-- What the search looks for in a directory. -/
theorem map_fileAt?_eq_some_iff {path : Path} :
    ((t.fileAt? cwd (fileIn dir)).map fun content => (fileIn dir, content)) = some (path, content) ↔
      t.Holds cwd (fileIn dir) content ∧ path = fileIn dir := by
  simp only [Option.map_eq_some_iff, Prod.mk.injEq, FileTree.fileAt?_eq_some_iff]
  constructor
  · rintro ⟨_, holds, rfl, rfl⟩
    exact ⟨holds, rfl⟩
  · rintro ⟨holds, rfl⟩
    exact ⟨_, holds, rfl, rfl⟩

/-- The search finds the file of the nearest directory that has one. -/
theorem find?_eq_some_iff {path : Path} :
    find? t cwd start = some (path, content) ↔
      ∃ dir, Nearest t cwd start dir content ∧ path = fileIn dir := by
  rw [find?, List.findSome?_eq_some_iff]
  constructor
  · rintro ⟨nearer, dir, further, all, found, none⟩
    obtain ⟨holds, rfl⟩ := map_fileAt?_eq_some_iff.mp found
    refine ⟨dir, ⟨nearer.length, ?_, holds, fun m lt other rises => ?_⟩, rfl⟩
    · rw [← Path.getElem?_ancestors, all, List.getElem?_append_right (Nat.le_refl _), Nat.sub_self]
      rfl
    · rw [← Path.getElem?_ancestors, all, List.getElem?_append_left lt] at rises
      have missing := none other (List.mem_of_getElem? rises)
      exact FileTree.fileAt?_eq_none_iff.mp (Option.map_eq_none_iff.mp missing)
  · rintro ⟨dir, ⟨n, rises, holds, none⟩, rfl⟩
    obtain ⟨lt, is⟩ := List.getElem?_eq_some_iff.mp (Path.getElem?_ancestors.mpr rises)
    refine ⟨start.ancestors.take n, dir, start.ancestors.drop (n + 1), ?_,
      map_fileAt?_eq_some_iff.mpr ⟨holds, rfl⟩, fun nearer mem => ?_⟩
    · rw [← is, List.getElem_cons_drop, List.take_append_drop]
    · obtain ⟨m, there⟩ := List.mem_iff_getElem?.mp mem
      rw [List.getElem?_take] at there
      split at there
      · rename_i before
        have missing := none m before nearer (Path.getElem?_ancestors.mp there)
        exact Option.map_eq_none_iff.mpr (FileTree.fileAt?_eq_none_iff.mpr missing)
      · cases there

/-- The search finds nothing if no directory on the way up has a file. -/
theorem find?_eq_none_iff :
    find? t cwd start = none ↔
      ∀ n dir content, start.Rises n dir → ¬ t.Holds cwd (fileIn dir) content := by
  rw [find?, List.findSome?_eq_none_iff]
  constructor
  · intro none n dir content rises
    have mem := List.mem_of_getElem? (Path.getElem?_ancestors.mpr rises)
    exact FileTree.fileAt?_eq_none_iff.mp (Option.map_eq_none_iff.mp (none dir mem)) content
  · intro none dir mem
    obtain ⟨n, there⟩ := List.mem_iff_getElem?.mp mem
    have missing := fun content => none n dir content (Path.getElem?_ancestors.mp there)
    exact Option.map_eq_none_iff.mpr (FileTree.fileAt?_eq_none_iff.mpr missing)

/-! ### What is loaded -/

/-- The file of the nearest directory is loaded, and nothing else is looked at. -/
theorem load_of_nearest (h : Nearest t cwd start dir content) :
    load t cwd start =
      match Utf8.decode? content with
      | none => .error (.unreadable (fileIn dir))
      | some text =>
          match ofToml? text with
          | none => .error (.invalid (fileIn dir))
          | some config => .ok (config, some (fileIn dir)) := by
  have found := find?_eq_some_iff.mpr ⟨dir, h, rfl⟩
  cases read : Utf8.decode? content with
  | none => simp only [load, found, read]
  | some text => cases decoded : ofToml? text <;> simp only [load, found, read, decoded]

/-- What can be loaded: the defaults, if there is no file, or what comes of the nearest one. -/
inductive Loads (t : FileTree) (cwd : Place) (start : Path) :
    Except LoadFailure (Config × Option Path) → Prop where
  | defaults (nowhere : ∀ n dir content, start.Rises n dir → ¬ t.Holds cwd (fileIn dir) content) :
      Loads t cwd start (.ok ({}, none))
  | unreadable {dir : Path} {content : List UInt8} (nearest : Nearest t cwd start dir content)
      (noText : ∀ text, content ≠ Utf8.encode text) :
      Loads t cwd start (.error (.unreadable (fileIn dir)))
  | invalid {dir : Path} {text : String} (nearest : Nearest t cwd start dir (Utf8.encode text))
      (refused : ofToml? text = none) : Loads t cwd start (.error (.invalid (fileIn dir)))
  | configured {dir : Path} {text : String} {config : Config}
      (nearest : Nearest t cwd start dir (Utf8.encode text)) (read : ofToml? text = some config) :
      Loads t cwd start (.ok (config, some (fileIn dir)))

theorem loads_load (t : FileTree) (cwd : Place) (start : Path) :
    Loads t cwd start (load t cwd start) := by
  cases found : find? t cwd start with
  | none =>
      rw [load, found]
      exact .defaults (find?_eq_none_iff.mp found)
  | some file =>
      obtain ⟨path, content⟩ := file
      obtain ⟨dir, nearest, rfl⟩ := find?_eq_some_iff.mp found
      rw [load_of_nearest nearest]
      cases read : Utf8.decode? content with
      | none => exact .unreadable nearest (Utf8.decode?_eq_none_iff.mp read)
      | some text =>
          obtain rfl := Utf8.decode?_eq_some_iff.mp read
          cases decoded : ofToml? text with
          | none =>
              simp only [decoded]
              exact .invalid nearest decoded
          | some config =>
              simp only [decoded]
              exact .configured nearest decoded

/-- Loading comes to what `Loads` says, and to nothing else. -/
theorem load_eq_iff {result : Except LoadFailure (Config × Option Path)} :
    load t cwd start = result ↔ Loads t cwd start result := by
  constructor
  · rintro rfl
    exact loads_load t cwd start
  · intro loads
    cases loads with
    | defaults nowhere => rw [load, find?_eq_none_iff.mpr nowhere]
    | unreadable nearest noText =>
        rw [load_of_nearest nearest, Utf8.decode?_eq_none_iff.mpr noText]
    | invalid nearest refused =>
        simp only [load_of_nearest nearest, Utf8.decode?_encode, refused]
    | configured nearest read => simp only [load_of_nearest nearest, Utf8.decode?_encode, read]

end Config

end ReviewChannel
