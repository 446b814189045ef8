import ReviewChannel.Path
import ReviewChannel.SystemError

/-!
A tree of files. A place in the tree is a list of names from the root, innermost name first, and the
tree says what stands at each place. A regular file has a number, and its content is kept under the
number: who has opened the file goes on with it when its name is gone. A path is followed from a
working directory component by component; symbolic links on the way are followed too, up to a limit.

* `locate` finds the place that a path means; the last component may be missing.
* `status` and `linkStatus` say what stands there, at the end of symbolic links or not.
* `makeDir`, `makeDirs`, `openToAppend`, `writeFile`, `create`, `remove` change the tree at one
  place each.
-/

namespace ReviewChannel

/-- A place in a tree of files: names from the root, innermost first. -/
abbrev Place := List (List UInt8)

inductive SocketKind where
  | stream
  | datagram
deriving DecidableEq, Repr

/-- What can stand at a place. -/
inductive Entry where
  | dir
  /-- A regular file, by its number. -/
  | file (number : Nat)
  | symlink (target : Path)
  /-- A socket, with the number of the one that listens there, if anybody does. -/
  | socket (kind : SocketKind) (listener : Option Nat)
  /-- A device that takes octets, or refuses all of them because it is full. -/
  | device (full : Bool)
  /-- A file that can be run, by the name of its program. -/
  | program (name : String)
deriving DecidableEq, Repr

structure RegularFile where
  content : List UInt8 := []
  /-- Whether the file may be run. -/
  executable : Bool := false
deriving DecidableEq, Repr

/-- A tree of files. -/
structure FileTree where
  /-- What stands in the tree, each with its place. -/
  entries : List (Place × Entry)
  /-- The regular files that were ever made, by their numbers. -/
  files : List RegularFile := []
deriving Repr

namespace FileTree

/-! ### Places -/

def entryAt (t : FileTree) (place : Place) : Option Entry :=
  t.entries.lookup place

/-- The tree with one place changed. -/
def set (place : Place) (entry : Option Entry) (t : FileTree) : FileTree :=
  let others := t.entries.filter fun e => e.1 != place
  { t with
    entries := match entry with
      | none => others
      | some entry => (place, entry) :: others }

theorem lookup_filter_self (place : Place) (entries : List (Place × Entry)) :
    (entries.filter fun e => e.1 != place).lookup place = none := by
  simp [List.lookup_eq_none_iff]
  intro _ _ _ h
  exact fun e => h e.symm

theorem lookup_filter_ne {place p : Place} (h : p ≠ place) (entries : List (Place × Entry)) :
    (entries.filter fun e => e.1 != place).lookup p = entries.lookup p := by
  induction entries with
  | nil => rfl
  | cons e rest ih =>
    obtain ⟨q, entry⟩ := e
    by_cases hq : q = place
    · have : (p == place) = false := by simpa using h
      simp [List.lookup_cons, hq, this, ih]
    · by_cases hp : p = q <;> simp [List.lookup_cons, hq, hp, ih]

@[simp] theorem entryAt_set_self (place : Place) (entry : Option Entry) (t : FileTree) :
    (t.set place entry).entryAt place = entry := by
  cases entry with
  | none => exact lookup_filter_self place t.entries
  | some entry => simp [set, entryAt]

theorem entryAt_set_ne {place p : Place} (h : p ≠ place) (entry : Option Entry) (t : FileTree) :
    (t.set place entry).entryAt p = t.entryAt p := by
  cases entry with
  | none => exact lookup_filter_ne h t.entries
  | some entry =>
    have : (p == place) = false := by simpa using h
    simp [set, entryAt, List.lookup_cons, this, lookup_filter_ne h]

/-- The tree in which only the root stands. -/
def empty : FileTree :=
  { entries := [([], .dir)] }

/-! ### Regular files -/

def file (t : FileTree) (number : Nat) : RegularFile :=
  t.files[number]?.getD {}

/-- What is in the file of a program: the mark of one, and octets that are no text. -/
def programOctets : List UInt8 :=
  [0x7F, 0x45, 0x4C, 0x46, 0xFF]

/-- The content of what an entry is, if it is a file that can be read as a whole. -/
def content? (t : FileTree) : Entry → Option (List UInt8)
  | .file number => some (t.file number).content
  | .program _ => some programOctets
  | _ => none

/-- The tree with the regular file of a number changed. -/
def setFile (number : Nat) (f : RegularFile) (t : FileTree) : FileTree :=
  { t with files := t.files.set number f }

def setContent (number : Nat) (content : List UInt8) (t : FileTree) : FileTree :=
  t.setFile number { t.file number with content }

/-- Makes a regular file at the place: its number, and the tree with it. -/
def newFile (place : Place) (f : RegularFile) (t : FileTree) : Nat × FileTree :=
  let number := t.files.length
  (number, { t with files := t.files ++ [f] }.set place (some (.file number)))

def pathOf (place : Place) : Path :=
  match place with
  | [] => ⟨[Path.slash]⟩
  | _ => ⟨place.reverse.flatMap (Path.slash :: ·)⟩

/-! ### Following a path -/

/-- How many symbolic links are followed on the way. -/
def linkLimit : Nat := 40

def nameLimit : Nat := 255

def pathLimit : Nat := 4095

/-- The place that a path means. -/
structure Location where
  place : Place
  /-- Whether the path asks for a directory, by a slash at its end. -/
  asDir : Bool
deriving DecidableEq, Repr

/-- Whether nothing but slashes is left of a path. -/
def isEnd (pieces : List (List UInt8)) : Bool :=
  pieces.all List.isEmpty

/-- Follows the pieces of a path from a place. A link at the end is followed if `follow` says so or
if the path goes on after it. -/
def walk (t : FileTree) (follow : Bool) (links : Nat) (here : Place) :
    List (List UInt8) → Except SystemError Location
  | [] => .ok ⟨here, false⟩
  | piece :: rest =>
      if Path.namesNothing piece then walk t follow links here rest
      else if piece = [Path.dot, Path.dot] then walk t follow links here.tail rest
      else if nameLimit < piece.length then .error .nameTooLong
      else
        let place := piece :: here
        match t.entryAt place with
        | none => if isEnd rest then .ok ⟨place, !rest.isEmpty⟩ else .error .noEntry
        | some .dir => walk t follow links place rest
        | some (.symlink target) =>
            if rest.isEmpty && !follow then .ok ⟨place, false⟩
            else
              match links with
              | 0 => .error .linkLoop
              | links + 1 =>
                  if target.octets.isEmpty then .error .noEntry
                  else walk t follow links (if target.isAbsolute then [] else here)
                    (Path.pieces target.octets ++ rest)
        | some _ => if rest.isEmpty then .ok ⟨place, false⟩ else .error .notDirectory
  termination_by pieces => (links, pieces.length)

/-- Why a path means no place in any tree. -/
def unusable? (path : Path) : Option SystemError :=
  if path.octets.contains 0 then
    some (.custom "file name contained an unexpected NUL byte")
  else if path.octets.isEmpty then some .noEntry
  else if pathLimit < path.octets.length then some .nameTooLong
  else none

/-- The place from which a path is followed. -/
def startOf (cwd : Place) (path : Path) : Place :=
  if path.isAbsolute then [] else cwd

/-- The place that a path means from a working directory. -/
def locate (t : FileTree) (cwd : Place) (follow : Bool) (path : Path) :
    Except SystemError Location :=
  match unusable? path with
  | some e => .error e
  | none => t.walk follow linkLimit (startOf cwd path) (Path.pieces path.octets)

/-- The pieces of a path without slashes at its end. -/
def withoutEnd (pieces : List (List UInt8)) : List (List UInt8) :=
  (pieces.reverse.dropWhile List.isEmpty).reverse

/-- The place where something new at the path would stand. A link that stands there already is not
followed, also if there are slashes after it. -/
def locateNew (t : FileTree) (cwd : Place) (path : Path) : Except SystemError Location :=
  match unusable? path with
  | some e => .error e
  | none =>
      let pieces := Path.pieces path.octets
      match t.walk false linkLimit (startOf cwd path) (withoutEnd pieces) with
      | .error e => .error e
      | .ok loc => .ok { loc with asDir := pieces.getLast? = some [] }

/-! ### What stands at a path -/

/-- What stands at the end of the path, with symbolic links followed or not. -/
def statusOf (t : FileTree) (cwd : Place) (follow : Bool) (path : Path) :
    Except SystemError Entry :=
  match t.locate cwd follow path with
  | .error e => .error e
  | .ok loc =>
      match t.entryAt loc.place with
      | some entry => .ok entry
      | none => .error .noEntry

/-- What stands at the end of the path and of symbolic links. -/
def status (t : FileTree) (cwd : Place) (path : Path) : Except SystemError Entry :=
  t.statusOf cwd true path

/-- What stands at the end of the path itself. -/
def linkStatus (t : FileTree) (cwd : Place) (path : Path) : Except SystemError Entry :=
  t.statusOf cwd false path

def fileAt? (t : FileTree) (cwd : Place) (path : Path) : Option (List UInt8) :=
  match t.status cwd path with
  | .ok entry => t.content? entry
  | .error _ => none

def isDir (t : FileTree) (cwd : Place) (path : Path) : Bool :=
  match t.status cwd path with
  | .ok .dir => true
  | _ => false

/-! ### Changes -/

/-- The failure to make a directory, which is none if one is there already. -/
def unlessDir (cwd : Place) (path : Path) (t : FileTree) (e : SystemError) :
    Except SystemError Unit :=
  if e = .occupied && t.isDir cwd path then .ok () else .error e

def makeDir (cwd : Place) (path : Path) (t : FileTree) : Except SystemError FileTree :=
  match t.locateNew cwd path with
  | .error e => .error e
  | .ok loc =>
      match t.entryAt loc.place with
      | some _ => .error .occupied
      | none => .ok (t.set loc.place (some .dir))

/-- Makes a directory at the path, and its parents first if they are missing. A directory that is
there already is as good. What was made before a failure stays. -/
def makeDirs (cwd : Place) (path : Path) (t : FileTree) : Except SystemError Unit × FileTree :=
  match h : path.parent? with
  | none => (.ok (), t)
  | some parent =>
      match makeDir cwd path t with
      | .ok t => (.ok (), t)
      | .error e =>
          if e = .noEntry then
            have : parent.octets.length < path.octets.length := Path.length_parent_lt h
            match makeDirs cwd parent t with
            | (.error e, t) => (.error e, t)
            | (.ok (), t) =>
                match makeDir cwd path t with
                | .ok t => (.ok (), t)
                | .error e => (unlessDir cwd path t e, t)
          else (unlessDir cwd path t e, t)
termination_by path.octets.length

/-- The tree after opening what stands at the path to write to it, and what was opened. A missing
file is made. -/
def openToAppend (cwd : Place) (path : Path) (t : FileTree) :
    Except SystemError (Entry × FileTree) :=
  match t.locate cwd true path with
  | .error e => .error e
  | .ok loc =>
      match t.entryAt loc.place with
      | none =>
          if loc.asDir then .error .isDirectory
          else
            let (number, t) := t.newFile loc.place {}
            .ok (.file number, t)
      | some .dir => .error .isDirectory
      | some (.socket ..) => .error (.code 6)
      | some entry => .ok (entry, t)

/-- Writes a whole file at the path. -/
def writeFile (cwd : Place) (path : Path) (content : List UInt8) (t : FileTree) :
    Except SystemError FileTree :=
  match t.openToAppend cwd path with
  | .error e => .error e
  | .ok (.file number, t) => .ok (t.setContent number content)
  | .ok (.device true, t) => if content.isEmpty then .ok t else .error .deviceFull
  | .ok (_, t) => .ok t

/-- Puts an entry where nothing stands yet. -/
def create (cwd : Place) (path : Path) (entry : Entry) (t : FileTree) :
    Except SystemError FileTree :=
  match t.locateNew cwd path with
  | .error e => .error e
  | .ok loc =>
      match t.entryAt loc.place with
      | some _ => .error .occupied
      | none => if loc.asDir then .error .noEntry else .ok (t.set loc.place (some entry))

/-- Removes what stands at the path, unless it is a directory. -/
def remove (cwd : Place) (path : Path) (t : FileTree) : Except SystemError FileTree :=
  match t.locate cwd false path with
  | .error e => .error e
  | .ok loc =>
      match t.entryAt loc.place with
      | none => .error .noEntry
      | some .dir => .error .isDirectory
      | some _ => .ok (t.set loc.place none)

end FileTree

end ReviewChannel
