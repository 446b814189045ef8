import ReviewChannel.FileTree

/-!
What else can be done to a tree of files: see the names in a directory, remove a directory, give a
file another name, and move what stands at a place with all that stands below it.
-/

namespace ReviewChannel.FileTree

/-- Whether the octets come before others, or are the same. -/
def octetsLe : List UInt8 → List UInt8 → Bool
  | [], _ => true
  | _ :: _, [] => false
  | a :: as, b :: bs => a < b || (a == b && octetsLe as bs)

/-- The names in a directory, in the order of their octets. -/
def namesIn (t : FileTree) (dir : Place) : List (List UInt8) :=
  (t.entries.filterMap fun e => match e.1 with
    | name :: parent => if parent = dir then some name else none
    | [] => none).mergeSort octetsLe

/-- Whether a place is a directory or one of the places below it. -/
def isWithin (dir place : Place) : Bool :=
  dir.isSuffixOf place

/-- The tree without what stands at a place or below it. -/
def removeAll (place : Place) (t : FileTree) : FileTree :=
  { t with entries := t.entries.filter fun e => !isWithin place e.1 }

/-- Removes the directory at the path, which must be empty. -/
def removeDir (cwd : Place) (path : Path) (t : FileTree) : Except SystemError FileTree :=
  match t.locate cwd false path with
  | .error e => .error e
  | .ok loc =>
      match t.entryAt loc.place with
      | none => .error .noEntry
      | some .dir =>
          if loc.place.isEmpty then .error (.code 16)
          else if (t.namesIn loc.place).isEmpty then .ok (t.set loc.place none)
          else .error .notEmpty
      | some _ => .error .notDirectory

/-- Gives what stands at a path a second name, unless it is a directory. -/
def hardLink (cwd : Place) (source target : Path) (t : FileTree) : Except SystemError FileTree :=
  match t.linkStatus cwd source with
  | .error e => .error e
  | .ok .dir => .error (.code 1)
  | .ok entry => t.create cwd target entry

/-- The tree with all that stands at a place or below it moved to another place. -/
def moveAll (source target : Place) (t : FileTree) : FileTree :=
  let t := t.removeAll target
  { t with
    entries := t.entries.map fun e =>
      if isWithin source e.1 then (e.1.take (e.1.length - source.length) ++ target, e.2) else e }

/-- Whether something may be moved to where something else stands. -/
def mayReplace (t : FileTree) (place : Place) (moved : Entry) : Except SystemError Unit :=
  match t.entryAt place with
  | none => .ok ()
  | some .dir =>
      if moved != .dir then .error .isDirectory
      else if (t.namesIn place).isEmpty then .ok ()
      else .error .notEmpty
  | some _ => if moved = .dir then .error .notDirectory else .ok ()

/-- Moves what stands at a path. What stands at the other path is replaced if that can be. -/
def rename (cwd : Place) (source target : Path) (t : FileTree) : Except SystemError FileTree :=
  match t.locate cwd false source, t.locateNew cwd target with
  | .error e, _ => .error e
  | _, .error e => .error e
  | .ok old, .ok new =>
      match t.entryAt old.place with
      | none => .error .noEntry
      | some entry =>
          if old.place = new.place then .ok t
          else if isWithin old.place new.place then .error .invalid
          else match t.mayReplace new.place entry with
            | .error e => .error e
            | .ok () =>
                if t.entryAt new.place = some entry && entry != .dir then .ok t
                else .ok (t.moveAll old.place new.place)

end ReviewChannel.FileTree
