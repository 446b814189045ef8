import ReviewChannel.FileTree
import ReviewChannel.Log.Writer

/-!
The protocol log in a tree of files. Opening it makes the directories above it and the file itself
if they are missing, and leaves what a file already holds.
-/

namespace ReviewChannel

/-- Something in a tree of files, open for writing at its end. -/
structure OpenFile where
  tree : FileTree
  entry : Entry

/-- Writes at the end of the file. A regular file takes everything, also if no name leads to it any
more; a device takes everything or is full. -/
def OpenFile.offer (octets : List UInt8) (f : OpenFile) : Except SystemError Nat × OpenFile :=
  match f.entry with
  | .file number =>
      (.ok octets.length,
        { f with tree := f.tree.setContent number ((f.tree.file number).content ++ octets) })
  | .device true => (.error .deviceFull, f)
  | _ => (.ok octets.length, f)

instance : Sink OpenFile := ⟨OpenFile.offer⟩

namespace ProtocolLog

def makeParent (cwd : Place) (path : Path) (t : FileTree) : Except LogFailure Unit × FileTree :=
  match path.parent? with
  | none => (.ok (), t)
  | some parent =>
      match t.makeDirs cwd parent with
      | (.error e, t) => (.error (.noDirectory parent.display e), t)
      | (.ok (), t) => (.ok (), t)

/-- Opens the log at the path. The tree is what it is then, also after a failure. -/
def openAt (cwd : Place) (path : Path) (t : FileTree) : Except LogFailure Entry × FileTree :=
  match makeParent cwd path t with
  | (.error e, t) => (.error e, t)
  | (.ok (), t) =>
      match t.openToAppend cwd path with
      | .error e => (.error (.notOpened path.display e), t)
      | .ok (entry, t) => (.ok entry, t)

/-- Writes the events of a list one after the other. -/
def appendAll (stamp : String) (events : List LogEvent) (w : Writer OpenFile) :
    List (Except LogFailure Unit) × Writer OpenFile :=
  match events with
  | [] => ([], w)
  | event :: rest =>
      let (result, w) := append stamp event w
      let (results, w) := appendAll stamp rest w
      (result :: results, w)

/-- The lines of the log at the path, if a regular file stands there. -/
def linesAt (cwd : Place) (path : Path) (t : FileTree) : Option (List String) :=
  (t.fileAt? cwd path).map fun content =>
    (rawLinesOf content).map Utf8.decodeLossy

end ProtocolLog

end ReviewChannel
