import ReviewChannel.Config.OfToml
import ReviewChannel.FileTree

/-!
Where the configuration comes from: the nearest directory, upward from a start, in which the file
`.grader/config.toml` stands. A file that is found settles the matter; if it is no configuration, no
file further up takes its place.
-/

namespace ReviewChannel.Config

/-- Why there is no configuration. -/
inductive LoadFailure where
  /-- The file at the path is no text. -/
  | unreadable (path : Path)
  /-- The file at the path is no configuration. -/
  | invalid (path : Path)
deriving DecidableEq, Repr

def LoadFailure.message : LoadFailure → String
  | unreadable path => s!"failed to read {path.display}"
  | invalid path => s!"failed to parse {path.display}"

def fileIn (dir : Path) : Path :=
  (dir.join (.ofText ".grader")).join (.ofText "config.toml")

/-- The nearest configuration file, and its content. -/
def find? (t : FileTree) (cwd : Place) (start : Path) : Option (Path × List UInt8) :=
  start.ancestors.findSome? fun dir =>
    (t.fileAt? cwd (fileIn dir)).map fun content => (fileIn dir, content)

/-- The configuration of a start directory and the file that it comes from, if any. -/
def load (t : FileTree) (cwd : Place) (start : Path) :
    Except LoadFailure (Config × Option Path) :=
  match find? t cwd start with
  | none => .ok ({}, none)
  | some (path, content) =>
      match Utf8.decode? content with
      | none => .error (.unreadable path)
      | some text =>
          match ofToml? text with
          | none => .error (.invalid path)
          | some config => .ok (config, some path)

end ReviewChannel.Config
