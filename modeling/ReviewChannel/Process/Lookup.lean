import ReviewChannel.Process.Status
import ReviewChannel.Process.World

/-!
Finding programs. A word with a slash is a path; any other one is looked up in the directories that
the variable `PATH` lists, or in the usual ones if there is no such variable.

* `Lookup.executable` says what would run at a path.
* `Lookup.find` finds a program as a process does that is to become it.
* `Lookup.search` finds it as a shell does.
-/

namespace ReviewChannel.Process

inductive Executable where
  | program (name : String)
  /-- A text that another program is to read. -/
  | script (content : List UInt8)
deriving DecidableEq, Repr

namespace Lookup

/-- The directories in which programs are looked up if nothing else is said. -/
def usualPath : String :=
  "/usr/local/sbin:/usr/local/bin:/usr/sbin:/usr/bin:/sbin:/bin"

/-- The directories that a list names. An empty name is the working directory. -/
def dirsOf (list : String) : List String :=
  list.splitToList (· == ':')

/-- The path of a name in a directory. -/
def within (dir name : String) : String :=
  if dir.isEmpty then name
  else if dir.endsWith "/" then dir ++ name
  else dir ++ "/" ++ name

def isPath (word : String) : Bool :=
  word.toList.contains '/'

def executable (w : World) (path : String) : Except SystemError Executable :=
  match w.status path with
  | .ok (.program name) => .ok (.program name)
  | .ok (.file number) =>
      let f := w.tree.file number
      if f.executable then .ok (.script f.content) else .error .denied
  | .ok _ => .error .denied
  | .error e => .error e

/-- The first directory in which a program of the name stands. A directory without it is passed
over, and so is one in which the name belongs to something else, but that is remembered. -/
def among (w : World) (name : String) (failure : SystemError) :
    List String → Except SystemError String
  | [] => .error failure
  | dir :: rest =>
      match executable w (within dir name) with
      | .ok _ => .ok (within dir name)
      | .error e => among w name (if e = .denied then .denied else failure) rest

/-- The path of the program that a word names in a list of directories. -/
def find (w : World) (list word : String) : Except SystemError String :=
  if word.isEmpty then .error .noEntry
  else if isPath word then
    match executable w word with
    | .ok _ => .ok word
    | .error e => .error e
  else if FileTree.nameLimit < word.length then .error .nameTooLong
  else among w word .noEntry (dirsOf list)

/-- The path of the program that a name has for a shell. A path is taken as it is. -/
def search (w : World) (list word : String) : Except SystemError String :=
  if isPath word then .ok word
  else if word.isEmpty then .error .noEntry
  else among w word .noEntry (dirsOf list)

/-- The directories in which a process looks up programs. -/
def pathOf (w : World) : String :=
  (w.valueOf? "PATH").getD usualPath

end Lookup

/-- A way to run what stands at a path: the words that it gets, the first of which is what it is
called, and the world that it is to see. -/
abbrev Launch := String → List String → World → Except SystemError (ExitStatus × World)

/-- Runs what stands at a path. A text that does not say which program is to read it is read by a
shell. -/
def runOrRead (launch : Launch) (path : String) (words : List String) (w : World) :
    Except SystemError (ExitStatus × World) :=
  match launch path words w with
  | .error e =>
      if e = .notExecutable then launch "/bin/sh" ("/bin/sh" :: path :: words.drop 1) w else .error e
  | r => r

/-- Runs the program that the first of the words names. -/
def runNamed (launch : Launch) (words : List String) (w : World) :
    Except SystemError (ExitStatus × World) :=
  match Lookup.find w (Lookup.pathOf w) (words.headD "") with
  | .error e => .error e
  | .ok path => runOrRead launch path words w

end ReviewChannel.Process
