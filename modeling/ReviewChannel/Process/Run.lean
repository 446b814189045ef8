import ReviewChannel.Launcher
import ReviewChannel.Process.Edit
import ReviewChannel.Process.Files
import ReviewChannel.Process.Search
import ReviewChannel.Process.Shell
import ReviewChannel.Process.Wrapper

/-!
Running a command: the program is found in the tree of files and carried out to its end.

The programs here are stand-ins for those of an ordinary machine. They make the save command do
something when the review channel is run (`Launcher.ordinary`), and nothing that is proved about the
channel depends on what they do.

* `Process.programNames` are the programs that can be carried out.
* `Process.launch` runs what stands at a path.
* `Process.run` runs a command, and fails if there is no program for it.
-/

namespace ReviewChannel.Process

open Programs

/-! ### Programs -/

/-- The programs that run no other ones. -/
def plainPrograms : List (String × Plain) :=
  [("true", endWith 0), ("false", endWith 1), ("sync", endWith 0), ("sleep", sleep),
   ("test", Programs.test), ("[", bracket), ("echo", echo), ("printf", printf), ("seq", seq),
   ("yes", yes), ("basename", basename), ("dirname", dirname), ("pwd", pwd),
   ("printenv", printenv), ("id", id), ("whoami", line "whoami" "root"), ("uname", uname),
   ("arch", line "arch" "x86_64"), ("nproc", line "nproc" "1"),
   ("hostname", line "hostname" "localhost"), ("date", date), ("tty", tty), ("which", which),
   ("kill", Programs.kill), ("cat", cat), ("tac", tac), ("rev", rev), ("nl", nl), ("head", head),
   ("tail", tail), ("wc", wc), ("sort", sort), ("uniq", uniq), ("tr", tr), ("cut", cut),
   ("paste", paste), ("tee", tee), ("grep", grep "grep"), ("egrep", grep "egrep"),
   ("fgrep", grep "fgrep"), ("expr", expr), ("sed", Edit.program), ("touch", touch),
   ("mkdir", mkdir), ("rmdir", rmdir), ("rm", rm), ("unlink", unlink), ("cp", cp), ("mv", mv),
   ("ln", ln), ("link", link), ("ls", ls), ("readlink", readlink), ("realpath", realpath),
   ("chmod", chmod), ("mktemp", mktemp), ("truncate", truncate), ("cmp", cmp), ("diff", diff),
   ("find", find)]

/-- The programs that run other ones. -/
def wrappers : List (String × Wrapper) :=
  [("env", env), ("nohup", nohup), ("nice", nice), ("setsid", setsid), ("stdbuf", stdbuf),
   ("timeout", timeout), ("xargs", xargs)]

def shells : List String :=
  ["sh", "dash", "bash"]

/-- The programs that can be carried out. -/
def programNames : List String :=
  plainPrograms.map (·.1) ++ wrappers.map (·.1) ++ shells

/-- Carries out a program. -/
def carryOut (launch : Launch) (name : String) (words : List String) (w : World) :
    ExitStatus × World :=
  match plainPrograms.lookup name with
  | some program =>
      let (status, w) := program (words.drop 1) w
      (.exited status, w)
  | none =>
      match wrappers.lookup name with
      | some wrapper => wrapper launch (words.drop 1) w
      | none => Shell.run launch words w

/-! ### Scripts -/

def firstLineOf (content : List UInt8) : String :=
  String.ofList ((Octets.toText content).toList.takeWhile (· != '\n'))

/-- The program that is to read a script, and the word that it gets first; `none` if the script does
not say so. -/
def reader? (content : List UInt8) : Option (String × List String) :=
  match (firstLineOf content).toList with
  | '#' :: '!' :: rest =>
      let isBlank (c : Char) : Bool := c = ' ' || c = '\t'
      let rest := ((rest.dropWhile isBlank).reverse.dropWhile isBlank).reverse
      let program := rest.takeWhile (!isBlank ·)
      let word := (rest.drop program.length).dropWhile isBlank
      if program.isEmpty then none
      else some (String.ofList program, if word.isEmpty then [] else [String.ofList word])
  | _ => none

/-- Runs what stands at a path, with at most `depth` processes inside each other. -/
def launch : Nat → Launch
  | 0, _, _, _ => .error (.code 11)
  | depth + 1, path, words, w =>
      match Lookup.executable w path with
      | .error e => .error e
      | .ok (.program name) => .ok (carryOut (launch depth) name words w)
      | .ok (.script content) =>
          match reader? content with
          | some (program, more) =>
              launch depth program (program :: more ++ path :: words.drop 1) w
          | none => .error .notExecutable

/-! ### Running a command -/

/-- How many processes may be inside each other. -/
def launchDepth : Nat := 100

/-- Runs a command to its end. A word with NUL in it is none. -/
def run (words : List String) (w : World) : Except SystemError (ExitStatus × World) :=
  if words.any fun word => word.toList.contains '\x00' then
    .error (.custom "nul byte found in provided data")
  else match Lookup.find w (Lookup.pathOf w) (words.headD "") with
    | .error e => .error e
    | .ok path => launch launchDepth path words w.child

end ReviewChannel.Process

namespace ReviewChannel

/-- A system with these programs. -/
def Launcher.ordinary : Launcher :=
  fun words cwd env tree =>
    match Process.run (words.map Octets.spell) { tree, cwd, environment := env.pairs } with
    | .error e => .error e
    | .ok (status, w) => .ok { status, tree := w.tree, writings := ⟨w.written, w.complained⟩ }

end ReviewChannel
