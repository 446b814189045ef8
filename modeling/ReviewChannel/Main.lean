import ReviewChannel.FileTree.Ordinary
import ReviewChannel.Program

/-!
The command line. The program runs at a workplace that is made from what it finds at its start: the
working directory, the configuration files there and further up, and the variable that the
configuration names. What it writes is printed as it comes, and a client that is connected gets
standard input line by line.

Nothing is decided here, and nothing is written but the two outputs: the sockets and the files that
the program makes are those of its workplace.
-/

namespace ReviewChannel.Terminal

def placeOf (path : Path) : Place :=
  ((Path.pieces path.octets).filter (!Path.namesNothing ·)).reverse

/-- The tree with the file at the path, and with the directories that lead to it. -/
def withFile (path : Path) (content : List UInt8) (t : FileTree) : FileTree :=
  let t := match path.parent? with
    | some dir => (t.makeDirs [] dir).2
    | none => t
  match t.writeFile [] path content with
  | .ok t => t
  | .error _ => t

/-- Adds the file at the path to the tree, if there is one that can be read. -/
def addFile (t : FileTree) (path : Path) : IO FileTree := do
  try
    let content ← IO.FS.readBinFile path.display
    return withFile path content.toList t
  catch _ => return t

/-- The tree with the working directory and the configuration files that the program may find. -/
def readTree (dir : Path) : IO FileTree :=
  (dir.ancestors.map Config.fileIn).foldlM addFile (FileTree.ordinary.makeDirs [] dir).2

/-- The entry of the variable that the configuration names. -/
def readEnvironment (t : FileTree) (dir : Path) : IO Environment := do
  match Config.load t (placeOf dir) dir with
  | .error _ => return []
  | .ok (config, _) =>
      match ← IO.getEnv config.workdirEnv with
      | some value => return [Environment.entryOf config.workdirEnv (.ofText value)]
      | none => return []

/-- The workplace that the program finds at its start. -/
def readWorkplace : IO Workplace := do
  let dir := Path.ofText (← IO.currentDir).toString
  let tree ← readTree dir
  return {
    machine := .ofTree tree
    cwd := placeOf dir
    environment := ← readEnvironment tree dir
    stamp := "1970-01-01T00:00:00+00:00"
    launcher := .ordinary }

/-- Prints what a text has beyond another one with which it begins. -/
def printMore (out : IO.FS.Stream) (before after : String) : IO Unit := do
  out.putStr (String.ofList (after.toList.drop before.toList.length))
  out.flush

/-- Prints what the program has written since an earlier state. -/
def report (before after : String × String) : IO Unit := do
  printMore (← IO.getStdout) before.1 after.1
  printMore (← IO.getStderr) before.2 after.2

def written (p : Program) : String × String :=
  (p.stdout, p.stderr)

/-- The next line of the input, empty at its end. A line that is no text ends the input. -/
def readText (input : IO.FS.Stream) : IO String := do
  try
    input.getLine
  catch _ => return ""

/-- Reads lines as long as the program is a client, and gives its exit status. -/
partial def serve (input : IO.FS.Stream) (p : Program) : IO UInt32 := do
  match p with
  | .connected .. =>
      let line ← readText input
      let next :=
        if line.isEmpty then p.handle .shutdown
        else (linesOf (Utf8.encode line)).foldl (fun p octets => p.readLine octets) p
      report (written p) (written next)
      serve input next
  | p => return (p.exit?.getD 0).toUInt32

end ReviewChannel.Terminal

/-- Runs the program with its arguments. -/
def main (arguments : List String) : IO UInt32 := do
  let p := ReviewChannel.Program.start arguments (← ReviewChannel.Terminal.readWorkplace)
  ReviewChannel.Terminal.report ("", "") (ReviewChannel.Terminal.written p)
  ReviewChannel.Terminal.serve (← IO.getStdin) p
