import ReviewChannel.FileTree
import ReviewChannel.Text.Octets

/-!
What a process sees of the machine: the tree of files, a working directory, an environment, and
descriptors to read from and to write to. Words, names and contents are texts of octets.

Behind a descriptor stands a channel. Several descriptors can lead to one channel, and then they
share its position: that is how two outputs go into one file without overwriting each other.

* `World.write` and `World.readAll` use a descriptor.
* `World.openFile` makes a channel to what stands at a path, and `World.connect` leads a descriptor
  there.
* `World.back` is the world after a process that was started from another one: what it did to the
  machine stays, its directory, environment and descriptors do not.
-/

namespace ReviewChannel.Process

/-- What stands behind a descriptor. -/
inductive Channel where
  /-- A device that takes everything and has nothing to read. -/
  | void
  /-- A device that takes nothing, because it is full. -/
  | full
  /-- A regular file at a position, or at its end for every write. -/
  | file (number position : Nat) (atEnd : Bool)
  | directory
  /-- Octets that have been written and not been read yet. -/
  | pipe (content : List UInt8)
  /-- What the whole program writes. -/
  | output
  /-- What the whole program writes of failures. -/
  | complaints
deriving DecidableEq, Repr

/-- What a process sees of the machine. -/
structure World where
  tree : FileTree
  cwd : Place
  environment : List (String × String) := []
  channels : List Channel := [.pipe [], .output, .complaints]
  /-- The open descriptors, each with the number of its channel. -/
  descriptors : List (Nat × Nat) := [(0, 0), (1, 1), (2, 2)]
  /-- The octets written to the output. -/
  written : List UInt8 := []
  /-- The octets written of failures. -/
  complained : List UInt8 := []
  /-- The numbers of the process and of those that started it, the nearest first. -/
  alive : List Nat := [4241]
  /-- The number of the next process. -/
  nextProcess : Nat := 4242
  /-- The signals that were sent and have not arrived yet: process and signal. -/
  signals : List (Nat × Nat) := []
  /-- The time that processes have slept, in thousandths of a second. -/
  slept : Nat := 0

namespace World

def pathOf (word : String) : Path :=
  ⟨Octets.ofText word⟩

/-! ### Channels -/

/-- The channel behind a descriptor, with its number. -/
def channel? (w : World) (descriptor : Nat) : Option (Nat × Channel) := do
  let number ← w.descriptors.lookup descriptor
  return (number, ← w.channels[number]?)

def setChannel (number : Nat) (c : Channel) (w : World) : World :=
  { w with channels := w.channels.set number c }

def addChannel (c : Channel) (w : World) : Nat × World :=
  (w.channels.length, { w with channels := w.channels ++ [c] })

def close (descriptor : Nat) (w : World) : World :=
  { w with descriptors := w.descriptors.filter fun d => d.1 != descriptor }

def connect (descriptor number : Nat) (w : World) : World :=
  { w.close descriptor with
    descriptors := (descriptor, number) :: (w.close descriptor).descriptors }

/-- The octets with others in place of those from a position on. A gap before it is filled up. -/
def overlay (content : List UInt8) (position : Nat) (octets : List UInt8) : List UInt8 :=
  let front := content.take position
  front ++ List.replicate (position - front.length) 0 ++ octets ++
    content.drop (position + octets.length)

/-- Writes octets to a descriptor. -/
def write (descriptor : Nat) (octets : List UInt8) (w : World) : Except SystemError World :=
  match w.channel? descriptor with
  | none => .error .badDescriptor
  | some (number, channel) =>
      match channel with
      | .void => .ok w
      | .full => if octets.isEmpty then .ok w else .error .deviceFull
      | .directory => .error .badDescriptor
      | .pipe content => .ok (w.setChannel number (.pipe (content ++ octets)))
      | .output => .ok { w with written := w.written ++ octets }
      | .complaints => .ok { w with complained := w.complained ++ octets }
      | .file file position atEnd =>
          let content := (w.tree.file file).content
          let position := if atEnd then content.length else position
          .ok { w.setChannel number (.file file (position + octets.length) atEnd) with
            tree := w.tree.setContent file (overlay content position octets) }

/-- What there is to read behind a descriptor. -/
def unread (descriptor : Nat) (w : World) : Except SystemError (List UInt8) :=
  match w.channel? descriptor with
  | none => .error .badDescriptor
  | some (_, .directory) => .error .isDirectory
  | some (_, .pipe content) => .ok content
  | some (_, .file file position _) => .ok ((w.tree.file file).content.drop position)
  | some _ => .ok []

/-- Passes a number of octets behind a descriptor. -/
def pass (descriptor count : Nat) (w : World) : World :=
  match w.channel? descriptor with
  | some (number, .pipe content) => w.setChannel number (.pipe (content.drop count))
  | some (number, .file file position atEnd) =>
      w.setChannel number (.file file (position + count) atEnd)
  | _ => w

/-- Reads all that there is behind a descriptor. -/
def readAll (descriptor : Nat) (w : World) : Except SystemError (List UInt8 × World) :=
  match w.unread descriptor with
  | .error e => .error e
  | .ok octets => .ok (octets, w.pass descriptor octets.length)

/-- Writes a text of a failure. Nobody learns if that fails. -/
def complain (text : String) (w : World) : World :=
  match w.write 2 (Octets.ofText text) with
  | .ok w => w
  | .error _ => w

/-- Writes the text of a program that ends with the status. The program fails if it cannot write. -/
def emit (program text : String) (status : Nat) (w : World) : Nat × World :=
  if text.isEmpty then (status, w)
  else match w.write 1 (Octets.ofText text) with
    | .ok w => (status, w)
    | .error e => (1, w.complain s!"{program}: write error: {e.bareMessage}\n")

/-! ### Files -/

inductive OpenMode where
  | read
  /-- To write, from the start, what the file holds being given up. -/
  | truncate
  /-- To write at the end. -/
  | append
  /-- To read and to write, from the start. -/
  | update
deriving DecidableEq, Repr

/-- The descriptor that a path of a device names. -/
def ownDescriptor? (path : String) : Option Nat :=
  match path with
  | "/dev/stdin" => some 0
  | "/dev/stdout" => some 1
  | "/dev/stderr" => some 2
  | _ =>
      if path.startsWith "/dev/fd/" then (String.ofList (path.toList.drop 8)).toNat? else none

/-- The channel to an entry. -/
def channelOf (mode : OpenMode) : Entry → Except SystemError Channel
  | .file number => .ok (.file number 0 (mode = .append))
  | .dir => if mode = .read then .ok .directory else .error .isDirectory
  | .socket .. => .error (.code 6)
  | .device true => .ok (if mode = .read then .void else .full)
  | .device false => .ok .void
  | .program _ => if mode = .read then .ok (.pipe []) else .error (.code 26)
  | .symlink _ => .error .linkLoop

/-- The tree with a file that was opened to write from the start. -/
def emptied (mode : OpenMode) (entry : Entry) (t : FileTree) : FileTree :=
  match mode, entry with
  | .truncate, .file number => t.setContent number []
  | _, _ => t

/-- Opens what stands at a path: a new channel to it. -/
def openPath (mode : OpenMode) (path : String) (w : World) : Except SystemError (Nat × World) :=
  let opened : Except SystemError (Entry × FileTree) :=
    if mode = .read then
      match w.tree.status w.cwd (pathOf path) with
      | .ok entry => .ok (entry, w.tree)
      | .error e => .error e
    else w.tree.openToAppend w.cwd (pathOf path)
  match opened with
  | .error e => .error e
  | .ok (entry, tree) =>
      match channelOf mode entry with
      | .error e => .error e
      | .ok channel => .ok ({ w with tree := emptied mode entry tree }.addChannel channel)

/-- Opens a file: a channel to it. The paths of the process's own descriptors lead to their
channels. -/
def openFile (mode : OpenMode) (path : String) (w : World) : Except SystemError (Nat × World) :=
  match ownDescriptor? path with
  | none => w.openPath mode path
  | some descriptor =>
      match w.descriptors.lookup descriptor with
      | some number => .ok (number, w)
      | none => .error .noEntry

/-- All that a file holds. A single dash is the input. -/
def readFile (path : String) (w : World) : Except SystemError (List UInt8 × World) :=
  if path = "-" then w.readAll 0
  else match w.openFile .read path with
    | .error e => .error e
    | .ok (number, opened) =>
        let reader := 255
        match (opened.connect reader number).readAll reader with
        | .error e => .error e
        | .ok (octets, after) => .ok (octets, after.close reader)

def writeFile (mode : OpenMode) (path : String) (octets : List UInt8) (w : World) :
    Except SystemError World :=
  match w.openFile mode path with
  | .error e => .error e
  | .ok (number, opened) =>
      let writer := 255
      match (opened.connect writer number).write writer octets with
      | .error e => .error e
      | .ok after => .ok (after.close writer)

/-- What stands at the end of a path and of symbolic links. -/
def status (path : String) (w : World) : Except SystemError Entry :=
  w.tree.status w.cwd (pathOf path)

/-- Whether a directory stands at a path. -/
def isDir (path : String) (w : World) : Bool :=
  w.tree.isDir w.cwd (pathOf path)

/-! ### Processes -/

def valueOf? (name : String) (w : World) : Option String :=
  w.environment.lookup name

/-- The number of the process. -/
def process (w : World) : Nat :=
  w.alive.headD 0

/-- The world of a new process that this one starts. -/
def child (w : World) : World :=
  { w with alive := w.nextProcess :: w.alive, nextProcess := w.nextProcess + 1 }

/-- The world of a process after one that it started has ended as `after`. -/
def back (before after : World) : World :=
  { after with
    cwd := before.cwd
    environment := before.environment
    descriptors := before.descriptors
    alive := before.alive }

/-- Sends a signal to a process; fails if it is not there. -/
def signal (process number : Nat) (w : World) : Option World :=
  if w.alive.contains process then
    some (if number = 0 then w else { w with signals := w.signals ++ [(process, number)] })
  else none

/-- The first signal that has been sent to the process and has not arrived yet, and the world after
its arrival. -/
def arrival? (w : World) : Option (Nat × World) :=
  (w.signals.find? (·.1 == w.process)).map fun s => (s.2, { w with signals := w.signals.erase s })

end World

end ReviewChannel.Process
