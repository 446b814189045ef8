import ReviewChannel.FileTree
import ReviewChannel.Stream

/-!
The machine that a client and a grader share: a tree of files, the sockets that listen at places of
the tree, and the streams between those who connected.

A listening socket has a queue of streams that nobody has accepted yet. A connection joins the queue
at once, and its stream can be written before it is accepted. A socket refuses connections from when
it is put into the tree until it listens. Its file can outlive it; then nobody listens there.

The model is coarser than a kernel in these respects:

* every call takes effect in one step;
* a queue of waiting streams has no bound, so a connection never waits for room;
* of the failures that are not due to the tree or the sockets, there are those of making and of
  removing the file of a socket (`denies`), and they do not change. Looking at a path, connecting
  and listening do not fail for want of permission or memory.
-/

namespace ReviewChannel

/-- What is done to the file of a socket. -/
inductive FileChange where
  | make
  | remove
deriving DecidableEq, Repr

/-- A machine with local sockets. -/
structure Machine where
  tree : FileTree
  /-- The streams that wait at each listening socket, first come first; `none` for one that does not
  listen yet, or no longer. -/
  queueAt : Nat → Option (List Nat)
  streamAt : Nat → Stream
  /-- The number of the next socket. -/
  nextListener : Nat
  /-- The number of the next stream. -/
  nextStream : Nat
  /-- What the system has against a change where the tree allows it: no room, no quota, no
  permission. -/
  denies : FileChange → Option SystemError := fun _ => none

namespace Machine

/-- A machine with a tree of files and no sockets. -/
def ofTree (tree : FileTree) : Machine :=
  { tree, queueAt := fun _ => none, streamAt := fun _ => {}, nextListener := 0, nextStream := 0 }

def setQueue (listener : Nat) (queue : Option (List Nat)) (m : Machine) : Machine :=
  { m with queueAt := fun n => if n = listener then queue else m.queueAt n }

def setStream (stream : Nat) (s : Stream) (m : Machine) : Machine :=
  { m with streamAt := fun n => if n = stream then s else m.streamAt n }

def onStream {α : Type} (stream : Nat) (f : Stream → α × Stream) (m : Machine) : α × Machine :=
  let (result, s) := f (m.streamAt stream)
  (result, m.setStream stream s)

def closeEnd (side : Side) (stream : Nat) (m : Machine) : Machine :=
  m.setStream stream ((m.streamAt stream).close side)

/-! ### Addresses -/

/-- The longest path of a socket. -/
def addressLimit : Nat := 107

/-- The path as the address of a socket. -/
def address (path : Path) : Except SystemError Path :=
  if path.octets.contains 0 then
    .error (.custom "paths must not contain interior null bytes")
  else if addressLimit < path.octets.length then
    .error (.custom "path must be shorter than SUN_LEN")
  else .ok path

/-- The socket that listens at the path and takes streams. -/
def listenerAt (cwd : Place) (path : Path) (m : Machine) : Except SystemError (Nat × List Nat) :=
  match address path with
  | .error e => .error e
  | .ok path =>
      if path.octets.isEmpty then .error .invalid
      else match m.tree.status cwd path with
        | .error e => .error e
        | .ok (.socket kind (some listener)) =>
            match m.queueAt listener with
            | none => .error .refused
            | some queue =>
                match kind with
                | .stream => .ok (listener, queue)
                | .datagram => .error .wrongSocketType
        | .ok _ => .error .refused

/-- Connects to the path: the number of the new stream, which joins the queue of the socket that
listens there. -/
def connect (cwd : Place) (path : Path) (m : Machine) : Except SystemError Nat × Machine :=
  match m.listenerAt cwd path with
  | .error e => (.error e, m)
  | .ok (listener, queue) =>
      (.ok m.nextStream,
        { (m.setQueue listener (some (queue ++ [m.nextStream]))).setStream m.nextStream {} with
          nextStream := m.nextStream + 1 })

/-- Puts a socket at the path, where nothing may stand yet. It does not listen. An empty path is an
address of its own, with no file. -/
def bindSocket (kind : SocketKind) (cwd : Place) (path : Path) (m : Machine) :
    Except SystemError Nat × Machine :=
  let bound (tree : FileTree) : Except SystemError Nat × Machine :=
    (.ok m.nextListener,
      { m.setQueue m.nextListener none with tree, nextListener := m.nextListener + 1 })
  match address path with
  | .error e => (.error e, m)
  | .ok path =>
      if path.octets.isEmpty then bound m.tree
      else match m.tree.create cwd path (.socket kind (some m.nextListener)) with
        | .error e => (.error (if e = .occupied then .addressInUse else e), m)
        | .ok tree =>
            match m.denies .make with
            | some e => (.error e, m)
            | none => bound tree

/-- Lets a socket take connections. -/
def startListening (listener : Nat) (m : Machine) : Machine :=
  m.setQueue listener (some [])

/-- Puts a socket at the path and lets it take connections. -/
def listen (kind : SocketKind) (cwd : Place) (path : Path) (m : Machine) :
    Except SystemError Nat × Machine :=
  match m.bindSocket kind cwd path with
  | (.ok listener, m) => (.ok listener, m.startListening listener)
  | (.error e, m) => (.error e, m)

/-- Takes the first stream out of the queue of a listening socket; `none` if nobody waits. -/
def accept (listener : Nat) (m : Machine) : Option Nat × Machine :=
  match m.queueAt listener with
  | some (stream :: rest) => (some stream, m.setQueue listener (some rest))
  | _ => (none, m)

/-- Closes a listening socket and all streams that wait there. Its file stays. -/
def closeListener (listener : Nat) (m : Machine) : Machine :=
  let waiting := (m.queueAt listener).getD []
  waiting.foldl (fun m stream => m.closeEnd .grader stream) (m.setQueue listener none)

/-- Removes what stands at the path, unless it is a directory. -/
def unlink (cwd : Place) (path : Path) (m : Machine) : Except SystemError Unit × Machine :=
  match m.tree.remove cwd path with
  | .error e => (.error e, m)
  | .ok tree =>
      match m.denies .remove with
      | some e => (.error e, m)
      | none => (.ok (), { m with tree })

end Machine

end ReviewChannel
