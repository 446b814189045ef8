import ReviewChannel.Failure
import ReviewChannel.Machine

/-!
The grader's listening socket. Binding replaces a socket file that nobody listens at, and leaves
anything else alone.

* `Binding.step` is one step of binding: look at the path, try to connect, remove, put a socket
  there, listen. Each is one call to the system, and others can act in between. In between the last
  two the socket refuses connections.
* `GraderSocket.bind` takes all steps; there are five at most.
* `GraderSocket.drop` removes the file at the path and closes the socket.
-/

namespace ReviewChannel

/-- The grader's listening socket. -/
structure GraderSocket where
  listener : Nat
  path : Path
deriving DecidableEq, Repr

/-- How far binding has come. -/
inductive Binding where
  /-- See what stands at the path. -/
  | look
  /-- A socket stands there: see whether anybody listens. -/
  | probe
  /-- Nobody listens: remove the file. -/
  | remove
  /-- Put a socket at the path. -/
  | bind
  /-- Let the socket of this number take connections. -/
  | listen (listener : Nat)
  | done (result : Except Failure GraderSocket)
deriving Repr

namespace Binding

def step (cwd : Place) (path : Path) (b : Binding) (m : Machine) : Binding × Machine :=
  let fail (cause : SystemError) : Binding := .done (.error (.bind path cause))
  match b with
  | .look =>
      match m.tree.linkStatus cwd path with
      | .error _ => (.bind, m)
      | .ok (.socket ..) => (.probe, m)
      | .ok _ => (fail (.custom "path exists and is not a socket"), m)
  | .probe =>
      match m.connect cwd path with
      | (.ok stream, m) =>
          (fail (.custom "another grader is listening"), m.closeEnd .client stream)
      | (.error e, m) => (if e = .refused then .remove else fail e, m)
  | .remove =>
      match m.unlink cwd path with
      | (.ok (), m) => (.bind, m)
      | (.error e, m) => (fail e, m)
  | .bind =>
      match m.bindSocket .stream cwd path with
      | (.ok listener, m) => (.listen listener, m)
      | (.error e, m) => (fail e, m)
  | .listen listener => (.done (.ok ⟨listener, path⟩), m.startListening listener)
  | .done result => (.done result, m)

def steps (cwd : Place) (path : Path) : Nat → Binding → Machine → Binding × Machine
  | 0, b, m => (b, m)
  | n + 1, b, m =>
      let (b, m) := b.step cwd path m
      steps cwd path n b m

end Binding

namespace GraderSocket

def bind (cwd : Place) (path : Path) (m : Machine) : Except Failure GraderSocket × Machine :=
  match Binding.steps cwd path 5 .look m with
  | (.done result, m) => (result, m)
  | (_, m) => (.error (.bind path (.kind .other)), m)

/-- Binds the socket of a work directory. Its name is the default one. -/
def bindIn (cwd : Place) (workdir : Path) (m : Machine) : Except Failure GraderSocket × Machine :=
  bind cwd (workdir.socketIn Path.defaultSocketName) m

/-- Gives the socket up: removes what stands at its path and closes it. -/
def drop (cwd : Place) (socket : GraderSocket) (m : Machine) : Machine :=
  (m.unlink cwd socket.path).2.closeListener socket.listener

end GraderSocket

end ReviewChannel
