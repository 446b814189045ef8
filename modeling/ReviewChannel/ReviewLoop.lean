import ReviewChannel.Peer

/-!
The grader's review session. It waits for `start`, then sends each identifier and waits for its
review. The stop directive goes out last, also when the session failed on the way.

* A `ReviewLoop` stands at one `Stage` and has collected the reviews so far.
* `step` is one write or one octet read; a step that waits changes nothing.
* `run` takes all steps. `remaining` bounds them: no step that does not wait leaves it as it was.
-/

namespace ReviewChannel

/-- Where a review session stands. -/
inductive Stage where
  /-- Wait for `start`; these identifiers are to come. -/
  | awaitStart (ids : List String)
  /-- Send the first of the identifiers. -/
  | announce (ids : List String)
  /-- Wait for the review of the first identifier; the others are to come. -/
  | awaitReview (id : String) (others : List String)
  /-- Send the stop directive; the result is settled. -/
  | dismiss (result : Except Failure Nat)
  | finished (result : Except Failure Nat)
deriving Repr

/-- A review session: its stage, and the identifiers reviewed so far. -/
structure ReviewLoop where
  stage : Stage
  reviewed : List String := []
deriving Repr

namespace ReviewLoop

/-- A session that has not started yet. -/
def new (ids : List String) : ReviewLoop :=
  { stage := .awaitStart ids }

/-- The steps that a session can still take. -/
def remaining (loop : ReviewLoop) : Nat :=
  match loop.stage with
  | .awaitStart ids => 2 * ids.length + 3
  | .announce ids => 2 * ids.length + 2
  | .awaitReview _ others => 2 * others.length + 3
  | .dismiss _ => 1
  | .finished _ => 0

/-- One write, or one octet read. The failure to send the stop directive has no consequence. -/
def step (loop : ReviewLoop) (s : Stream) : ReviewLoop × Stream :=
  match loop.stage with
  | .awaitStart ids =>
      match Peer.expectCommand .start s with
      | (.got (), s) => ({ loop with stage := .announce ids }, s)
      | (.failed failure, s) => ({ loop with stage := .dismiss (.error failure) }, s)
      | (.waiting, s) => (loop, s)
  | .announce [] => ({ loop with stage := .dismiss (.ok loop.reviewed.length) }, s)
  | .announce (id :: others) =>
      match Peer.sendIdentifier id s with
      | (.ok (), s) => ({ loop with stage := .awaitReview id others }, s)
      | (.error failure, s) => ({ loop with stage := .dismiss (.error failure) }, s)
  | .awaitReview id others =>
      match Peer.expectCommand .review s with
      | (.got (), s) => ({ stage := .announce others, reviewed := loop.reviewed ++ [id] }, s)
      | (.failed failure, s) => ({ loop with stage := .dismiss (.error failure) }, s)
      | (.waiting, s) => (loop, s)
  | .dismiss result => ({ loop with stage := .finished result }, (Peer.sendStop s).2)
  | .finished _ => (loop, s)

def steps : Nat → ReviewLoop → Stream → ReviewLoop × Stream
  | 0, loop, s => (loop, s)
  | n + 1, loop, s => let (loop, s) := loop.step s; steps n loop s

/-- Takes all steps that can be taken with what the client has written so far. -/
def run (loop : ReviewLoop) (s : Stream) : ReviewLoop × Stream :=
  steps loop.remaining loop s

/-- The result of a session that has finished: the number of reviews, or what went wrong. -/
def result? (loop : ReviewLoop) : Option (Except Failure Nat) :=
  match loop.stage with
  | .finished result => some result
  | _ => none

end ReviewLoop

end ReviewChannel
