import ReviewChannel.Proofs.Conversation

/-!
Identifiers that reach the client in pieces.

In a `Conversation` the octets of an identifier are all there at once. The system keeps this promise
for short ones only: what does not fit into one of its buffers is queued piece by piece, and the
client may read in between. `Trickle` is a conversation in which a `Cutting` says which pieces the
system makes of every identifier. All other steps are those of the conversation; the stop directive
is short.

* `Trickle.run_whole` — if no identifier is cut, this is the conversation.
* `Trickle.grade_cases` — all that a step of the grader can do to the pieces ahead and to the queue
  of the client.
-/

namespace ReviewChannel

/-- How the system takes identifiers: in pieces, one after the other. The number is how many were
reviewed before, as the same octets need not be cut in the same places every time. -/
structure Cutting where
  pieces : Nat → List UInt8 → List (List UInt8)
  joined (before : Nat) (octets : List UInt8) : (pieces before octets).flatten = octets

namespace Cutting

/-- Every identifier is taken at once. -/
def whole : Cutting where
  pieces _ octets := [octets]
  joined _ _ := by simp

variable (cut : Cutting)

/-- The pieces of identifiers in a row. -/
def piecesOf : Nat → List String → List (List UInt8)
  | _, [] => []
  | before, id :: ids => cut.pieces before (Utf8.encode id) ++ piecesOf (before + 1) ids

theorem piecesOf_whole (before : Nat) (ids : List String) :
    whole.piecesOf before ids = ids.map Utf8.encode := by
  induction ids generalizing before with
  | nil => rfl
  | cons id ids ih => rw [piecesOf, ih, List.map_cons]; rfl

end Cutting

/-- The identifiers before the first one that the grader refuses. -/
def acceptedOf (ids : List String) : List String :=
  ids.takeWhile fun id => !Message.isReserved id

theorem acceptedOf_of_accepted {id : String} (accepted : Message.isReserved id = false)
    (ids : List String) : acceptedOf (id :: ids) = id :: acceptedOf ids :=
  List.takeWhile_cons_of_pos (by rw [accepted]; rfl)

theorem acceptedOf_of_reserved {id : String} (reserved : Message.isReserved id = true)
    (ids : List String) : acceptedOf (id :: ids) = [] :=
  List.takeWhile_cons_of_neg (by simp [reserved])

/-- The pieces of the identifiers that a session has still to announce, if it goes on. -/
def ReviewLoop.ahead (cut : Cutting) (loop : ReviewLoop) : List (List UInt8) :=
  match loop.stage with
  | .awaitStart ids | .announce ids => cut.piecesOf loop.reviewed.length (acceptedOf ids)
  | .awaitReview _ others => cut.piecesOf (loop.reviewed.length + 1) (acceptedOf others)
  | .dismiss _ | .finished _ => []

/-- Whether an identifier is next that the grader accepts. -/
theorem ReviewLoop.accepted_or_other (loop : ReviewLoop) :
    (∃ id others, loop.stage = .announce (id :: others) ∧ Message.isReserved id = false) ∨
      ∀ id others, loop.stage = .announce (id :: others) → Message.isReserved id = true := by
  by_cases accepted : ∃ id others, loop.stage = .announce (id :: others) ∧
      Message.isReserved id = false
  · exact Or.inl accepted
  · refine Or.inr fun id others stage => ?_
    cases reserved : Message.isReserved id with
    | true => rfl
    | false => exact absurd ⟨id, others, stage, reserved⟩ accepted

/-- A step that announces nothing leaves the pieces ahead as they were or gives them up, and it does
not add to what the client can read, unless it is the last one. -/
theorem ReviewLoop.ahead_step (cut : Cutting) {loop : ReviewLoop} (s : Stream)
    (other : ∀ id others, loop.stage = .announce (id :: others) → Message.isReserved id = true) :
    (((loop.step s).1.ahead cut = loop.ahead cut ∨ (loop.step s).1.ahead cut = []) ∧
        (loop.step s).2.client.inbox = s.client.inbox) ∨
      (loop.step s).1.result?.isSome = true := by
  have advances := loop.step_advances s
  generalize loop.step s = next at advances
  cases advances with
  | starts stage | waits | completes stage =>
      refine Or.inl ⟨?_, rfl⟩
      simp [ahead, stage]
  | announces stage accepted =>
      rw [other _ _ stage] at accepted
      cases accepted
  | refuses => exact Or.inl ⟨Or.inr rfl, rfl⟩
  | reviews stage =>
      refine Or.inl ⟨Or.inl ?_, rfl⟩
      simp [ahead, stage]
  | despairs =>
      exact Or.inl ⟨Or.inr rfl, congrArg StreamEnd.inbox (s.endAt_other_read .grader 1)⟩
  | dismisses => exact Or.inr rfl
  | rests stage => exact Or.inr (by rw [result?, stage]; rfl)

/-- A conversation, and what the system has still to queue of the identifier that the grader is
sending. -/
structure Trickle (η : Type) where
  talk : Conversation η
  unsent : List (List UInt8) := []

namespace Trickle

variable {η : Type} (cut : Cutting)

/-- A client has connected to a grader that is about to review these students. -/
def start (around : η) (endpoint : Path) (ids : List String) : Trickle η where
  talk := .start around endpoint ids

/-- The pieces that are still to be queued, if the session of the grader goes on. -/
def ahead (t : Trickle η) : List (List UInt8) :=
  t.unsent ++ t.talk.loop.ahead cut

/-- The grader has finished its session, and nothing of it is left to be queued. -/
def Done (t : Trickle η) : Prop :=
  t.talk.loop.result?.isSome = true ∧ t.unsent = []

/-- The grader begins to send an identifier, and the system cuts it. -/
def announced (t : Trickle η) (id : String) (others : List String) : Trickle η where
  talk := { t.talk with loop.stage := .awaitReview id others }
  unsent := cut.pieces t.talk.loop.reviewed.length (Utf8.encode id)

/-- Queues the next piece. A failure ends the sending and settles the session. -/
def push (t : Trickle η) : Trickle η :=
  match t.unsent with
  | [] => t
  | piece :: rest =>
      match t.talk.stream.write .grader piece with
      | (.ok (), s) => { talk := t.talk.onStream s, unsent := rest }
      | (.error cause, s) =>
          { talk := { t.talk.onStream s with
              loop.stage := .dismiss (.error (.transport cause.message)) } }

variable [Surroundings η]

/-- A step of the grader. It goes on with the identifier that it is sending. -/
def grade (t : Trickle η) : Trickle η :=
  match t.unsent, t.talk.loop.stage with
  | _ :: _, _ => t.push
  | [], .announce (id :: others) =>
      if Message.isReserved id then { talk := t.talk.step .grade }
      else (t.announced cut id others).push
  | [], _ => { talk := t.talk.step .grade }

def step (t : Trickle η) : Move → Trickle η
  | .grade => t.grade cut
  | move => { t with talk := t.talk.step move }

/-- Several steps, one after the other. -/
def run (t : Trickle η) (moves : List Move) : Trickle η :=
  moves.foldl (step cut) t

theorem run_append (t : Trickle η) (before after : List Move) :
    t.run cut (before ++ after) = (t.run cut before).run cut after :=
  List.foldl_append

variable {cut} {t : Trickle η}

theorem step_of_ne_grade {move : Move} (other : move ≠ .grade) :
    t.step cut move = { t with talk := t.talk.step move } := by
  cases move with
  | grade => exact absurd rfl other
  | _ => rfl

/-! ### The steps of the grader -/

section Push

omit [Surroundings η]

theorem push_of_nil (idle : t.unsent = []) : t.push = t := by
  unfold push
  rw [idle]

/-- The next piece arrives, or sending fails as nothing arrives any more. -/
theorem push_cases {piece : List UInt8} {rest : List (List UInt8)}
    (sending : t.unsent = piece :: rest) :
    t.push =
        { talk := t.talk.onStream
            (t.talk.stream.modify .client fun e => { e with inbox := e.inbox ++ piece })
          unsent := rest } ∨
      (t.talk.stream.carriesFrom .grader = false ∧
        ∃ failure, t.push = { talk := { t.talk with loop.stage := .dismiss (.error failure) } }) := by
  unfold push
  rw [sending]
  rcases t.talk.stream.write_cases .grader piece with sent | ⟨broken, cause, failed⟩
  · simp only [sent]
    exact Or.inl rfl
  · simp only [failed]
    exact Or.inr ⟨broken, _, rfl⟩

/-- A piece that is queued is no longer ahead. -/
theorem push_ahead (cut : Cutting) (t : Trickle η) :
    (∃ piece, t.ahead cut = piece :: t.push.ahead cut ∧
        t.push.talk.inbox = t.talk.inbox ++ piece) ∨
      ((t.push.ahead cut = t.ahead cut ∨ t.push.ahead cut = []) ∧
        t.push.talk.inbox = t.talk.inbox) := by
  cases sending : t.unsent with
  | nil =>
      rw [push_of_nil sending]
      exact Or.inr ⟨Or.inl rfl, rfl⟩
  | cons piece rest =>
      rcases push_cases sending with pushed | ⟨-, failure, pushed⟩
      · refine Or.inl ⟨piece, ?_, ?_⟩
        · rw [pushed, ahead, sending]
          rfl
        · rw [pushed]
          rfl
      · rw [pushed]
        exact Or.inr ⟨Or.inr rfl, rfl⟩

/-- Cutting an identifier changes nothing about the pieces that are ahead. -/
theorem ahead_announced {id : String} {others : List String} (idle : t.unsent = [])
    (stage : t.talk.loop.stage = .announce (id :: others))
    (accepted : Message.isReserved id = false) :
    (t.announced cut id others).ahead cut = t.ahead cut := by
  rw [ahead, ahead, idle, ReviewLoop.ahead, ReviewLoop.ahead, stage]
  simp only [announced, acceptedOf_of_accepted accepted, Cutting.piecesOf, List.nil_append]

end Push

theorem grade_of_sending {piece : List UInt8} {rest : List (List UInt8)}
    (sending : t.unsent = piece :: rest) : t.grade cut = t.push := by
  unfold grade
  rw [sending]

/-- An accepted identifier is cut, and its first piece goes out. -/
theorem grade_of_accepted {id : String} {others : List String} (idle : t.unsent = [])
    (stage : t.talk.loop.stage = .announce (id :: others))
    (accepted : Message.isReserved id = false) :
    t.grade cut = (t.announced cut id others).push := by
  unfold grade
  rw [idle, stage]
  simp only [accepted, Bool.false_eq_true, if_false]

/-- In all other steps nothing is cut. -/
theorem grade_of_idle (idle : t.unsent = [])
    (other : ∀ id others, t.talk.loop.stage = .announce (id :: others) →
      Message.isReserved id = true) : t.grade cut = { talk := t.talk.step .grade } := by
  unfold grade
  rw [idle]
  split
  · rename_i sending
    cases sending
  · rename_i id others _ stage
    rw [if_pos (other id others stage)]
  · rfl

/-- Pushing all octets of an identifier at once is what a session does when it announces it. -/
theorem push_whole {c : Conversation η} {id : String} {others : List String}
    (stage : c.loop.stage = .announce (id :: others)) (accepted : Message.isReserved id = false) :
    (announced .whole { talk := c } id others).push = { talk := c.step .grade } := by
  have carried : (Conversation.stream { c with loop.stage := .awaitReview id others }).write .grader
      (Utf8.encode id) = c.stream.write .grader (Utf8.encode id) := rfl
  rw [Conversation.step, ReviewLoop.step_announce stage, Peer.sendIdentifier,
    if_neg (by simp [accepted]), Peer.sendText]
  simp only [push, announced, Cutting.whole, carried]
  rcases c.stream.write .grader (Utf8.encode id) with ⟨_ | _, s⟩ <;> rfl

/-- If no identifier is cut, every run is that of the conversation. -/
theorem run_whole (c : Conversation η) (moves : List Move) :
    run .whole { talk := c } moves = { talk := c.run moves } := by
  have grades (c : Conversation η) : grade .whole { talk := c } = { talk := c.step .grade } := by
    rcases c.loop.accepted_or_other with ⟨id, others, stage, accepted⟩ | other
    · exact (grade_of_accepted rfl stage accepted).trans (push_whole stage accepted)
    · exact grade_of_idle rfl other
  induction moves generalizing c with
  | nil => rfl
  | cons move moves ih =>
      have stepped : step .whole { talk := c } move = { talk := c.step move } := by
        cases move with
        | grade => exact grades c
        | _ => rfl
      exact (congrArg (run .whole · moves) stepped).trans (ih (c.step move))

/-- A step of the grader queues the next piece, or nothing, or it is the last one. -/
theorem grade_cases (t : Trickle η) :
    (∃ piece, t.ahead cut = piece :: (t.grade cut).ahead cut ∧
        (t.grade cut).talk.inbox = t.talk.inbox ++ piece) ∨
      (((t.grade cut).ahead cut = t.ahead cut ∨ (t.grade cut).ahead cut = []) ∧
        (t.grade cut).talk.inbox = t.talk.inbox) ∨
      (t.grade cut).Done := by
  cases sending : t.unsent with
  | cons piece rest =>
      rw [grade_of_sending sending]
      exact (t.push_ahead cut).imp_right Or.inl
  | nil =>
      rcases t.talk.loop.accepted_or_other with ⟨id, others, stage, accepted⟩ | other
      · rw [grade_of_accepted sending stage accepted, ← ahead_announced sending stage accepted]
        exact (push_ahead cut _).imp_right Or.inl
      · rw [grade_of_idle sending other, ahead, sending]
        refine Or.inr ((ReviewLoop.ahead_step cut t.talk.stream other).imp_right fun last => ?_)
        exact ⟨last, rfl⟩

end Trickle

end ReviewChannel
