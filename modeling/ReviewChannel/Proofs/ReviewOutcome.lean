import ReviewChannel.Proofs.Grading
import ReviewChannel.Proofs.Spelling

/-!
What a review session comes to, for any identifiers and any octets of a client.

* `Grants` — a client asks for so many reviews, and so many identifiers can be sent.
* `Verdict` — how a session ends: what its result is, how many reviews it collects, and how many
  identifiers it sends. `Verdict.greatest` says that it collects as many as there can be.
* `Exchange` — a session together with a client that writes given octets, piece by piece, and then
  stops.
* `Standing` — how far a session is in the identifiers and in the octets tells what it has
  collected, sent and taken; every move keeps that (`Conducted.move`).
* `Exchange.review_outcome` — so a session ends as the verdict says, and it does end.
-/

namespace ReviewChannel

open Message (stopOctets)

/-! ### How a session ends -/

/-- The octets of a client that starts the session and posts a number of reviews. -/
def reviewOctets (n : Nat) : List UInt8 :=
  Command.start.octet :: List.replicate n Command.review.octet

theorem take_succ_of_next {ids : List String} {n : Nat} {id : String} (next : ids[n]? = some id) :
    ids.take (n + 1) = ids.take n ++ [id] := by
  rw [List.take_add_one, next]
  rfl

/-- The client asks for so many reviews, and there are as many identifiers that can be sent. -/
structure Grants (ids : List String) (octets : List UInt8) (n : Nat) : Prop where
  asked : reviewOctets n <+: octets
  enough : n ≤ ids.length
  accepted : ∀ id ∈ ids.take n, Message.isReserved id = false

namespace Grants

variable {ids : List String} {octets : List UInt8} {n i : Nat} {id : String}

theorem started (h : Grants ids octets n) : octets[0]? = some Command.start.octet := by
  obtain ⟨rest, rfl⟩ := h.asked
  rfl

theorem review (h : Grants ids octets n) (lt : i < n) :
    octets[i + 1]? = some Command.review.octet := by
  obtain ⟨rest, rfl⟩ := h.asked
  rw [reviewOctets, List.cons_append, List.getElem?_cons_succ,
    List.getElem?_append_left (by simpa using lt), List.getElem?_replicate, if_pos lt]

theorem zero (started : octets[0]? = some Command.start.octet) : Grants ids octets 0 := by
  refine ⟨?_, Nat.zero_le _, by simp⟩
  cases octets with
  | nil => cases started
  | cons octet rest =>
      cases started
      exact ⟨rest, rfl⟩

theorem accepted_succ (h : Grants ids octets n) (next : ids[n]? = some id)
    (accepted : Message.isReserved id = false) :
    ∀ other ∈ ids.take (n + 1), Message.isReserved other = false := by
  rw [take_succ_of_next next]
  intro other mem
  rcases List.mem_append.mp mem with earlier | last
  · exact h.accepted other earlier
  · rwa [List.mem_singleton.mp last]

/-- One more student is granted a review. -/
theorem succ (h : Grants ids octets n) (next : ids[n]? = some id)
    (accepted : Message.isReserved id = false)
    (review : octets[n + 1]? = some Command.review.octet) : Grants ids octets (n + 1) := by
  refine ⟨?_, (List.getElem?_eq_some_iff.mp next).1, h.accepted_succ next accepted⟩
  obtain ⟨rest, rfl⟩ := h.asked
  have length : (reviewOctets n).length = n + 1 := by simp [reviewOctets]
  rw [← length, List.getElem?_append_right (Nat.le_refl _), Nat.sub_self] at review
  cases rest with
  | nil => cases review
  | cons octet rest =>
      cases review
      refine ⟨rest, ?_⟩
      rw [reviewOctets, List.replicate_succ']
      simp [reviewOctets]

end Grants

/-- How a session ends with these identifiers and these octets: its result, the number of reviews
that it collects, and the number of identifiers that it sends. -/
inductive Verdict (ids : List String) (octets : List UInt8) :
    Except Failure Nat → Nat → Nat → Prop where
  /-- The client does not start. -/
  | unstarted (deviates : octets[0]? ≠ some Command.start.octet) :
      Verdict ids octets (.error (Peer.missed .start octets[0]?)) 0 0
  /-- The identifier that is next could be taken for a directive. -/
  | refused {n : Nat} {id : String} (granted : Grants ids octets n) (next : ids[n]? = some id)
      (reserved : Message.isReserved id = true) :
      Verdict ids octets (.error (.invalidIdentifier id)) n n
  /-- The identifier is sent, and the client does not post its review. -/
  | unreviewed {n : Nat} {id : String} (granted : Grants ids octets n) (next : ids[n]? = some id)
      (accepted : Message.isReserved id = false)
      (deviates : octets[n + 1]? ≠ some Command.review.octet) :
      Verdict ids octets (.error (Peer.missed .review octets[n + 1]?)) n (n + 1)
  | completed (granted : Grants ids octets ids.length) :
      Verdict ids octets (.ok ids.length) ids.length ids.length

namespace Verdict

variable {ids : List String} {octets : List UInt8} {result : Except Failure Nat} {m k : Nat}

/-- A session that starts collects as many reviews as the client asks for and the identifiers
allow. -/
theorem greatest (verdict : Verdict ids octets result m k)
    (started : octets[0]? = some Command.start.octet) :
    Grants ids octets m ∧ ∀ n, Grants ids octets n → n ≤ m := by
  cases verdict with
  | unstarted deviates => exact absurd started deviates
  | refused granted next reserved =>
      refine ⟨granted, fun n more => Nat.le_of_not_lt fun lt => ?_⟩
      have mem := List.mem_of_getElem? ((List.getElem?_take_of_lt lt).trans next)
      exact absurd (reserved.symm.trans (more.accepted _ mem)) Bool.noConfusion
  | unreviewed granted next accepted deviates =>
      exact ⟨granted, fun n more => Nat.le_of_not_lt fun lt => deviates (more.review lt)⟩
  | completed granted => exact ⟨granted, fun n more => more.enough⟩

theorem unstarted_eq (verdict : Verdict ids octets result m k)
    (deviates : octets[0]? ≠ some Command.start.octet) : m = 0 ∧ k = 0 := by
  cases verdict with
  | unstarted => exact ⟨rfl, rfl⟩
  | refused granted | unreviewed granted | completed granted =>
      exact absurd granted.started deviates

/-- A session succeeds if it collects all reviews. -/
theorem eq_ok_iff (verdict : Verdict ids octets result m k) (n : Nat) :
    result = .ok n ↔
      octets[0]? = some Command.start.octet ∧ m = ids.length ∧ n = ids.length := by
  have unfinished {n : Nat} {id : String} (next : ids[n]? = some id) : n ≠ ids.length :=
    Nat.ne_of_lt (List.getElem?_eq_some_iff.mp next).1
  cases verdict with
  | unstarted deviates => simp [deviates]
  | refused granted next => simp [unfinished next]
  | unreviewed granted next => simp [unfinished next]
  | completed granted => simp [granted.started, eq_comm]

/-- Only identifiers are sent that cannot be taken for a directive. -/
theorem accepted (verdict : Verdict ids octets result m k) :
    ∀ id ∈ ids.take k, Message.isReserved id = false := by
  cases verdict with
  | unstarted => simp
  | refused granted => exact granted.accepted
  | unreviewed granted next accepted => exact granted.accepted_succ next accepted
  | completed granted => exact granted.accepted

/-- One identifier more may be sent than there are reviews. -/
theorem bounds (verdict : Verdict ids octets result m k) : m ≤ k ∧ k ≤ m + 1 := by
  cases verdict with
  | unstarted | refused | completed => exact ⟨Nat.le_refl _, Nat.le_succ _⟩
  | unreviewed => exact ⟨Nat.le_succ _, Nat.le_refl _⟩

end Verdict

/-! ### A session with its client -/

/-- The writes of these pieces: to write nothing is no write. -/
def writes (pieces : List (List UInt8)) : List (List UInt8) :=
  pieces.filter fun piece => !piece.isEmpty

/-- The writes that send these identifiers. -/
def announcements (ids : List String) : List (List UInt8) :=
  writes (ids.map Utf8.encode)

theorem announcements_succ {ids : List String} {n : Nat} {id : String} (next : ids[n]? = some id) :
    announcements (ids.take (n + 1)) = announcements (ids.take n) ++ writes [Utf8.encode id] := by
  rw [take_succ_of_next next, announcements, List.map_append]
  exact List.filter_append ..

theorem stopOctets_not_mem_announcements {ids : List String}
    (accepted : ∀ id ∈ ids, Message.isReserved id = false) : stopOctets ∉ announcements ids := by
  intro mem
  obtain ⟨id, there, same⟩ := List.mem_map.mp (List.mem_filter.mp mem).1
  exact Message.stopOctets_ne_encode (accepted id there) same.symm

/-- What the grader wrote between two states of a stream: what it added to what the client can
read. -/
def added (before after : Stream) : List (List UInt8) :=
  writes [after.client.inbox.drop before.client.inbox.length]

theorem added_of_client_eq {before after : Stream} (same : after.client = before.client) :
    added before after = [] := by
  rw [added, same, List.drop_length]
  rfl

theorem added_sent (s : Stream) (octets : List UInt8) :
    added s (s.modify .client fun e => { e with inbox := e.inbox ++ octets }) =
      writes [octets] := by
  simp [added, Stream.modify]

/-- A review session with a client that has octets to write. -/
structure Exchange where
  loop : ReviewLoop
  stream : Stream := {}
  /-- What the client has still to write. -/
  coming : List UInt8
  /-- What the grader wrote, write by write. -/
  wrote : List (List UInt8) := []
deriving Repr

namespace Exchange

/-- What can happen in an exchange. -/
inductive Move where
  /-- The client writes what is next, at most so many octets. -/
  | writes (limit : Nat)
  /-- The client stops writing, if it has written all. -/
  | ends
  | reads (limit : Nat)
  /-- The grader takes one step. -/
  | grades
deriving DecidableEq, Repr

/-- Before anything is written. -/
def start (ids : List String) (octets : List UInt8) : Exchange :=
  { loop := .new ids, coming := octets }

def move (x : Exchange) : Move → Exchange
  | .writes limit =>
      { x with
        stream := (x.stream.write .client (x.coming.take limit)).2
        coming := x.coming.drop limit }
  | .ends => if x.coming.isEmpty then { x with stream := x.stream.endWriting .client } else x
  | .reads limit => { x with stream := (x.stream.read .client limit).2 }
  | .grades =>
      match x.loop.step x.stream with
      | (loop, stream) => { x with loop, stream, wrote := x.wrote ++ added x.stream stream }

def run (moves : List Move) (x : Exchange) : Exchange :=
  moves.foldl move x

end Exchange

/-! ### Where a session stands -/

/-- Where a session stands when it has taken so many octets and has written this. -/
inductive Standing (ids : List String) (octets : List UInt8) :
    ReviewLoop → Nat → List (List UInt8) → Prop where
  | awaitsStart : Standing ids octets (.new ids) 0 []
  | announces {n : Nat} (granted : Grants ids octets n) :
      Standing ids octets { stage := .announce (ids.drop n), reviewed := ids.take n } (n + 1)
        (announcements (ids.take n))
  | awaitsReview {n : Nat} {id : String} (granted : Grants ids octets n) (next : ids[n]? = some id)
      (accepted : Message.isReserved id = false) :
      Standing ids octets
        { stage := .awaitReview id (ids.drop (n + 1)), reviewed := ids.take n } (n + 1)
        (announcements (ids.take (n + 1)))
  | dismisses {result : Except Failure Nat} {m k : Nat} (verdict : Verdict ids octets result m k) :
      Standing ids octets { stage := .dismiss result, reviewed := ids.take m } (k + 1)
        (announcements (ids.take k))
  | finished {result : Except Failure Nat} {m k : Nat} (verdict : Verdict ids octets result m k) :
      Standing ids octets { stage := .finished result, reviewed := ids.take m } (k + 1)
        (announcements (ids.take k) ++ [stopOctets])

/-- The stream carries what is written, and the client has written all if it has stopped. -/
structure Wired (s : Stream) (coming : List UInt8) : Prop where
  intact : s.grader.reset = false
  carries : s.carriesFrom .grader = true
  listens : s.grader.listens = true
  speaks : s.client.speaks = true ∨ coming = []

namespace Wired

variable {s : Stream} {coming octets : List UInt8} {taken : Nat}

theorem modify_inbox (h : Wired s coming) (side : Side) (f : List UInt8 → List UInt8) :
    Wired (s.modify side fun e => { e with inbox := f e.inbox }) coming := by
  cases side <;> exact ⟨h.intact, h.carries, h.listens, h.speaks⟩

/-- A client that cannot write any more has written all. -/
theorem written (h : Wired s coming) (silent : ¬ s.carriesFrom .client = true) : coming = [] := by
  refine h.speaks.resolve_left fun speaks => silent ?_
  change (s.client.speaks && s.grader.listens) = true
  rw [speaks, h.listens]
  rfl

/-- Waiting for a command takes the next octet of the client, if nothing more has to be waited
for. -/
theorem expectCommand (h : Wired s coming) (left : s.grader.inbox ++ coming = octets.drop taken)
    (expected : Command) :
    Peer.expectCommand expected s = (.waiting, s) ∨
      ∃ s', Peer.expectCommand expected s =
          (if octets[taken]? = some expected.octet then .got ()
            else .failed (Peer.missed expected octets[taken]?), s') ∧
        s'.client = s.client ∧ Wired s' coming ∧
        s'.grader.inbox ++ coming = octets.drop (taken + 1) := by
  have heard := Peer.expectCommand_eq expected s
  cases there : s.grader.inbox with
  | cons octet queue =>
      rw [there] at left
      have next : octets[taken]? = some octet := by
        rw [← List.head?_drop, ← left]
        rfl
      have rest : queue ++ coming = octets.drop (taken + 1) := by
        rw [← List.drop_drop, ← left]
        rfl
      refine Or.inr ⟨s.modify .grader fun e => { e with inbox := queue }, ?_, rfl,
        h.modify_inbox .grader fun _ => queue, rest⟩
      simp only [heard, Peer.read_one, there, next, Option.some.injEq]
  | nil =>
      have intact : ¬ s.grader.reset = true := by simp [h.intact]
      by_cases carries : s.carriesFrom .client = true
      · simp only [Peer.read_one, there, if_neg intact, if_pos carries] at heard
        exact Or.inl heard
      · rw [there, h.written carries] at left
        have next : octets[taken]? = none := by
          rw [← List.head?_drop, ← left]
          rfl
        refine Or.inr ⟨s, ?_, rfl, h, ?_⟩
        · simp only [heard, Peer.read_one, there, if_neg intact, if_neg carries, next]
          rfl
        · rw [there, h.written carries, ← List.drop_drop, ← left]
          rfl

end Wired

namespace ReviewLoop

/-- The grader sends the identifier that is next. -/
theorem step_announce_drop {ids : List String} {n : Nat} {id : String} (next : ids[n]? = some id)
    (reviewed : List String) (s : Stream) :
    step { stage := .announce (ids.drop n), reviewed } s =
      match Peer.sendIdentifier id s with
      | (.ok (), s) => ({ stage := .awaitReview id (ids.drop (n + 1)), reviewed }, s)
      | (.error failure, s) => ({ stage := .dismiss (.error failure), reviewed }, s) := by
  obtain ⟨lt, rfl⟩ := List.getElem?_eq_some_iff.mp next
  exact step_announce (congrArg Stage.announce (List.drop_eq_getElem_cons lt)) s

/-- The grader has sent all identifiers and has their reviews. -/
theorem step_announce_all (ids : List String) (s : Stream) :
    step { stage := .announce (ids.drop ids.length), reviewed := ids.take ids.length } s =
      ({ stage := .dismiss (.ok ids.length), reviewed := ids.take ids.length }, s) := by
  rw [List.drop_length, List.take_length]
  rfl

end ReviewLoop

/-- An exchange in which the session and the stream are as they should be. -/
structure Conducted (ids : List String) (octets : List UInt8) (x : Exchange) : Prop where
  wired : Wired x.stream x.coming
  stands : ∃ taken, Standing ids octets x.loop taken x.wrote ∧
    x.stream.grader.inbox ++ x.coming = octets.drop taken

namespace Conducted

variable {ids : List String} {octets : List UInt8} {x : Exchange}

theorem start (ids : List String) (octets : List UInt8) :
    Conducted ids octets (.start ids octets) :=
  ⟨⟨rfl, rfl, rfl, Or.inl rfl⟩, 0, .awaitsStart, rfl⟩

/-- A step of the session, by what it leaves. -/
theorem of_step {loop : ReviewLoop} {s : Stream} {taken : Nat}
    (stepped : x.loop.step x.stream = (loop, s)) (wired : Wired s x.coming)
    (standing : Standing ids octets loop taken (x.wrote ++ added x.stream s))
    (left : s.grader.inbox ++ x.coming = octets.drop taken) :
    Conducted ids octets (x.move .grades) := by
  rw [Exchange.move, stepped]
  exact ⟨wired, taken, standing, left⟩

/-- A step that writes nothing. -/
theorem of_quiet {loop : ReviewLoop} {s : Stream} {taken : Nat}
    (stepped : x.loop.step x.stream = (loop, s)) (quiet : s.client = x.stream.client)
    (wired : Wired s x.coming) (standing : Standing ids octets loop taken x.wrote)
    (left : s.grader.inbox ++ x.coming = octets.drop taken) :
    Conducted ids octets (x.move .grades) := by
  refine of_step stepped wired ?_ left
  rwa [added_of_client_eq quiet, List.append_nil]

/-- A step that waits changes nothing. -/
theorem of_wait (h : Conducted ids octets x) (stepped : x.loop.step x.stream = (x.loop, x.stream)) :
    Conducted ids octets (x.move .grades) := by
  obtain ⟨wired, taken, standing, left⟩ := h
  exact of_quiet stepped rfl wired standing left

/-- Each step of the session leaves it where it should stand. -/
theorem grades (h : Conducted ids octets x) : Conducted ids octets (x.move .grades) := by
  obtain ⟨wired, taken, standing, left⟩ := id h
  obtain ⟨loop, stream, coming, wrote⟩ := x
  dsimp only at wired standing left
  cases standing with
  | awaitsStart =>
      have stepped : (ReviewLoop.new ids).step stream = _ := ReviewLoop.step_awaitStart rfl stream
      rcases wired.expectCommand left .start with waits | ⟨s', heard, quiet, wired', left'⟩
      · rw [waits] at stepped
        exact h.of_wait stepped
      · rw [heard] at stepped
        by_cases started : octets[0]? = some Command.start.octet
        · rw [if_pos started] at stepped
          exact of_quiet stepped quiet wired' (.announces (.zero started)) left'
        · rw [if_neg started] at stepped
          exact of_quiet stepped quiet wired' (.dismisses (.unstarted started)) left'
  | @announces n granted =>
      cases next : ids[n]? with
      | none =>
          obtain rfl := Nat.le_antisymm granted.enough (List.getElem?_eq_none_iff.mp next)
          exact of_quiet (ReviewLoop.step_announce_all ids stream) rfl wired
            (.dismisses (.completed granted)) left
      | some id =>
          have stepped := ReviewLoop.step_announce_drop next (ids.take n) stream
          rw [Peer.sendIdentifier] at stepped
          cases reserved : Message.isReserved id with
          | true =>
              rw [if_pos reserved] at stepped
              exact of_quiet stepped rfl wired (.dismisses (.refused granted next reserved)) left
          | false =>
              rw [if_neg (by simp [reserved]), Peer.sendText_of_carries wired.carries] at stepped
              refine of_step stepped (wired.modify_inbox .client (· ++ Utf8.encode id)) ?_ left
              rw [added_sent, ← announcements_succ next]
              exact .awaitsReview granted next reserved
  | @awaitsReview n id granted next accepted =>
      have stepped : ReviewLoop.step ⟨.awaitReview id (ids.drop (n + 1)), ids.take n⟩ stream = _ :=
        ReviewLoop.step_awaitReview rfl stream
      rcases wired.expectCommand left .review with waits | ⟨s', heard, quiet, wired', left'⟩
      · rw [waits] at stepped
        exact h.of_wait stepped
      · rw [heard] at stepped
        by_cases review : octets[n + 1]? = some Command.review.octet
        · rw [if_pos review, ← take_succ_of_next next] at stepped
          exact of_quiet stepped quiet wired' (.announces (granted.succ next accepted review)) left'
        · rw [if_neg review] at stepped
          exact of_quiet stepped quiet wired'
            (.dismisses (.unreviewed granted next accepted review)) left'
  | @dismisses result m k verdict =>
      have stepped : ReviewLoop.step ⟨.dismiss result, ids.take m⟩ stream = _ :=
        ReviewLoop.step_dismiss rfl stream
      rw [Peer.sendStop, Peer.sendText_of_carries wired.carries] at stepped
      refine of_step stepped (wired.modify_inbox .client (· ++ stopOctets)) ?_ left
      rw [← stopOctets, added_sent]
      exact .finished verdict
  | finished verdict => exact h.of_wait (ReviewLoop.step_of_finished rfl stream)

/-- One thing that happens in an exchange leaves the session where its inputs say. -/
theorem move (h : Conducted ids octets x) (m : Exchange.Move) :
    Conducted ids octets (x.move m) := by
  obtain ⟨wired, taken, standing, left⟩ := id h
  cases m with
  | grades => exact h.grades
  | writes limit =>
      rw [Exchange.move, Stream.write_eq]
      by_cases carries : x.stream.carriesFrom .client = true
      · rw [if_pos carries]
        have wired' := wired.modify_inbox .grader (· ++ x.coming.take limit)
        refine ⟨{ wired' with speaks := ?_ }, taken, standing, ?_⟩
        · exact wired.speaks.imp_right fun written => by rw [written, List.drop_nil]
        · change (x.stream.grader.inbox ++ x.coming.take limit) ++ x.coming.drop limit = _
          rw [List.append_assoc, List.take_append_drop, left]
      · rw [if_neg carries]
        -- A client that has stopped has nothing left to write.
        have same : x.coming.drop limit = x.coming := by
          rw [wired.written carries, List.drop_nil]
        rwa [same]
  | ends =>
      rw [Exchange.move]
      by_cases written : x.coming.isEmpty = true
      · rw [if_pos written]
        exact ⟨{ wired with speaks := Or.inr (List.isEmpty_iff.mp written) }, taken, standing, left⟩
      · rwa [if_neg written]
  | reads limit =>
      rw [Exchange.move]
      rcases x.stream.read_cases .client limit with
        ⟨-, read⟩ | ⟨-, -, read⟩ | ⟨-, -, read⟩ | ⟨-, -, read⟩
      · rw [read]
        exact ⟨wired.modify_inbox .client fun _ => _, taken, standing, left⟩
      · rw [read]
        exact ⟨⟨wired.intact, wired.carries, wired.listens, wired.speaks⟩, taken, standing, left⟩
      · rwa [read]
      · rwa [read]

theorem run (moves : List Exchange.Move) (h : Conducted ids octets x) :
    Conducted ids octets (x.run moves) := by
  induction moves generalizing x with
  | nil => exact h
  | cons m rest ih => exact ih (h.move m)

end Conducted

/-! ### A session ends -/

namespace ReviewLoop

theorem isSome_result?_of_remaining {loop : ReviewLoop} (done : loop.remaining = 0) :
    loop.result?.isSome = true := by
  obtain ⟨stage, reviewed⟩ := loop
  cases stage with
  | finished result => rfl
  | awaitStart | announce | awaitReview | dismiss => cases done

/-- Once the client can write no more, each step brings the end of the session nearer. -/
theorem remaining_step (loop : ReviewLoop) {s : Stream}
    (ended : ¬ s.carriesFrom .client = true) : (loop.step s).1.remaining ≤ loop.remaining - 1 := by
  cases stage : loop.stage with
  | awaitStart ids =>
      rw [step_awaitStart stage]
      rcases Peer.expectCommand_cases .start s with
        ⟨queue, -, got⟩ | ⟨-, failure, failed⟩ | ⟨-, waits⟩
      · simp [got, remaining, stage]
      · simp [failed, remaining, stage]
      · exact absurd (congrArg Prod.fst waits) (Peer.expectCommand_ne_waiting ended .start)
  | announce ids =>
      cases ids with
      | nil =>
          rw [step_announce_nil stage]
          simp [remaining, stage]
      | cons id others =>
          rw [step_announce stage]
          split
          · simp only [remaining, stage, List.length_cons]
            omega
          · simp [remaining, stage]
  | awaitReview id others =>
      rw [step_awaitReview stage]
      rcases Peer.expectCommand_cases .review s with
        ⟨queue, -, got⟩ | ⟨-, failure, failed⟩ | ⟨-, waits⟩
      · simp [got, remaining, stage]
      · simp [failed, remaining, stage]
      · exact absurd (congrArg Prod.fst waits) (Peer.expectCommand_ne_waiting ended .review)
  | dismiss result =>
      rw [step_dismiss stage]
      simp [remaining]
  | finished result =>
      rw [step_of_finished (by rw [result?, stage]; rfl)]
      simp [remaining, stage]

/-- A step does not stop the client. -/
theorem client_speaks_step (loop : ReviewLoop) (s : Stream) :
    (loop.step s).2.client.speaks = s.client.speaks := by
  rcases loop.step_cases s with ⟨id, others, -, -, stepped⟩ | ⟨result, -, stepped⟩ | quiet
  · rw [stepped]
    rfl
  · rw [stepped, Peer.sendStop]
    rcases Peer.sendText_cases s Message.stopText with sent | ⟨-, failure, failed⟩
    · rw [sent]
      rfl
    · rw [failed]
  · rw [quiet.client_eq]

end ReviewLoop

namespace Exchange

/-- To take steps is to make moves of the grader. -/
theorem steps_eq (n : Nat) (x : Exchange) :
    ReviewLoop.steps n x.loop x.stream =
      ((x.run (List.replicate n .grades)).loop, (x.run (List.replicate n .grades)).stream) := by
  induction n generalizing x with
  | zero => rfl
  | succ n ih => exact ih (x.move .grades)

/-- A session that has heard all of its client ends. -/
theorem finishes {ids : List String} {octets : List UInt8} {x : Exchange} {n : Nat}
    (h : Conducted ids octets x) (ended : x.stream.client.speaks = false)
    (enough : x.loop.remaining ≤ n) :
    (x.run (List.replicate n .grades)).loop.result?.isSome = true := by
  induction n generalizing x with
  | zero => exact ReviewLoop.isSome_result?_of_remaining (Nat.le_zero.mp enough)
  | succ n ih =>
      have silent : ¬ x.stream.carriesFrom .client = true := by
        change ¬ (x.stream.client.speaks && x.stream.grader.listens) = true
        rw [ended]
        exact Bool.false_ne_true
      have nearer := x.loop.remaining_step silent
      exact ih h.grades ((x.loop.client_speaks_step x.stream).trans ended)
        (Nat.le_trans nearer (Nat.sub_le_of_le_add enough))

/-- A session that has finished stands as its verdict says. -/
theorem verdict_of_finished {ids : List String} {octets : List UInt8} {x : Exchange}
    {result : Except Failure Nat} (h : Conducted ids octets x)
    (finished : x.loop.result? = some result) :
    ∃ m k, Verdict ids octets result m k ∧ x.loop.reviewed = ids.take m ∧
      x.wrote = announcements (ids.take k) ++ [stopOctets] ∧
      x.stream.grader.inbox ++ x.coming = octets.drop (k + 1) := by
  obtain ⟨-, taken, standing, left⟩ := h
  obtain ⟨loop, stream, coming, wrote⟩ := x
  dsimp only at standing left finished
  cases standing with
  | finished verdict =>
      cases finished
      exact ⟨_, _, verdict, rfl, rfl, left⟩
  | awaitsStart | announces | awaitsReview | dismisses => cases finished

/-- Whatever the identifiers are and whatever a client writes, in whatever pieces and however the
grader's steps fall in between:

* a session that has finished has the result of the first octet or identifier that is not as it
  should be, and is a success if the client starts and posts the reviews of all identifiers;
* it has collected as many reviews as there can be, in order, it has sent at most one identifier
  more, and the stop directive once and last, and has taken no octet that it need not take to know
  that;
* once the client has written all and stops, the session finishes. -/
theorem review_outcome (ids : List String) (octets : List UInt8) (moves : List Move) :
    let x := (start ids octets).run moves
    (∀ result, x.loop.result? = some result → ∃ m k,
      Verdict ids octets result m k ∧
      (octets[0]? = some Command.start.octet →
        Grants ids octets m ∧ ∀ n, Grants ids octets n → n ≤ m) ∧
      (octets[0]? ≠ some Command.start.octet → m = 0 ∧ k = 0) ∧
      (∀ n, result = .ok n ↔
        octets[0]? = some Command.start.octet ∧ m = ids.length ∧ n = ids.length) ∧
      m ≤ k ∧ k ≤ m + 1 ∧
      x.loop.reviewed = ids.take m ∧
      x.wrote = announcements (ids.take k) ++ [stopOctets] ∧
      stopOctets ∉ announcements (ids.take k) ∧
      x.stream.grader.inbox ++ x.coming = octets.drop (k + 1)) ∧
    (x.stream.client.speaks = false →
      let y := x.run (List.replicate x.loop.remaining .grades)
      x.loop.run x.stream = (y.loop, y.stream) ∧ y.loop.result?.isSome = true) := by
  intro x
  have conducted : Conducted ids octets x := (Conducted.start ids octets).run moves
  constructor
  · intro result finished
    obtain ⟨m, k, verdict, reviewed, wrote, left⟩ := verdict_of_finished conducted finished
    exact ⟨m, k, verdict, verdict.greatest, verdict.unstarted_eq, verdict.eq_ok_iff,
      verdict.bounds.1, verdict.bounds.2, reviewed, wrote,
      stopOctets_not_mem_announcements verdict.accepted, left⟩
  · intro ended
    exact ⟨x.steps_eq x.loop.remaining, finishes conducted ended (Nat.le_refl _)⟩

/-- The second identifier is refused after the first review, while another octet is on its way; and
a session whose client wrote all of that and stopped comes to its end. -/
theorem review_outcome_refused :
    let ids := ["jdoe2", "__grade", "wang5"]
    let x := (start ids [1, 2, 2]).run
      [.grades, .writes 2, .grades, .grades, .grades, .reads 9, .grades, .grades]
    x.loop.result? = some (.error (.invalidIdentifier "__grade")) ∧
    (∃ m k, Verdict ids [1, 2, 2] (.error (.invalidIdentifier "__grade")) m k ∧
      x.loop.reviewed = ids.take m ∧ x.wrote = announcements (ids.take k) ++ [stopOctets] ∧
      x.stream.grader.inbox ++ x.coming = [1, 2, 2].drop (k + 1)) ∧
    ∃ heard, heard = (start ids [1, 2, 2]).run [.writes 3, .ends] ∧
      heard.stream.client.speaks = false ∧
      (heard.loop.run heard.stream).1.result?.isSome = true := by
  intro ids x
  have finished : x.loop.result? = some (.error (.invalidIdentifier "__grade")) := rfl
  obtain ⟨ends, -⟩ := review_outcome ids [1, 2, 2]
    [.grades, .writes 2, .grades, .grades, .grades, .reads 9, .grades, .grades]
  obtain ⟨m, k, verdict, -, -, -, -, -, reviewed, wrote, -, left⟩ := ends _ finished
  have heard (ids : List String) : ∃ heard, heard = (start ids [1, 2, 2]).run [.writes 3, .ends] ∧
      heard.stream.client.speaks = false ∧
      (heard.loop.run heard.stream).1.result?.isSome = true := by
    obtain ⟨-, ended⟩ := review_outcome ids [1, 2, 2] [.writes 3, .ends]
    have silent : ((start ids [1, 2, 2]).run [.writes 3, .ends]).stream.client.speaks = false := rfl
    obtain ⟨all, comes⟩ := ended silent
    refine ⟨_, rfl, silent, ?_⟩
    rw [all]
    exact comes
  exact ⟨finished, ⟨m, k, verdict, reviewed, wrote, left⟩, heard ids⟩

end Exchange

end ReviewChannel
