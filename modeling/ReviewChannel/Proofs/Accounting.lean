import ReviewChannel.Proofs.Conversation
import ReviewChannel.Proofs.WireLanguage

/-!
Which review a grader credits to which student, whatever goes wrong on the way.

A review is an octet that the stream took from the client, and its place among all the octets that
the stream took tells it from the others. `Conversation.credits` lists the students that the grader
credits during some turns, each with the place of the octet that it took for them. A turn is a step
of the client or of the grader, or an upset that makes writes and reads fail, or work again.

* `Conversation.Accounted` — the octets that the grader has taken begin what the client has sent,
  and what is unread is the rest of it.
* `Conversation.review_accounting` — no octet is credited twice, none is credited that was not sent,
  none was sent without a save of its own, and the students are credited in order.
-/

namespace ReviewChannel

/-! ### What was sent -/

section Acts

/-- What the connection took was handed to it. -/
theorem sent_sublist_tried (acts : List Act) :
    (acts.filterMap Act.sent?).Sublist (acts.filterMap Act.tried?) := by
  induction acts with
  | nil => exact .slnil
  | cons act acts ih =>
      cases act with
      | tried command failure =>
          cases failure with
          | none => exact ih.cons_cons command
          | some cause => exact ih.cons command
      | _ => exact ih

theorem Act.sent?_eq_none {act : Act} (quiet : act.tried? = none) : act.sent? = none := by
  cases act with
  | tried command failure => cases quiet
  | _ => rfl

theorem Act.eq_tried_of_sent? {act : Act} {command : Command} (sent : act.sent? = some command) :
    act = .tried command none := by
  cases act with
  | tried other failure =>
      cases failure with
      | none =>
          cases sent
          rfl
      | some cause => cases sent
  | _ => cases sent

/-- The act by which a command was sent, with what was done before and after it. -/
theorem exists_split_of_sent {acts : List Act} {place : Nat} {command : Command}
    (sent : (acts.filterMap Act.sent?)[place]? = some command) :
    ∃ before after, acts = before ++ .tried command none :: after ∧
      (before.filterMap Act.sent?).length = place := by
  induction acts generalizing place with
  | nil => cases sent
  | cons act acts ih =>
      cases took : act.sent? with
      | none =>
          rw [List.filterMap_cons_none took] at sent
          obtain ⟨before, after, rfl, length⟩ := ih sent
          exact ⟨act :: before, after, rfl, by rw [List.filterMap_cons_none took, length]⟩
      | some other =>
          rw [List.filterMap_cons_some took] at sent
          cases place with
          | zero =>
              cases sent
              exact ⟨[], acts, by rw [Act.eq_tried_of_sent? took]; rfl, rfl⟩
          | succ place =>
              obtain ⟨before, after, rfl, length⟩ := ih sent
              refine ⟨act :: before, after, rfl, ?_⟩
              rw [List.filterMap_cons_some took, List.length_cons, length]

end Acts

namespace ReviewsSaved

/-- There are as many saves as reviews that were tried: each review has the save right before it. -/
theorem count_le {acts : List Act} (saved : ReviewsSaved acts) :
    (acts.filterMap Act.tried?).count .review ≤ (acts.filterMap Act.save?).count none := by
  -- A review at the end takes two more acts with it, so the induction is on the length.
  induction length : acts.length using Nat.strongRecOn generalizing acts with
  | ind n ih =>
      subst length
      rcases List.eq_nil_or_concat acts with rfl | ⟨front, last, rfl⟩
      · exact Nat.le_refl 0
      · rw [List.concat_eq_append] at saved ih ⊢
        have shorter : ReviewsSaved front := fun before write after eq =>
          saved before write (after ++ [last]) (by rw [eq, List.append_assoc, List.cons_append])
        by_cases review : last.tried? = some .review
        · obtain ⟨write, rfl⟩ : ∃ write, last = .tried .review write := by
            cases last <;> simp_all [Act.tried?]
          obtain ⟨earlier, rfl⟩ := saved front write [] rfl
          have before : ReviewsSaved earlier := fun before write after eq =>
            shorter before write (after ++ [.saved none, .informed "Posting review"])
              (by rw [eq, List.append_assoc, List.cons_append])
          have counted := ih earlier.length (by simp) before rfl
          rw [List.append_assoc, List.filterMap_append, List.count_append,
            List.filterMap_append (f := Act.save?), List.count_append]
          exact Nat.add_le_add counted (Nat.le_refl 1)
        · have counted := ih front.length (by simp) shorter rfl
          have untried : ([last].filterMap Act.tried?).count .review = 0 := by
            refine List.count_eq_zero_of_not_mem fun mem => review ?_
            obtain ⟨act, member, tried⟩ := List.mem_filterMap.mp mem
            rwa [List.mem_singleton.mp member] at tried
          rw [List.filterMap_append, List.filterMap_append, List.count_append, List.count_append,
            untried]
          exact Nat.le_trans counted (Nat.le_add_right _ _)

/-- Reviews that were sent have saves of their own. -/
theorem count_sent_le {acts : List Act} (saved : ReviewsSaved acts) :
    (acts.filterMap Act.sent?).count .review ≤ (acts.filterMap Act.save?).count none :=
  Nat.le_trans ((sent_sublist_tried acts).count_le Command.review) saved.count_le

/-- What is done after `start` was sent saves its reviews by itself. -/
theorem after_start {before after : List Act} {write : Option SystemError}
    (saved : ReviewsSaved (before ++ .tried .start write :: after)) : ReviewsSaved after := by
  intro front attempt rest eq
  obtain ⟨earlier, split⟩ := saved (before ++ .tried .start write :: front) attempt rest (by
    rw [eq, List.append_assoc, List.cons_append])
  rcases List.eq_nil_or_concat front with rfl | ⟨front, last, rfl⟩
  · have ends := congrArg List.getLast? split
    simp at ends
  · rcases List.eq_nil_or_concat front with rfl | ⟨front, previous, rfl⟩
    · have ends := congrArg (fun acts => acts.reverse.take 2) split
      simp at ends
    · refine ⟨front, ?_⟩
      have ends := congrArg (fun acts => acts.reverse.take 2) split
      simp at ends
      simp [ends]

/-- What is added hands no review over, so there is nothing to save for. -/
theorem append_unreviewed {acts more : List Act} (saved : ReviewsSaved acts)
    (none : Command.review ∉ more.filterMap Act.tried?) : ReviewsSaved (acts ++ more) :=
  saved.append (.of_no_review fun act mem review =>
    none (List.mem_filterMap.mpr ⟨act, mem, review⟩))

end ReviewsSaved

namespace Desk

variable {η : Type} [Surroundings η]

/-- No act is taken off the record. -/
theorem acts_kept {σ : Type} [Surroundings σ] (acts : List Act) :
    Desk.Kept fun desk : Desk σ => acts <+: desk.acts where
  note _ _ _ kept := kept.trans (List.prefix_append _ _)
  saveAll kept := kept
  record _ kept := kept
  transmit _ kept := kept.trans (List.prefix_append _ _)

/-- The connection took these commands first. -/
theorem sent_kept {σ : Type} [Surroundings σ] (taken : List Command) :
    Desk.Kept fun desk : Desk σ => taken <+: desk.sent where
  note _ _ _ kept := by
    rw [sent, acts_note, List.filterMap_append]
    exact kept.trans (List.prefix_append _ _)
  saveAll kept := kept
  record _ kept := kept
  transmit _ kept := by
    rw [sent, transmit, acts_note, List.filterMap_append]
    exact kept.trans (List.prefix_append _ _)

/-- The connection took these commands and those that the grader has not read yet. -/
def Carried (taken : List Command) (desk : Desk (Line η)) : Prop :=
  ∃ unread, desk.sent = taken ++ unread ∧
    desk.surroundings.stream.grader.inbox = unread.flatMap Command.encode

/-- What a client hands over waits behind what was taken, whatever the client does. -/
theorem carried_kept (taken : List Command) : Desk.Kept (Carried (η := η) taken) where
  note act quiet _ carried := by
    obtain ⟨unread, sent_eq, inbox⟩ := carried
    refine ⟨unread, ?_, inbox⟩
    rw [sent, acts_note, List.filterMap_append, List.filterMap_cons_none (Act.sent?_eq_none quiet)]
    exact (List.append_nil _).trans sent_eq
  saveAll carried := carried
  record _ carried := carried
  transmit {desk} command carried := by
    obtain ⟨unread, sent_eq, inbox⟩ := carried
    have written := desk.surroundings.stream.write_eq .client command.encode
    cases carries : desk.surroundings.stream.carriesFrom .client with
    | true =>
        rw [carries, if_pos rfl] at written
        refine ⟨unread ++ [command], ?_, ?_⟩
        · simp only [sent, transmit, Surroundings.transmit, Connection.transmit, written, failure?,
            acts_note, List.filterMap_append]
          rw [← List.append_assoc, ← sent_eq]
          rfl
        · simp only [transmit, Surroundings.transmit, Connection.transmit, written,
            surroundings_note, Stream.modify, Side.other, inbox, List.flatMap_append,
            List.flatMap_singleton]
    | false =>
        rw [carries, if_neg Bool.false_ne_true, if_neg (by simp [Command.encode])] at written
        refine ⟨unread, ?_, ?_⟩
        · simp only [sent, transmit, Surroundings.transmit, Connection.transmit, written, failure?,
            acts_note, List.filterMap_append]
          rw [← sent_eq]
          exact List.append_nil _
        · simp only [transmit, Surroundings.transmit, Connection.transmit, written,
            surroundings_note, inbox]

end Desk

/-- A record that grew, by its attempts. -/
theorem exists_added {acts grown : List Act} {tried : List Command} (grows : acts <+: grown)
    (attempts : grown.filterMap Act.tried? = acts.filterMap Act.tried? ++ tried) :
    ∃ more, grown = acts ++ more ∧ more.filterMap Act.tried? = tried := by
  obtain ⟨more, rfl⟩ := grows
  rw [List.filterMap_append, List.append_cancel_left_eq] at attempts
  exact ⟨more, rfl, attempts⟩

namespace Client

variable {σ : Type} [Surroundings σ] (client : Client σ)

/-- A trigger adds its reply to the record, and what it offers to the log. -/
theorem acts_trigger :
    ∃ event, client.trigger.2.desk.acts = client.desk.acts ++
      (Reply.ask client.phase client.desk.surroundings).1.acts ++ [.recorded event] := by
  rw [trigger, Phase.trigger_eq]
  exact ⟨_, rfl⟩

/-- A view that leaves the log out sees nothing of a trigger but its reply. -/
theorem filterMap_acts_trigger {α : Type} {view : Act → Option α}
    (unlogged : ∀ event, view (.recorded event) = none) :
    client.trigger.2.desk.acts.filterMap view = client.desk.acts.filterMap view ++
      (Reply.ask client.phase client.desk.surroundings).1.acts.filterMap view := by
  obtain ⟨event, acts⟩ := client.acts_trigger
  rw [acts, List.filterMap_append, List.filterMap_append, List.filterMap_cons_none (unlogged event),
    List.filterMap_nil, List.append_nil]

/-- What the connection delivers adds no attempt to the record. -/
theorem acts_handleConnection (event : ConnectionEvent) :
    ∃ more, (client.handleConnection event).2.desk.acts = client.desk.acts ++ more ∧
      more.filterMap Act.tried? = [] :=
  exists_added
    (handle_kept (Desk.acts_kept client.desk.acts) (.connection event) (List.prefix_refl _))
    ((client.handleConnection_quiet event).1.trans (List.append_nil _).symm)

/-- Teardown adds the attempt of `stop` to the record. -/
theorem acts_teardown :
    ∃ more, client.teardown.acts = client.desk.acts ++ more ∧
      more.filterMap Act.tried? = [.stop] :=
  exists_added (teardown_kept (Desk.acts_kept client.desk.acts) (List.prefix_refl _))
    client.attempts_teardown

variable {client}

theorem reviewsSaved_trigger (saved : ReviewsSaved client.desk.acts) :
    ReviewsSaved client.trigger.2.desk.acts := by
  have replied : ReviewsSaved (Reply.ask client.phase client.desk.surroundings).1.acts := by
    cases client.phase with
    | notStarted =>
        obtain ⟨write, replied⟩ := Reply.ask_notStarted client.desk.surroundings
        rw [replied]
        exact .of_no_review (by cases write <;> simp [Reply.acts, writeActs, Act.tried?])
    | started => exact (Reply.later_ask client.desk.surroundings).reviewsSaved
  obtain ⟨event, acts⟩ := client.acts_trigger
  rw [acts]
  exact (saved.append replied).append_unreviewed List.not_mem_nil

theorem reviewsSaved_handleConnection (saved : ReviewsSaved client.desk.acts)
    (event : ConnectionEvent) : ReviewsSaved (client.handleConnection event).2.desk.acts := by
  obtain ⟨more, acts, untried⟩ := client.acts_handleConnection event
  rw [acts]
  exact saved.append_unreviewed (by simp [untried])

theorem reviewsSaved_teardown (saved : ReviewsSaved client.desk.acts) :
    ReviewsSaved client.teardown.acts := by
  obtain ⟨more, acts, tried⟩ := client.acts_teardown
  rw [acts]
  exact saved.append_unreviewed (by simp [tried])

end Client

/-! ### What a session has taken -/

def Stage.reads : Stage → Bool
  | .awaitStart _ | .announce _ | .awaitReview _ _ => true
  | .dismiss _ | .finished _ => false

/-- A session that waits for a command reads. -/
theorem Stage.reads_of_awaits {stage : Stage} {command : Command}
    (awaits : stage.awaits = some command) : stage.reads = true := by
  cases stage with
  | awaitStart | announce | awaitReview => rfl
  | dismiss | finished => cases awaits

namespace ReviewLoop

/-- The commands that a session has taken and counts: `start`, and a review for each student. A
session that failed may have taken `start` without counting it. -/
def counted (loop : ReviewLoop) : List Command :=
  let all := .start :: List.replicate loop.reviewed.length .review
  match loop.stage with
  | .awaitStart _ => []
  | .announce _ | .awaitReview _ _ | .dismiss (.ok _) | .finished (.ok _) => all
  | .dismiss (.error _) | .finished (.error _) => if loop.reviewed = [] then [] else all

/-- A session goes through these identifiers: it reviewed the first of them, and the others are
ahead. A session that has completed reviewed them all. -/
def Follows (ids : List String) (loop : ReviewLoop) : Prop :=
  match loop.stage with
  | .awaitStart rest => loop.reviewed = [] ∧ rest = ids
  | .announce rest => loop.reviewed ++ rest = ids
  | .awaitReview id rest => loop.reviewed ++ id :: rest = ids
  | .dismiss result | .finished result =>
      loop.reviewed <+: ids ∧ ∀ n, result = .ok n → n = ids.length ∧ loop.reviewed = ids

variable {ids : List String} {loop : ReviewLoop}

theorem Follows.begins (h : loop.Follows ids) : loop.reviewed <+: ids := by
  unfold Follows at h
  split at h
  · rw [h.1]
    exact List.nil_prefix
  · exact ⟨_, h⟩
  · exact ⟨_, h⟩
  · exact h.1
  · exact h.1

/-- A session that has reviewed a student counts `start` and all its reviews. -/
theorem Follows.counted_eq (h : loop.Follows ids) (some : loop.reviewed ≠ []) :
    loop.counted = .start :: List.replicate loop.reviewed.length .review := by
  unfold counted
  split
  · rename_i stage
    simp only [Follows, stage] at h
    exact absurd h.1 some
  · rfl
  · rfl
  · rfl
  · rfl
  · rw [if_neg some]
  · rw [if_neg some]

/-- A session that fails counts no more than before. -/
theorem Follows.counted_failed (h : loop.Follows ids) (reads : loop.stage.reads = true)
    (failure : Failure) :
    ({ loop with stage := .dismiss (.error failure) } : ReviewLoop).counted <+: loop.counted := by
  cases stage : loop.stage with
  | awaitStart rest =>
      simp only [Follows, stage] at h
      simp [counted, stage, h.1]
  | announce | awaitReview =>
      simp only [counted, stage]
      split <;> simp
  | dismiss | finished =>
      rw [stage] at reads
      cases reads

/-- Whatever a step comes to, the session goes through the same identifiers. -/
theorem Follows.step (h : loop.Follows ids) (s : Stream) : (loop.step s).1.Follows ids := by
  have begins := h.begins
  have advances := loop.step_advances s
  generalize loop.step s = next at advances
  cases advances with
  | starts stage =>
      simp only [Follows, stage] at h ⊢
      rw [h.1, h.2]
      rfl
  | announces stage =>
      simp only [Follows, stage] at h ⊢
      exact h
  | reviews stage =>
      simp only [Follows, stage] at h ⊢
      rw [List.append_assoc]
      exact h
  | completes stage =>
      simp only [Follows, stage, List.append_nil] at h
      refine ⟨begins, fun n result => ?_⟩
      cases result
      exact ⟨congrArg List.length h, h⟩
  | refuses failure => exact ⟨begins, fun n result => by cases result⟩
  | despairs failure => exact ⟨begins, fun n result => by cases result⟩
  | waits => exact h
  | dismisses stage =>
      simp only [Follows, stage] at h ⊢
      exact h
  | rests => exact h

end ReviewLoop

/-! ### Turns and credits -/

/-- A review that the grader credits to a student. -/
structure Credit where
  id : String
  /-- The place of the review among all the octets that the stream took from the client. -/
  octet : Nat
deriving DecidableEq, Repr

/-- What can happen to a conversation when things also go wrong. -/
inductive Turn where
  | move (move : Move)
  /-- Writes and reads at one end fail from now on, or work again. What is on its way stays. -/
  | upset (side : Side) (speaks listens reset : Bool)
deriving DecidableEq, Repr

namespace Conversation

variable {η : Type} [Surroundings η]

def turn (c : Conversation η) : Turn → Conversation η
  | .move move => c.step move
  | .upset side speaks listens reset =>
      c.onStream (c.stream.modify side fun e => { e with speaks, listens, reset })

/-- Several turns, one after the other. -/
def turns (c : Conversation η) (turns : List Turn) : Conversation η :=
  turns.foldl turn c

/-- What the grader credits in a turn. Its queue is first in, first out: in front of the octet that
it takes, the stream took as many as are not in the queue. -/
def newCredits (c : Conversation η) (turn : Turn) : List Credit :=
  ((c.turn turn).loop.reviewed.drop c.loop.reviewed.length).map fun id =>
    { id, octet := c.client.desk.sent.length - c.stream.grader.inbox.length }

/-- What the grader credits during some turns, in order. -/
def credits (c : Conversation η) : List Turn → List Credit
  | [] => []
  | turn :: turns => c.newCredits turn ++ (c.turn turn).credits turns

theorem turns_move (c : Conversation η) (moves : List Move) :
    c.turns (moves.map .move) = c.run moves := by
  rw [turns, List.foldl_map]
  rfl

end Conversation

/-- Credits to these students, one after the other, for the octets from a place on. -/
def Credit.from (place : Nat) (ids : List String) : List Credit :=
  (ids.zipIdx place).map fun (id, octet) => { id, octet }

theorem Credit.getElem?_from (place : Nat) (ids : List String) (i : Nat) :
    (Credit.from place ids)[i]? = ids[i]?.map fun id => { id, octet := place + i } := by
  rw [Credit.from, List.getElem?_map, List.getElem?_zipIdx, Option.map_map]
  rfl

theorem Command.octet_injective {a b : Command} (same : a.octet = b.octet) : a = b :=
  Option.some.inj ((ofOctet?_octet a).symm.trans (same ▸ ofOctet?_octet b))

/-- After it sent `start`, the client sent at least so many reviews, and each has a save of its own
after `start`. -/
def Desk.ReviewedSinceStart {σ : Type} (reviews : Nat) (desk : Desk σ) : Prop :=
  ∃ before after, desk.acts = before ++ .tried .start none :: after ∧
    reviews ≤ (after.filterMap Act.sent?).count .review ∧
    (after.filterMap Act.sent?).count .review ≤ (after.filterMap Act.save?).count none ∧
    ReviewsSaved after

/-- The octet at the front of the queue is the first command that the grader has not read. -/
theorem Desk.Carried.take {η : Type} {desk : Desk (Line η)} {taken : List Command}
    (carried : desk.Carried taken) {command : Command} {queue : List UInt8}
    (there : desk.surroundings.stream.grader.inbox = command.octet :: queue) :
    ∃ unread, desk.sent = taken ++ [command] ++ unread ∧
      queue = unread.flatMap Command.encode := by
  obtain ⟨unread, sent, inbox⟩ := carried
  rw [there] at inbox
  cases unread with
  | nil => cases inbox
  | cons first unread =>
      obtain ⟨octet, rest⟩ := List.cons.inj inbox
      refine ⟨unread, ?_, rest⟩
      rw [sent, Command.octet_injective octet, List.append_assoc]
      rfl

namespace Conversation

variable {η : Type} {ids : List String} {c : Conversation η}

/-- What the grader counts, the client has sent; and while the grader reads, its queue holds the
rest of what the client has sent. -/
structure Accounted (ids : List String) (c : Conversation η) : Prop where
  follows : c.loop.Follows ids
  begins : c.loop.counted <+: c.client.desk.sent
  carried : c.loop.stage.reads = true → c.client.desk.Carried c.loop.counted
  saved : ReviewsSaved c.client.desk.acts

/-- How many octets the grader has taken, as its credits say. -/
theorem Accounted.place (h : c.Accounted ids) (reads : c.loop.stage.reads = true) :
    c.client.desk.sent.length - c.stream.grader.inbox.length = c.loop.counted.length := by
  obtain ⟨unread, sent, inbox⟩ := h.carried reads
  have length : c.stream.grader.inbox.length = unread.length := by
    have octets : unread.map Command.octet = unread.flatMap Command.encode := List.map_eq_flatMap
    rw [stream, inbox, ← octets, List.length_map]
  rw [sent, length, List.length_append, Nat.add_sub_cancel]

/-- The accounts of a conversation: what the grader credited, what the stream took, and what the
host saved. -/
structure Balanced (ids : List String) (credits : List Credit) (c : Conversation η) : Prop where
  /-- The grader credits the students in order. -/
  credited : credits.map Credit.id = c.loop.reviewed
  in_order : c.loop.reviewed <+: ids
  /-- Each credit is for a review that the stream took, and no two are for the same. -/
  accepted : ∀ credit ∈ credits, c.client.desk.sent[credit.octet]? = some .review
  once : (credits.map Credit.octet).Nodup
  credits_le : c.loop.reviewed.length ≤ c.client.desk.sent.count .review
  sent_le : c.client.desk.sent.count .review ≤ c.client.desk.saves.count none
  /-- A session completes when all students are reviewed. -/
  completed : ∀ n, c.loop.result? = some (.ok n) →
    n = ids.length ∧ c.loop.reviewed = ids ∧ c.client.desk.ReviewedSinceStart n

/-- The octet of every credit is a review that the client sent. -/
theorem Accounted.accepted (h : c.Accounted ids) {credit : Credit}
    (mem : credit ∈ Credit.from 1 c.loop.reviewed) :
    c.client.desk.sent[credit.octet]? = some .review := by
  obtain ⟨⟨id, octet⟩, there, rfl⟩ := List.mem_map.mp mem
  obtain ⟨low, high, -⟩ := List.mem_zipIdx there
  have some : c.loop.reviewed ≠ [] := by
    intro none
    rw [none] at there
    cases there
  obtain ⟨more, sent⟩ := h.begins
  rw [h.follows.counted_eq some] at sent
  obtain ⟨place, rfl⟩ : ∃ place, octet = place + 1 := ⟨octet - 1, by omega⟩
  rw [← sent, List.cons_append, List.getElem?_cons_succ,
    List.getElem?_append_left (by rw [List.length_replicate]; omega), List.getElem?_replicate,
    if_pos (by omega)]

theorem Accounted.credits_le (h : c.Accounted ids) :
    c.loop.reviewed.length ≤ c.client.desk.sent.count .review := by
  by_cases none : c.loop.reviewed = []
  · rw [none]
    exact Nat.zero_le _
  · have counted := h.begins.sublist.count_le Command.review
    rw [h.follows.counted_eq none] at counted
    simpa using counted

/-- A session that succeeded has reviewed every student, and its client has sent a review for
each. -/
theorem Accounted.completed (h : c.Accounted ids) {n : Nat}
    (result : c.loop.result? = some (.ok n)) :
    n = ids.length ∧ c.loop.reviewed = ids ∧ c.client.desk.ReviewedSinceStart n := by
  have stage : c.loop.stage = .finished (.ok n) := by
    unfold ReviewLoop.result? at result
    split at result
    · rename_i stage
      rw [stage, Option.some.inj result]
    · cases result
  have follows := h.follows
  simp only [ReviewLoop.Follows, stage] at follows
  obtain ⟨length, all⟩ := follows.2 n rfl
  obtain ⟨more, sent⟩ := h.begins
  simp only [ReviewLoop.counted, stage] at sent
  have first : (c.client.desk.acts.filterMap Act.sent?)[0]? = some .start := by
    rw [← Desk.sent, ← sent]
    rfl
  obtain ⟨before, after, acts, none⟩ := exists_split_of_sent first
  have rest : List.replicate n .review ++ more = after.filterMap Act.sent? := by
    rw [Desk.sent, acts, List.filterMap_append, List.eq_nil_of_length_eq_zero none, all, ← length]
      at sent
    exact List.tail_eq_of_cons_eq sent
  have saved : ReviewsSaved after := (acts ▸ h.saved).after_start
  refine ⟨length, all, before, after, acts, ?_, saved.count_sent_le, saved⟩
  rw [← rest, List.count_append, List.count_replicate_self]
  exact Nat.le_add_right _ _

/-! ### The accounts stay right -/

/-- The grader takes the next command and counts it. -/
theorem Accounted.took (h : c.Accounted ids) (reads : c.loop.stage.reads = true)
    {command : Command} {queue : List UInt8}
    (there : c.stream.grader.inbox = command.octet :: queue) {loop : ReviewLoop}
    (follows : loop.Follows ids) (counts : loop.counted = c.loop.counted ++ [command]) :
    ({ c.onStream (c.stream.modify .grader fun e => { e with inbox := queue }) with
        loop } : Conversation η).Accounted ids := by
  obtain ⟨unread, sent, rest⟩ := (h.carried reads).take there
  refine ⟨follows, ?_, fun _ => ?_, h.saved⟩
  · rw [counts]
    exact ⟨unread, sent.symm⟩
  · rw [counts]
    exact ⟨unread, sent, rest⟩

/-- The grader counts no more than before and reads on only if its queue is the same. -/
theorem Accounted.same (h : c.Accounted ids) {loop : ReviewLoop} {s : Stream}
    (follows : loop.Follows ids) (counts : loop.counted <+: c.loop.counted)
    (goesOn : loop.stage.reads = true → c.loop.stage.reads = true ∧
      loop.counted = c.loop.counted ∧ s.grader.inbox = c.stream.grader.inbox) :
    ({ c.onStream s with loop } : Conversation η).Accounted ids := by
  refine ⟨follows, counts.trans h.begins, fun reads => ?_, h.saved⟩
  obtain ⟨before, counted, inbox⟩ := goesOn reads
  obtain ⟨unread, sent, queue⟩ := h.carried before
  rw [counted]
  exact ⟨unread, sent, inbox.trans queue⟩

theorem Accounted.onStream (h : c.Accounted ids) {s : Stream}
    (inbox : s.grader.inbox = c.stream.grader.inbox) : (c.onStream s).Accounted ids :=
  h.same h.follows List.prefix_rfl fun reads => ⟨reads, rfl, inbox⟩

theorem accounted_start (around : η) (endpoint : Path) (ids : List String) :
    (start around endpoint ids).Accounted ids where
  follows := ⟨rfl, rfl⟩
  begins := List.nil_prefix
  carried _ := ⟨[], rfl, rfl⟩
  saved := .of_no_review (by simp [start])

/-- A step of the grader credits the review whose octet it takes from the queue, or none. -/
theorem Accounted.grade [Surroundings η] (h : c.Accounted ids) : (c.step .grade).Accounted ids := by
  have follows := h.follows.step c.stream
  have before := h.follows
  have advances := c.loop.step_advances c.stream
  rw [step]
  generalize c.loop.step c.stream = next at advances follows
  cases advances with
  | starts stage there =>
      simp only [ReviewLoop.Follows, stage] at before
      refine h.took (by rw [stage]; rfl) there follows ?_
      simp [ReviewLoop.counted, stage, before.1]
  | reviews stage there =>
      refine h.took (by rw [stage]; rfl) there follows ?_
      simp [ReviewLoop.counted, stage, List.replicate_succ']
  | announces stage =>
      refine h.same follows ?_ fun _ => ⟨by rw [stage]; rfl, ?_, rfl⟩
      · simp [ReviewLoop.counted, stage]
      · simp [ReviewLoop.counted, stage]
  | completes stage =>
      refine h.same follows ?_ fun reads => by cases reads
      simp [ReviewLoop.counted, stage]
  | refuses failure stage =>
      have reads : c.loop.stage.reads = true := by rw [stage]; rfl
      exact h.same follows (before.counted_failed reads failure) fun reads => by cases reads
  | despairs failure stage =>
      have reads := Stage.reads_of_awaits stage
      exact h.same follows (before.counted_failed reads failure) fun reads => by cases reads
  | waits => exact h.same follows List.prefix_rfl fun reads => ⟨reads, rfl, rfl⟩
  | @dismisses result stage =>
      refine h.same follows ?_ fun reads => by cases reads
      cases result <;> simp [ReviewLoop.counted, stage]
  | rests => exact h.same follows List.prefix_rfl fun reads => ⟨reads, rfl, rfl⟩

variable [Surroundings η]

/-- What a client does leaves the accounts right. -/
theorem Accounted.serve (h : c.Accounted ids) {c' : Conversation η} (loop : c'.loop = c.loop)
    (kept : ∀ {P : Desk (Line η) → Prop}, Desk.Kept P → P c.client.desk → P c'.client.desk)
    (saved : ReviewsSaved c'.client.desk.acts) : c'.Accounted ids where
  follows := loop ▸ h.follows
  begins := loop ▸ kept (Desk.sent_kept _) h.begins
  carried reads := by
    rw [loop] at reads ⊢
    exact kept (Desk.carried_kept _) (h.carried reads)
  saved := saved

theorem Accounted.step (h : c.Accounted ids) (move : Move) : (c.step move).Accounted ids := by
  have proceeds := c.step_proceeds move
  generalize c.step move = next at proceeds
  cases proceeds with
  | blocked => exact h
  | triggers =>
      exact h.serve rfl (fun kept => Client.trigger_kept kept)
        (Client.reviewsSaved_trigger h.saved)
  | reads =>
      have grader := (Connection.readOnce_cases c.stream).1
      have read := h.onStream (congrArg StreamEnd.inbox grader)
      exact ⟨read.follows, read.begins, read.carried, read.saved⟩
  | handles =>
      exact h.serve rfl (fun kept => Client.handle_kept kept _)
        (Client.reviewsSaved_handleConnection h.saved _)
  | leaves =>
      have left : ({ c with client.desk := c.client.teardown, gone := true } :
          Conversation η).Accounted ids :=
        h.serve rfl (fun kept => Client.teardown_kept kept)
          (Client.reviewsSaved_teardown h.saved)
      exact left.onStream rfl
  | grades => exact h.grade
  | graderLeaves finished =>
      refine h.same h.follows List.prefix_rfl fun reads => ?_
      unfold ReviewLoop.result? at finished
      cases stage : c.loop.stage <;> simp_all [Stage.reads]

theorem Accounted.turn (h : c.Accounted ids) (turn : Turn) : (c.turn turn).Accounted ids := by
  cases turn with
  | move move => exact h.step move
  | upset side speaks listens reset =>
      refine h.onStream ?_
      cases side <;> rfl

theorem Accounted.turns (h : c.Accounted ids) (turns : List Turn) :
    (c.turns turns).Accounted ids := by
  induction turns generalizing c with
  | nil => exact h
  | cons turn turns ih => exact ih (h.turn turn)

/-! ### What is credited -/

/-- Only the grader goes on with its session. -/
theorem loop_turn (c : Conversation η) {turn : Turn} (notGrade : turn ≠ .move .grade) :
    (c.turn turn).loop = c.loop := by
  cases turn with
  | move move =>
      rw [Conversation.turn]
      have proceeds := c.step_proceeds move
      generalize c.step move = next at proceeds
      cases proceeds with
      | grades => exact absurd rfl notGrade
      | blocked | triggers | reads | handles | leaves | graderLeaves => rfl
  | upset side speaks listens reset => rfl

/-- A turn credits the students that it adds to the reviewed ones, for the octets that come next. -/
theorem Accounted.newCredits (h : c.Accounted ids) (turn : Turn) :
    ∃ new, (c.turn turn).loop.reviewed = c.loop.reviewed ++ new ∧
      c.newCredits turn = Credit.from (c.loop.reviewed.length + 1) new := by
  have none_new (same : (c.turn turn).loop.reviewed = c.loop.reviewed) :
      ∃ new, (c.turn turn).loop.reviewed = c.loop.reviewed ++ new ∧
        c.newCredits turn = Credit.from (c.loop.reviewed.length + 1) new := by
    refine ⟨[], by rw [same, List.append_nil], ?_⟩
    rw [Conversation.newCredits, same, List.drop_length]
    rfl
  by_cases grade : turn = .move .grade
  · subst grade
    have advances := c.loop.step_advances c.stream
    have place := h.place
    rw [Conversation.newCredits] at none_new ⊢
    simp only [Conversation.turn, Conversation.step] at none_new ⊢
    generalize c.loop.step c.stream = next at advances none_new ⊢
    cases advances with
    | @reviews id others queue stage there =>
        refine ⟨[id], rfl, ?_⟩
        have octet := place (by rw [stage]; rfl)
        simp only [ReviewLoop.counted, stage, List.length_cons, List.length_replicate] at octet
        rw [List.drop_left, octet]
        rfl
    | starts | announces | refuses | completes | despairs | waits | dismisses | rests =>
        exact none_new rfl
  · exact none_new (congrArg ReviewLoop.reviewed (c.loop_turn grade))

/-- The credits of some turns are those of the students that they add, place by place. -/
theorem Accounted.credits (h : c.Accounted ids) (turns : List Turn) :
    ∃ new, (c.turns turns).loop.reviewed = c.loop.reviewed ++ new ∧
      c.credits turns = Credit.from (c.loop.reviewed.length + 1) new := by
  induction turns generalizing c with
  | nil => exact ⟨[], (List.append_nil _).symm, rfl⟩
  | cons turn turns ih =>
      obtain ⟨first, reviewed, credited⟩ := h.newCredits turn
      obtain ⟨rest, reviewed', credited'⟩ := ih (h.turn turn)
      refine ⟨first ++ rest, ?_, ?_⟩
      · rw [← List.append_assoc, ← reviewed]
        exact reviewed'
      · rw [Conversation.credits, credited, credited', reviewed, List.length_append]
        simp [Credit.from, List.zipIdx_append, Nat.add_assoc, Nat.add_comm]

/-- The credits of a conversation are those of the reviewed students, for the octets behind
`start`. -/
theorem credits_start (around : η) (endpoint : Path) (ids : List String) (turns : List Turn) :
    (start around endpoint ids).credits turns =
      Credit.from 1 ((start around endpoint ids).turns turns).loop.reviewed := by
  obtain ⟨new, reviewed, credited⟩ := (accounted_start around endpoint ids).credits turns
  rw [reviewed]
  exact credited

/-- Whatever the client and the grader do in whatever order, and whatever saves and writes fail, the
accounts balance at every moment. -/
theorem review_accounting (around : η) (endpoint : Path) (ids : List String) (turns : List Turn) :
    ((start around endpoint ids).turns turns).Balanced ids
      ((start around endpoint ids).credits turns) := by
  have accounted := (accounted_start around endpoint ids).turns turns
  rw [credits_start around endpoint ids turns]
  generalize (start around endpoint ids).turns turns = c at accounted
  have octets : (Credit.from 1 c.loop.reviewed).map Credit.octet =
      List.range' 1 c.loop.reviewed.length := by
    rw [Credit.from, List.map_map]
    exact List.zipIdx_map_snd _ _
  constructor
  · rw [Credit.from, List.map_map]
    exact List.zipIdx_map_fst _ _
  · exact accounted.follows.begins
  · exact fun credit mem => accounted.accepted mem
  · rw [octets]
    exact List.nodup_range'
  · exact accounted.credits_le
  · exact accounted.saved.count_sent_le
  · exact fun n result => accounted.completed result

/-- The octet at place 0 is `start`, and the first review is the one behind it. -/
example : (start Obliging.mk ⟨[]⟩ ["jdoe2"]).credits
    ([.trigger, .trigger, .grade, .grade, .grade].map .move) = [⟨"jdoe2", 1⟩] := by
  decide

end Conversation

end ReviewChannel
