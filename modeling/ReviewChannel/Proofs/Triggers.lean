import Mathlib.Data.List.Basic
import ReviewChannel.Session

/-!
What a session does when it gets any number of triggers and is then torn down, whatever fails on the
way.

* `Reply` is how the surroundings answered one trigger, as the table of the session asks them;
  `Reply.acts` and `Reply.outcome` are what the trigger then did and came to.
* `triggers_eq` — a run of triggers is the run of its replies, act by act.
* `session_follows_table` — what a whole session attempts, saves, tells and returns.
-/

namespace ReviewChannel

/-! ### Replies to triggers -/

/-- How the surroundings answered a trigger. -/
inductive Reply where
  /-- The command was handed over at once. -/
  | atOnce (command : Command) (write : Option SystemError)
  /-- Not everything could be saved. -/
  | unsaved (failure : SaveFailure)
  /-- Everything was saved, and then the command was handed over. -/
  | afterSave (command : Command) (write : Option SystemError)
deriving DecidableEq, Repr

/-- What a trigger comes to when its command was handed over. -/
def TriggerOutcome.ofWrite (command : Command) : Option SystemError → TriggerOutcome
  | none => .sent command
  | some cause => .sendFailed command cause

def TriggerOutcome.isFailure : TriggerOutcome → Bool
  | .sent _ => false
  | .sendFailed .. | .saveFailed => true

/-- What is done when a command is handed over: the attempt, and what is told if it failed. -/
def writeActs (command : Command) (write : Option SystemError) : List Act :=
  .tried command write :: write.toList.map fun cause => .complained (writeReason command cause)

namespace Reply

def outcome : Reply → TriggerOutcome
  | atOnce command write => .ofWrite command write
  | unsaved _ => .saveFailed
  | afterSave command write => .ofWrite command write

def acts : Reply → List Act
  | atOnce command write =>
      .informed s!"Sending {command.label} command" :: writeActs command write
  | unsaved failure =>
      [.saved (some failure), .complained s!"Unable to save all files: {failure.message}"]
  | afterSave command write =>
      .saved none :: .informed "Posting review" :: writeActs command write

/-- The failure that the reviewer is told. -/
def complaint? : Reply → Option String
  | atOnce command write => write.map (writeReason command)
  | unsaved failure => some s!"Unable to save all files: {failure.message}"
  | afterSave command write => write.map (writeReason command)

variable {σ : Type} [Surroundings σ]

/-- Asks the surroundings as the table says for a trigger in a phase: the reply, and the
surroundings afterwards. -/
def ask (phase : Phase) (s : σ) : Reply × σ :=
  match (transition phase .trigger).effect with
  | .send command =>
      let (answer, s) := Surroundings.transmit command s
      (atOnce command (failure? answer), s)
  | .saveThenSend command =>
      match Surroundings.saveAll s with
      | (.error failure, s) => (unsaved failure, s)
      | (.ok (), s) =>
          let (answer, s) := Surroundings.transmit command s
          (afterSave command (failure? answer), s)

/-- Asks the surroundings for several triggers, the first one in the given phase. -/
def askAll : Nat → Phase → σ → List Reply × σ
  | 0, _, s => ([], s)
  | n + 1, phase, s =>
      let (reply, s) := ask phase s
      let (replies, s) := askAll n (phase.after (transition phase .trigger)) s
      (reply :: replies, s)

end Reply

namespace Phase

variable {σ : Type} [Surroundings σ]

/-- Carries out several triggers: what each came to, and the phase and the desk afterwards. -/
def triggers : Nat → Phase → Desk σ → List TriggerOutcome × Phase × Desk σ
  | 0, phase, desk => ([], phase, desk)
  | n + 1, phase, desk =>
      let (outcome, phase, desk) := phase.trigger desk
      let (outcomes, phase, desk) := triggers n phase desk
      (outcome :: outcomes, phase, desk)

def afterTriggers (phase : Phase) (n : Nat) : Phase :=
  if n = 0 then phase else .started

/-! ### One trigger -/

theorem submit_eq (next : Phase) (command : Command) (desk : Desk σ) :
    submit next command desk =
      (.ofWrite command (failure? (Surroundings.transmit command desk.surroundings).1), next,
        { surroundings := (Surroundings.transmit command desk.surroundings).2
          acts := desk.acts ++
            writeActs command (failure? (Surroundings.transmit command desk.surroundings).1) }) := by
  unfold submit Desk.transmit
  cases h : Surroundings.transmit command desk.surroundings with
  | mk answer s =>
      cases answer with
      | ok _ => rfl
      | error cause =>
          simp [failure?, TriggerOutcome.ofWrite, writeActs, Desk.complain, Desk.note]

/-- A trigger asks the surroundings as the table says, and all else follows from the reply. -/
theorem trigger_eq (phase : Phase) (desk : Desk σ) :
    phase.trigger desk =
      ((Reply.ask phase desk.surroundings).1.outcome,
        phase.after (transition phase .trigger),
        { surroundings := (Reply.ask phase desk.surroundings).2
          acts := desk.acts ++ (Reply.ask phase desk.surroundings).1.acts }) := by
  cases phase with
  | notStarted =>
      simp [trigger, transition, submit_eq, Reply.ask, Reply.outcome, Reply.acts, Desk.inform,
        Desk.note]
  | started =>
      unfold trigger Reply.ask Desk.saveAll
      simp only [transition]
      cases h : Surroundings.saveAll desk.surroundings with
      | mk answer s =>
          cases answer with
          | ok _ =>
              simp [submit_eq, Reply.outcome, Reply.acts, Desk.inform, Desk.note, failure?]
          | error failure =>
              simp [Reply.outcome, Reply.acts, Desk.complain, Desk.note, failure?, Phase.after]

theorem after_trigger (phase : Phase) : phase.after (transition phase .trigger) = .started := by
  cases phase <;> rfl

/-! ### Runs of triggers -/

/-- A run of triggers is the run of the replies to it. -/
theorem triggers_eq (n : Nat) (phase : Phase) (desk : Desk σ) :
    triggers n phase desk =
      ((Reply.askAll n phase desk.surroundings).1.map Reply.outcome,
        phase.afterTriggers n,
        { surroundings := (Reply.askAll n phase desk.surroundings).2
          acts := desk.acts ++ (Reply.askAll n phase desk.surroundings).1.flatMap Reply.acts }) := by
  induction n generalizing phase desk with
  | zero => simp [triggers, Reply.askAll, afterTriggers]
  | succ n ih =>
      simp only [triggers, Reply.askAll, trigger_eq, after_trigger, ih]
      simp [afterTriggers]

end Phase

/-! ### What the replies of a session look like -/

namespace Reply

variable {σ : Type} [Surroundings σ]

/-- A reply to a trigger of a session under way. -/
inductive Later : Reply → Prop where
  | unsaved (failure : SaveFailure) : Later (.unsaved failure)
  | reviewed (write : Option SystemError) : Later (.afterSave .review write)

/-- Once a session is under way, every trigger asks for a save first. -/
theorem later_of_mem_askAll {n : Nat} {s : σ} {reply : Reply}
    (mem : reply ∈ (askAll n .started s).1) : reply.Later := by
  induction n generalizing s with
  | zero => simp [askAll] at mem
  | succ n ih =>
      simp only [askAll, Phase.after_trigger, List.mem_cons] at mem
      rcases mem with rfl | mem
      · simp only [ask, transition]
        cases h : Surroundings.saveAll s with
        | mk answer s =>
            cases answer with
            | ok _ => exact .reviewed _
            | error failure => exact .unsaved failure
      · exact ih mem

/-- The first trigger of a session sends `start`, whatever comes of it. -/
theorem ask_notStarted (s : σ) : ∃ write, (ask .notStarted s).1 = .atOnce .start write :=
  ⟨_, rfl⟩

theorem later_ask (s : σ) : (ask .started s).1.Later :=
  later_of_mem_askAll (n := 1) (s := s) (by simp [askAll])

/-- The first trigger of a session starts it, and all others find it under way. -/
theorem askAll_succ (n : Nat) (s : σ) :
    ∃ (write : Option SystemError) (s' : σ), (askAll (n + 1) .notStarted s).1 =
      .atOnce .start write :: (askAll n .started s').1 :=
  ⟨_, _, rfl⟩

theorem length_askAll (n : Nat) (phase : Phase) (s : σ) : (askAll n phase s).1.length = n := by
  induction n generalizing phase s with
  | zero => rfl
  | succ n ih => simp [askAll, ih]

/-! ### Views of what a trigger did -/

theorem errors_acts (reply : Reply) :
    reply.acts.filterMap Act.error? = reply.complaint?.toList := by
  cases reply with
  | atOnce command write => cases write <;> rfl
  | unsaved failure => rfl
  | afterSave command write => cases write <;> rfl

theorem isFailure_outcome (reply : Reply) :
    reply.outcome.isFailure = reply.complaint?.isSome := by
  cases reply with
  | atOnce command write => cases write <;> rfl
  | unsaved failure => rfl
  | afterSave command write => cases write <;> rfl

theorem errors_flatMap_acts (replies : List Reply) :
    (replies.flatMap acts).filterMap Act.error? = replies.filterMap complaint? := by
  rw [List.filterMap_flatMap, List.filterMap_eq_flatMap_toList]
  simp only [errors_acts]

theorem attempts_atOnce (command : Command) (write : Option SystemError) :
    (atOnce command write).acts.filterMap Act.tried? = [command] := by
  cases write <;> rfl

theorem saves_atOnce (command : Command) (write : Option SystemError) :
    (atOnce command write).acts.filterMap Act.save? = [] := by
  cases write <;> rfl

theorem Later.attempts_acts {reply : Reply} (later : reply.Later) :
    reply.acts.filterMap Act.tried? =
      List.replicate ((reply.acts.filterMap Act.save?).count none) .review := by
  cases later with
  | unsaved failure => rfl
  | reviewed write => cases write <;> rfl

theorem Later.length_saves_acts {reply : Reply} (later : reply.Later) :
    (reply.acts.filterMap Act.save?).length = 1 := by
  cases later with
  | unsaved failure => rfl
  | reviewed write => cases write <;> rfl

/-- A session under way attempts one review for each save that succeeds, and nothing else. -/
theorem attempts_flatMap_acts {replies : List Reply} (later : ∀ reply ∈ replies, reply.Later) :
    (replies.flatMap acts).filterMap Act.tried? =
      List.replicate (((replies.flatMap acts).filterMap Act.save?).count none) .review := by
  induction replies with
  | nil => rfl
  | cons reply replies ih =>
      rw [List.flatMap_cons, List.filterMap_append, List.filterMap_append, List.count_append,
        ← List.replicate_append_replicate, (later reply (by simp)).attempts_acts,
        ih fun r mem => later r (List.mem_cons_of_mem _ mem)]

theorem length_saves_flatMap_acts {replies : List Reply}
    (later : ∀ reply ∈ replies, reply.Later) :
    ((replies.flatMap acts).filterMap Act.save?).length = replies.length := by
  induction replies with
  | nil => rfl
  | cons reply replies ih =>
      rw [List.flatMap_cons, List.filterMap_append, List.length_append,
        (later reply (by simp)).length_saves_acts,
        ih fun r mem => later r (List.mem_cons_of_mem _ mem), List.length_cons, Nat.add_comm]

end Reply

/-! ### What comes before an act -/

/-- Whenever an act is done, what was done before it is as it should be. -/
def BeforeEach (act : Act) (due : List Act → Prop) (acts : List Act) : Prop :=
  ∀ before after, acts = before ++ act :: after → due before

namespace BeforeEach

variable {act : Act} {due : List Act → Prop} {xs ys : List Act}

/-- What is added is in order if its acts come where they may. -/
theorem append (h : BeforeEach act due xs)
    (later : ∀ before after, ys = before ++ act :: after → due (xs ++ before)) :
    BeforeEach act due (xs ++ ys) := by
  intro before after eq
  rcases List.append_eq_append_iff.mp eq with ⟨middle, rfl, rest⟩ | ⟨middle, rfl, rest⟩
  · exact later middle after rest
  · cases middle with
    | nil => simpa using later [] after rest.symm
    | cons first middle =>
        obtain ⟨rfl, -⟩ := List.cons.inj rest
        exact h _ _ rfl

/-- Acts that come right after the same ones do so wherever they stand. -/
theorem append_suffix {lead : List Act} (hx : BeforeEach act (lead <:+ ·) xs)
    (hy : BeforeEach act (lead <:+ ·) ys) : BeforeEach act (lead <:+ ·) (xs ++ ys) :=
  hx.append fun _ _ eq => (hy _ _ eq).trans (List.suffix_append _ _)

theorem of_not_mem (absent : act ∉ xs) : BeforeEach act due xs := by
  rintro before after rfl
  exact absurd (List.mem_append_right _ (List.mem_cons_self ..)) absent

/-- An act that is done once, and where it may be. -/
theorem of_once (ready : due xs) (fresh : act ∉ xs) (last : act ∉ ys) :
    BeforeEach act due (xs ++ act :: ys) := by
  intro before after eq
  rcases List.append_eq_append_iff.mp eq with ⟨middle, rfl, rest⟩ | ⟨middle, rfl, rest⟩
  · cases middle with
    | nil => simpa using ready
    | cons first middle =>
        obtain ⟨rfl, rfl⟩ := List.cons.inj rest
        simp at last
  · cases middle with
    | nil => simpa using ready
    | cons first middle =>
        obtain ⟨rfl, -⟩ := List.cons.inj rest
        simp at fresh

theorem flatMap_suffix {α : Type} {lead : List Act} {items : List α} {f : α → List Act}
    (each : ∀ item ∈ items, BeforeEach act (lead <:+ ·) (f item)) :
    BeforeEach act (lead <:+ ·) (items.flatMap f) := by
  induction items with
  | nil => exact of_not_mem List.not_mem_nil
  | cons item items ih =>
      rw [List.flatMap_cons]
      exact (each item (List.mem_cons_self ..)).append_suffix
        (ih fun later mem => each later (List.mem_cons_of_mem _ mem))

end BeforeEach

/-! ### Every review has its own save -/

/-- Every attempted review comes right after a save that succeeded; in between the reviewer is told
and nothing else is done. -/
def ReviewsSaved (acts : List Act) : Prop :=
  ∀ before write after, acts = before ++ .tried .review write :: after →
    ∃ earlier, before = earlier ++ [.saved none, .informed "Posting review"]

theorem reviewsSaved_iff {acts : List Act} :
    ReviewsSaved acts ↔ ∀ write, BeforeEach (.tried .review write)
      ([.saved none, .informed "Posting review"] <:+ ·) acts := by
  constructor
  · intro saved write before after eq
    obtain ⟨earlier, rfl⟩ := saved before write after eq
    exact List.suffix_append _ _
  · intro each before write after eq
    obtain ⟨earlier, ends⟩ := each write before after eq
    exact ⟨earlier, ends.symm⟩

namespace ReviewsSaved

theorem append {xs ys : List Act} (hx : ReviewsSaved xs) (hy : ReviewsSaved ys) :
    ReviewsSaved (xs ++ ys) :=
  reviewsSaved_iff.mpr fun write =>
    (reviewsSaved_iff.mp hx write).append_suffix (reviewsSaved_iff.mp hy write)

theorem of_no_review {acts : List Act} (none : ∀ act ∈ acts, act.tried? ≠ some .review) :
    ReviewsSaved acts :=
  reviewsSaved_iff.mpr fun _ => .of_not_mem fun mem => none _ mem rfl

theorem flatMap {replies : List Reply} (each : ∀ reply ∈ replies, ReviewsSaved reply.acts) :
    ReviewsSaved (replies.flatMap Reply.acts) :=
  reviewsSaved_iff.mpr fun write =>
    .flatMap_suffix fun reply mem => reviewsSaved_iff.mp (each reply mem) write

end ReviewsSaved

theorem Reply.Later.reviewsSaved {reply : Reply} (later : reply.Later) :
    ReviewsSaved reply.acts := by
  cases later with
  | unsaved failure => exact .of_no_review (by simp [acts, Act.tried?])
  | reviewed write =>
      refine reviewsSaved_iff.mpr fun answer => ?_
      by_cases same : answer = write
      · subst same
        have last : Act.tried .review answer ∉ (writeActs .review answer).tail := by
          simp [writeActs]
        exact .of_once (List.suffix_refl [.saved none, .informed "Posting review"]) (by simp) last
      · exact .of_not_mem (by simp [acts, writeActs, same])

/-! ### A whole session -/

section Session

variable {σ : Type} [Surroundings σ]

/-- The replies to all triggers of a new session. -/
def sessionReplies (n : Nat) (s : σ) : List Reply :=
  (Reply.askAll n .notStarted s).1

theorem triggers_notStarted_eq (n : Nat) (s : σ) :
    Phase.notStarted.triggers n { surroundings := s } =
      ((sessionReplies n s).map Reply.outcome, Phase.notStarted.afterTriggers n,
        { surroundings := (Reply.askAll n .notStarted s).2
          acts := (sessionReplies n s).flatMap Reply.acts }) := by
  rw [Phase.triggers_eq]
  rfl

/-- After the start, each save that succeeds is followed by one review. -/
theorem attempts_sessionReplies (n : Nat) (s : σ) :
    ((sessionReplies n s).flatMap Reply.acts).filterMap Act.tried? =
      if n = 0 then []
      else .start :: List.replicate
        ((((sessionReplies n s).flatMap Reply.acts).filterMap Act.save?).count none) .review := by
  cases n with
  | zero => rfl
  | succ n =>
      obtain ⟨write, s', h⟩ := Reply.askAll_succ n s
      have rest := Reply.attempts_flatMap_acts
        fun r (mem : r ∈ (Reply.askAll n .started s').1) => Reply.later_of_mem_askAll mem
      simp [sessionReplies, h, Reply.attempts_atOnce, Reply.saves_atOnce, rest]

theorem length_saves_sessionReplies (n : Nat) (s : σ) :
    (((sessionReplies n s).flatMap Reply.acts).filterMap Act.save?).length = n - 1 := by
  cases n with
  | zero => rfl
  | succ n =>
      obtain ⟨write, s', h⟩ := Reply.askAll_succ n s
      have rest := Reply.length_saves_flatMap_acts
        fun r (mem : r ∈ (Reply.askAll n .started s').1) => Reply.later_of_mem_askAll mem
      simp [sessionReplies, h, Reply.saves_atOnce, rest, Reply.length_askAll]

theorem reviewsSaved_sessionReplies (n : Nat) (s : σ) :
    ReviewsSaved ((sessionReplies n s).flatMap Reply.acts) := by
  cases n with
  | zero => exact .of_no_review (by simp [sessionReplies, Reply.askAll])
  | succ n =>
      obtain ⟨write, s', h⟩ := Reply.askAll_succ n s
      rw [sessionReplies, h, List.flatMap_cons]
      refine .append (.of_no_review ?_) (.flatMap fun r mem => ?_)
      · cases write <;> simp [Reply.acts, writeActs, Act.tried?]
      · exact (Reply.later_of_mem_askAll mem).reviewsSaved

theorem count_failures_sessionReplies (n : Nat) (s : σ) :
    ((sessionReplies n s).filterMap Reply.complaint?).length =
      ((sessionReplies n s).map Reply.outcome).countP TriggerOutcome.isFailure := by
  rw [List.countP_map, List.length_filterMap_eq_countP]
  simp only [Function.comp_def, Reply.isFailure_outcome]

/-- Teardown attempts `stop` and does nothing else, whatever the phase. -/
theorem Phase.teardown_eq (phase : Phase) (desk : Desk σ) :
    phase.teardown desk =
      (match (Surroundings.transmit .stop desk.surroundings).1 with
        | .ok () => .ok ()
        | .error cause => .error (.write .stop cause),
        { surroundings := (Surroundings.transmit .stop desk.surroundings).2
          acts := desk.acts ++
            [.tried .stop (failure? (Surroundings.transmit .stop desk.surroundings).1)] }) := by
  have stop : (transition phase .teardown).effect.command = .stop := by
    cases phase <;> rfl
  unfold Phase.teardown Desk.transmit
  simp only [stop]
  cases h : Surroundings.transmit .stop desk.surroundings with
  | mk answer s => cases answer <;> rfl

/-- A session that gets `n` triggers and is then torn down follows its table, whatever saves and
writes fail. With the replies that the surroundings give to the questions of the table:

* what each trigger came to and did is what its reply says, and teardown only attempts `stop`;
* the first trigger attempts `start`, each later one a review if its save succeeds, and each of
  them saves once, right before its review;
* the session is under way after the first trigger, and the reviewer is told once of each failure
  of a trigger. -/
theorem session_follows_table (n : Nat) (s : σ) :
    match Phase.notStarted.triggers n (Desk.mk s []), sessionReplies n s with
    | (outcomes, phase, desk), replies =>
        match phase.teardown desk with
        | (result, ended) =>
            outcomes = replies.map Reply.outcome ∧ outcomes.length = n ∧
              (phase = .started ↔ 1 ≤ n) ∧
              (∃ write : Option SystemError,
                ended.acts = replies.flatMap Reply.acts ++ [.tried .stop write] ∧
                (result = .ok () ↔ write = none)) ∧
              ended.attempts =
                (if n = 0 then [] else .start :: List.replicate (ended.saves.count none) .review) ++
                  [.stop] ∧
              ended.saves.length = n - 1 ∧
              ReviewsSaved ended.acts ∧
              ended.errors = replies.filterMap Reply.complaint? ∧
              ended.errors.length = outcomes.countP TriggerOutcome.isFailure := by
  simp only [triggers_notStarted_eq, Phase.teardown_eq]
  refine ⟨trivial, ?_, ?_, ⟨_, rfl, ?_⟩, ?_, ?_, ?_, ?_, ?_⟩
  · rw [List.length_map, sessionReplies, Reply.length_askAll]
  · cases n <;> simp [Phase.afterTriggers]
  · cases (Surroundings.transmit .stop (Reply.askAll n .notStarted s).2).1 <;> simp [failure?]
  · simp [Desk.attempts, Desk.saves, attempts_sessionReplies, Act.tried?, Act.save?,
      List.filterMap_cons]
  · simpa [Desk.saves, Act.save?, List.filterMap_cons] using length_saves_sessionReplies n s
  · exact (reviewsSaved_sessionReplies n s).append (.of_no_review (by simp [Act.tried?]))
  · simpa [Desk.errors, Act.error?, List.filterMap_cons] using
      Reply.errors_flatMap_acts (sessionReplies n s)
  · rw [← count_failures_sessionReplies, ← Reply.errors_flatMap_acts]
    simp [Desk.errors, Act.error?, List.filterMap_cons]

end Session

end ReviewChannel
