import ReviewChannel.Proofs.Classification
import ReviewChannel.Proofs.Inbound
import ReviewChannel.Proofs.Noninterference

/-!
What it does to a text that its octets arrive in pieces.

Each read is classified on its own, so a character that is cut in two is shown as ill-formed parts.
Every other cut leaves the text as it is.

* `Utf8.IsInner` — an octet that only goes on with a character. Whatever is unfinished is broken off
  by any other octet, just as it is by the end of the octets (`Utf8.partsFrom_append`), so octets
  can be read in two pieces if the second one starts afresh (`Utf8.decodeLossy_append`).
* `Message.mend` — pieces with every cut undone that is not inside a character; `Message.shown_mend`
  says that the text stays the same.
* `Act.toldText?`, `Act.loggedText?` — the text of a message, in what the reviewer is told and in
  what the log is offered. A run tells and logs the texts of its messages (`Client.filterMap_run`).
* `Client.chunking_preserves_text` — all of that, for any pieces, any client and any reads.
-/

namespace ReviewChannel

namespace Utf8

/-! ### Octets inside a character -/

/-- An octet that only goes on with a character. -/
def IsInner (b : UInt8) : Prop :=
  0x80 ≤ b.toNat ∧ b.toNat ≤ 0xBF

instance (b : UInt8) : Decidable (IsInner b) :=
  inferInstanceAs (Decidable (_ ∧ _))

/-- Octets that do not begin inside a character. -/
def StartsAfresh (octets : List UInt8) : Prop :=
  ∀ b ∈ octets.head?, ¬ IsInner b

instance (octets : List UInt8) : Decidable (StartsAfresh octets) :=
  match octets with
  | [] => isTrue nofun
  | b :: _ => decidable_of_iff (¬ IsInner b) (by simp [StartsAfresh])

/-- Only inner octets go on with what is unfinished. -/
def Pending.AwaitsInner (p : Pending) : Prop :=
  ∀ b, p.continues b = true → IsInner b

theorem Pending.awaitsInner_later (bits after : Nat) : AwaitsInner ⟨bits, 0x80, 0xBF, after⟩ := by
  intro b continued
  rw [continues_iff] at continued
  exact continued

theorem awaitsInner_of_lead {b : UInt8} {p : Pending} (h : lead b = .first p) : p.AwaitsInner := by
  intro next continued
  rw [Pending.continues_iff] at continued
  unfold IsInner
  unfold lead at h
  dsimp only at h
  -- One case for each row of leading octets; the bounds of each row are inner octets.
  repeat' split at h
  all_goals first
    | exact Lead.noConfusion h
    | obtain rfl := Lead.first.inj h
      simp only [UInt8.reduceToNat] at continued
      omega

/-- Whatever one more octet leaves unfinished awaits an inner octet. -/
theorem awaitsInner_step {unfinished : Option Pending} {b : UInt8} {p : Pending}
    (h : (step unfinished b).2 = some p) : p.AwaitsInner := by
  have begun (h : (begin b).2 = some p) : p.AwaitsInner := by
    unfold begin at h
    cases role : lead b with
    | whole c => rw [role] at h; cases h
    | illFormed => rw [role] at h; cases h
    | first q =>
        rw [role] at h
        cases h
        exact awaitsInner_of_lead role
  cases unfinished with
  | none => exact begun h
  | some q =>
      rw [step] at h
      by_cases continued : q.continues b = true
      · rw [if_pos continued] at h
        cases left : q.after with
        | zero => rw [left] at h; cases h
        | succ n =>
            rw [left] at h
            cases h
            exact Pending.awaitsInner_later _ _
      · rw [if_neg continued] at h
        exact begun h

/-! ### Octets in two pieces -/

/-- Octets that start afresh are read by themselves: they break off what is unfinished before them,
and so does the end of the octets before them. The induction is on those. -/
theorem partsFrom_append {front back : List UInt8} {unfinished : Option Pending}
    (afresh : StartsAfresh back) (awaits : ∀ p ∈ unfinished, p.AwaitsInner) :
    partsFrom unfinished (front ++ back) = partsFrom unfinished front ++ partsFrom none back := by
  induction front generalizing unfinished with
  | nil =>
      cases unfinished with
      | none => rfl
      | some p =>
          apply partsFrom_of_stops
          intro b first
          rw [Bool.eq_false_iff]
          intro continued
          exact afresh b first (awaits p rfl b continued)
  | cons b front ih =>
      rw [List.cons_append, partsFrom_cons, partsFrom_cons, ih fun p left => awaitsInner_step left,
        List.append_assoc]

/-- Octets can be read in two pieces if the second one starts afresh. -/
theorem decodeLossy_append {front back : List UInt8} (afresh : StartsAfresh back) :
    decodeLossy (front ++ back) = decodeLossy front ++ decodeLossy back := by
  have nothing : ∀ p ∈ (none : Option Pending), p.AwaitsInner := nofun
  rw [decodeLossy, decodeChars, parts, partsFrom_append afresh nothing, List.map_append,
    String.ofList_append]
  rfl

end Utf8

/-! ### Octets in many pieces -/

namespace Message

open Utf8 (StartsAfresh decodeLossy decodeLossy_append)

/-- The text of pieces, each of which is a message of its own. -/
def shown (chunks : List (List UInt8)) : String :=
  String.join (chunks.map fun octets => (classify octets).text)

/-- The pieces with every cut undone that is not inside a character. -/
def mend : List (List UInt8) → List (List UInt8)
  | [] => []
  | chunk :: rest =>
      match mend rest with
      | [] => [chunk]
      | next :: more =>
          if StartsAfresh next then (chunk ++ next) :: more else chunk :: next :: more

theorem shown_cons (chunk : List UInt8) (rest : List (List UInt8)) :
    shown (chunk :: rest) = decodeLossy chunk ++ shown rest := by
  rw [shown, List.map_cons, String.join_cons, text_classify]
  rfl

theorem shown_singleton (octets : List UInt8) : shown [octets] = decodeLossy octets := by
  rw [shown_cons]
  exact String.append_empty

/-- Pieces are mended by putting some of them together, each with those right after it. -/
theorem exists_joined (chunks : List (List UInt8)) :
    ∃ joined : List (List (List UInt8)),
      joined.flatten = chunks ∧ mend chunks = joined.map List.flatten := by
  induction chunks with
  | nil => exact ⟨[], rfl, rfl⟩
  | cons chunk rest ih =>
      obtain ⟨joined, rfl, mended⟩ := ih
      rw [mend, mended]
      cases joined with
      | nil => exact ⟨[[chunk]], rfl, by simp⟩
      | cons next more =>
          by_cases afresh : StartsAfresh next.flatten
          · refine ⟨(chunk :: next) :: more, rfl, ?_⟩
            simp only [List.map_cons, if_pos afresh, List.flatten_cons]
          · refine ⟨[chunk] :: next :: more, rfl, ?_⟩
            simp only [List.map_cons, if_neg afresh, List.flatten_singleton]

/-- The cuts that are left are inside a character. -/
theorem not_startsAfresh_of_mem_tail {chunks : List (List UInt8)} {chunk : List UInt8}
    (mem : chunk ∈ (mend chunks).tail) : ¬ StartsAfresh chunk := by
  induction chunks with
  | nil => exact absurd mem List.not_mem_nil
  | cons first rest ih =>
      rw [mend] at mem
      cases mended : mend rest with
      | nil =>
          rw [mended] at mem
          exact absurd mem List.not_mem_nil
      | cons next more =>
          rw [mended] at mem ih
          dsimp only at mem
          split at mem
          · exact ih mem
          · rename_i inside
            rcases List.mem_cons.mp mem with rfl | later
            · exact inside
            · exact ih later

/-- The text stays the same when pieces are mended. -/
theorem shown_mend (chunks : List (List UInt8)) : shown (mend chunks) = shown chunks := by
  induction chunks with
  | nil => rfl
  | cons chunk rest ih =>
      rw [shown_cons, ← ih, mend]
      cases mend rest with
      | nil => exact shown_cons chunk []
      | cons next more =>
          dsimp only
          split
          · rename_i afresh
            rw [shown_cons, shown_cons, decodeLossy_append afresh, String.append_assoc]
          · rw [shown_cons]

theorem startsAfresh_flatten {chunks : List (List UInt8)}
    (afresh : ∀ chunk ∈ chunks, StartsAfresh chunk) : StartsAfresh chunks.flatten := by
  intro b first
  rw [List.head?_flatten] at first
  obtain ⟨chunk, mem, head⟩ := List.exists_of_findSome?_eq_some first
  exact afresh chunk mem b head

/-- Pieces that start afresh, but for the first one, carry the text of all their octets. -/
theorem shown_of_startsAfresh {chunks : List (List UInt8)}
    (afresh : ∀ chunk ∈ chunks.tail, StartsAfresh chunk) :
    shown chunks = decodeLossy chunks.flatten := by
  cases chunks with
  | nil => rfl
  | cons chunk rest =>
      rw [List.tail_cons] at afresh
      induction rest generalizing chunk with
      | nil => rw [shown_singleton, List.flatten_singleton]
      | cons next more ih =>
          have later := ih next fun other mem => afresh other (List.mem_cons_of_mem _ mem)
          rw [shown_cons, later, ← decodeLossy_append (startsAfresh_flatten afresh)]
          rfl

end Message

/-! ### What is told and logged -/

/-- What follows a beginning in a text. -/
def textAfter? (front text : String) : Option String :=
  (text.toList.dropPrefix? front.toList).map String.ofList

theorem textAfter?_append (front text : String) : textAfter? front (front ++ text) = some text := by
  have dropped : (front ++ text).toList.dropPrefix? front.toList = some text.toList := by
    rw [List.dropPrefix?_eq_some_iff]
    exact ⟨front.toList, String.toList_append, BEq.rfl⟩
  rw [textAfter?, dropped, Option.map_some, String.ofList_toList]

/-- A text that begins with another character has another beginning. -/
theorem textAfter?_append_of_head {front other : String} {c d : Char}
    (first : front.toList.head? = some c) (begins : other.toList.head? = some d) (differ : c ≠ d)
    (text : String) : textAfter? front (other ++ text) = none := by
  obtain ⟨letters, spelled⟩ := List.head?_eq_some_iff.mp first
  obtain ⟨others, written⟩ := List.head?_eq_some_iff.mp begins
  rw [textAfter?, String.toList_append, spelled, written, Option.map_eq_none_iff]
  exact if_neg (by simpa using differ.symm)

/-- The text of a message that an act told the reviewer. The stop directive is told in other
words. -/
def Act.toldText? : Act → Option String
  | informed text =>
      if text = stopLine then some Message.stopText else textAfter? "Student id: " text
  | complained text => textAfter? "invalid command received: " text
  | saved _ | tried .. | wired | ended | recorded _ => none

def Act.loggedText? : Act → Option String
  | recorded (.messageReceived message) => some message.text
  | _ => none

/-- The octets of the read that an event delivers. -/
def Event.payload? : Event → Option (List UInt8)
  | connection event => event.payload?
  | trigger | shutdown => none

def Event.text? (event : Event) : Option String :=
  event.payload?.map fun octets => (Message.classify octets).text

/-- The texts that events deliver are those of their octets. -/
theorem Event.texts_eq_shown (events : List Event) :
    String.join (events.filterMap Event.text?) =
      Message.shown (events.filterMap Event.payload?) := by
  rw [Message.shown, List.map_filterMap]
  rfl

/-- The payloads that a reader has delivered are what can be read off its channel. -/
theorem Reception.Faithful.payloads_eq {r : Reception} {endpoint : Path}
    {payloads : List (List UInt8)} {last : Option ConnectionEvent}
    (h : r.Faithful endpoint payloads last) :
    r.channel.events.filterMap Event.payload? = payloads := by
  have quiet : (last.toList.map Event.connection).filterMap Event.payload? = [] := by
    cases last with
    | none => rfl
    | some event =>
        obtain rfl | ⟨detail, rfl⟩ := h.terminal event rfl
        · rfl
        · rfl
  have each : (payloads.map fun octets => Event.connection (.payload octets)).filterMap
      Event.payload? = payloads := by
    rw [List.filterMap_map]
    exact List.filterMap_some
  rw [h.events_eq, delivered, List.map_append, List.filterMap_append, quiet, List.append_nil,
    List.map_cons, List.map_map]
  exact each

/-- What is told about a command is about no message. -/
theorem Reply.toldTexts_acts (reply : Reply) : reply.acts.filterMap Act.toldText? = [] := by
  have unsent (command : Command) (cause : SystemError) :
      (Act.complained (writeReason command cause)).toldText? = none := by
    have line : writeReason command cause =
        "failed to send " ++ (command.label ++ (" command: " ++ cause.message)) := by
      rw [← String.append_assoc, ← String.append_assoc]
      rfl
    rw [line]
    exact textAfter?_append_of_head rfl rfl (by decide) _
  have unsaved (failure : SaveFailure) :
      (Act.complained s!"Unable to save all files: {failure.message}").toldText? = none := by
    have other : 'i' ≠ 'U' := by decide
    exact textAfter?_append_of_head rfl rfl other failure.message
  have sending (command : Command) :
      (Act.informed s!"Sending {command.label} command").toldText? = none := by
    cases command <;> decide
  have posting : (Act.informed "Posting review").toldText? = none := by decide
  have tried (command : Command) (write : Option SystemError) :
      (writeActs command write).filterMap Act.toldText? = [] := by
    cases write with
    | none => rfl
    | some cause => exact List.filterMap_cons_none (unsent command cause)
  cases reply with
  | atOnce command write => exact (List.filterMap_cons_none (sending command)).trans (tried ..)
  | unsaved failure => exact List.filterMap_cons_none (unsaved failure)
  | afterSave command write => exact (List.filterMap_cons_none posting).trans (tried ..)

namespace Message

/-- Of a message of a client that was not told to end, the reviewer is told the text, once. -/
theorem toldTexts_acts (message : Message) :
    (message.acts false).filterMap Act.toldText? = [message.text] := by
  cases message with
  | identifier id =>
      have told : (Act.informed (studentLine id)).toldText? = some id := by
        rw [Act.toldText?, if_neg (studentLine_ne_stopLine id)]
        exact textAfter?_append _ id
      exact List.filterMap_cons_some told
  | malformed text =>
      have told : (Act.complained (Failure.malformedCommand text).message).toldText? = some text :=
        textAfter?_append _ text
      exact List.filterMap_cons_some told
  | stopDirective => decide

theorem loggedTexts_acts (terminated : Bool) (message : Message) :
    (message.acts terminated).filterMap Act.loggedText? = [] := by
  cases message with
  | identifier id => rfl
  | malformed text => rfl
  | stopDirective => cases terminated <;> rfl

end Message

theorem Reply.loggedTexts_acts (reply : Reply) :
    (Response.triggered reply).acts.filterMap Act.loggedText? = [] := by
  cases reply with
  | atOnce command write => cases write <;> rfl
  | unsaved failure => rfl
  | afterSave command write => cases write <;> rfl

namespace Client

variable {σ : Type} [Surroundings σ]

/-- The reviewer is told the text of a message that an event delivers, and no other. -/
theorem toldTexts_response {client : Client σ} (fresh : client.terminated = false) (event : Event) :
    (client.response event).acts.filterMap Act.toldText? = event.text?.toList := by
  cases event with
  | trigger =>
      have reply := Reply.toldTexts_acts (Reply.ask client.phase client.desk.surroundings).1
      rw [response, Response.acts, List.filterMap_append, reply]
      rfl
  | shutdown => rfl
  | connection event =>
      rw [response, fresh]
      cases event with
      | payload octets => exact (Message.classify octets).toldTexts_acts
      | connected endpoint =>
          have told : (Act.informed "Connected to grader").toldText? = none := by decide
          exact List.filterMap_cons_none told
      | disconnected => decide
      | transportError detail =>
          have told : (Act.complained (Failure.transport detail).message).toldText? = none :=
            textAfter?_append_of_head rfl rfl (by decide : 'i' ≠ 'g') detail
          exact List.filterMap_cons_none told

/-- The log is offered the text of a message that an event delivers, and no other. -/
theorem loggedTexts_response (client : Client σ) (event : Event) :
    (client.response event).acts.filterMap Act.loggedText? = event.text?.toList := by
  cases event with
  | trigger => exact Reply.loggedTexts_acts _
  | shutdown => rfl
  | connection event =>
      cases event with
      | payload octets =>
          exact congrArg _ ((Message.classify octets).loggedTexts_acts client.terminated)
      | connected endpoint => rfl
      | disconnected => rfl
      | transportError detail => rfl

/-- A view of a run that sees the text of each message. The induction is on the queue: a client is
not told to end before it exits. -/
theorem filterMap_run {view : Act → Option String}
    (each : ∀ (client : Client σ) (event : Event), client.terminated = false →
      (client.response event).acts.filterMap view = event.text?.toList)
    {client : Client σ} (fresh : client.terminated = false) (queue : List Event) :
    ((client.responses (handledOf queue)).flatMap Response.acts).filterMap view =
      (handledOf queue).filterMap Event.text? := by
  induction queue generalizing client with
  | nil => rfl
  | cons event rest ih =>
      have first := each client event fresh
      have texts (later : List Event) : (event :: later).filterMap Event.text? =
          event.text?.toList ++ later.filterMap Event.text? := by
        rw [List.filterMap_cons]
        cases event.text? <;> rfl
      rw [handledOf]
      by_cases exits : event.exits = true
      · rw [if_pos exits, texts]
        simp [responses, first]
      · have other : event ≠ stopEvent := by
          rintro rfl
          exact exits (by decide)
        have still : (client.handle event).2.terminated = false := by
          rw [← Bool.not_eq_true, terminated_handle, fresh]
          simp [other]
        rw [if_neg exits, responses, List.flatMap_cons, List.filterMap_append, first, ih still,
          texts]

/-- Octets can be cut into pieces, each classified on its own, without an effect on the text, as
long as no piece but the first one begins inside a character:

* such pieces carry the text of all the octets, however ill-formed these are;
* any pieces carry the text of the mended ones, which are pieces put together, and begin inside a
  character but for the first one;
* what the reviewer is told of the messages in a run, and what the log is offered of them, is the
  text of the mended payloads that the run handled; if these came from a reader, none is longer than
  a read, and they are a beginning of what the grader wrote. -/
theorem chunking_preserves_text (client : Client σ) (queue : List Event) (endpoint : Path)
    (moves : List Reception.Move) :
    (∀ chunks : List (List UInt8), (∀ chunk ∈ chunks.tail, Utf8.StartsAfresh chunk) →
      Message.shown chunks = Utf8.decodeLossy chunks.flatten) ∧
    (∀ chunks : List (List UInt8),
      Message.shown chunks = Message.shown (Message.mend chunks) ∧
      (∃ joined : List (List (List UInt8)),
        joined.flatten = chunks ∧ Message.mend chunks = joined.map List.flatten) ∧
      ∀ chunk ∈ (Message.mend chunks).tail, ¬ Utf8.StartsAfresh chunk) ∧
    (client.terminated = false →
      let chunks := (handledOf queue).filterMap Event.payload?
      let r := (Reception.opened endpoint).run moves
      ∃ added, (client.run queue).2.desk.acts = client.desk.acts ++ added ∧
        String.join (added.filterMap Act.toldText?) = Message.shown (Message.mend chunks) ∧
        String.join (added.filterMap Act.loggedText?) = Message.shown (Message.mend chunks) ∧
        (queue.filterMap Event.payload? <+: r.channel.events.filterMap Event.payload? →
          (∀ octets ∈ chunks, octets.length ≤ 4096) ∧ chunks.flatten <+: r.written)) := by
  refine ⟨?_, ?_, ?_⟩
  · intro chunks afresh
    exact Message.shown_of_startsAfresh afresh
  · intro chunks
    refine ⟨(Message.shown_mend chunks).symm, Message.exists_joined chunks, ?_⟩
    intro chunk mem
    exact Message.not_startsAfresh_of_mem_tail mem
  · intro fresh chunks r
    have told := filterMap_run (fun _ event fresh => toldTexts_response fresh event) fresh queue
    have logged := filterMap_run (fun client event _ => loggedTexts_response client event) fresh
      queue
    refine ⟨(client.responses (handledOf queue)).flatMap Response.acts, ?_, ?_, ?_, ?_⟩
    · rw [run_eq, acts_handleAll]
    · rw [told, Event.texts_eq_shown, Message.shown_mend]
    · rw [logged, Event.texts_eq_shown, Message.shown_mend]
    · intro reads
      obtain ⟨payloads, last, h⟩ := (Reception.opened_faithful endpoint).run moves
      have begins : chunks <+: payloads := by
        have handled := (handledOf_begins queue).1.filterMap Event.payload?
        rw [h.payloads_eq] at reads
        exact handled.trans reads
      constructor
      · intro octets mem
        exact (h.sized octets (begins.mem mem)).2
      · obtain ⟨rest, rfl⟩ := begins
        have written := h.begins
        rw [List.flatten_append] at written
        exact (List.prefix_append ..).trans written

end Client

/-- Inside a character, a cut makes two ill-formed parts of it. -/
example : Message.shown [[0xC3], [0xA9]] = "\uFFFD\uFFFD" ∧
    Message.shown [[0xC3, 0xA9]] = "é" := by
  decide

end ReviewChannel
