import ReviewChannel.Proofs.Classification
import ReviewChannel.Proofs.Grading

/-!
The grader's end of a stream and the client's reading of a message agree.

The grader decides on the text that it is to send, the client on the octets that it got.

* `Message.classify_encode_eq_identifier_iff` — a text is an identifier to the client exactly if the
  grader may send it.
* `Peer.Request.perform_of_carries` — a request of the grader adds the octets of its message to what
  the client can read, or is refused and leaves the stream alone.
* `ReviewLoop.messages_of_step`, `ReviewLoop.messages_of_steps` — what a review session adds to the
  stream is the octets of messages, each of which is read as the message that it is.
* `Peer.sender_and_classifier_agree` — the agreement, for every text and every stream.
-/

namespace ReviewChannel

namespace Message

/-- A text is told as it was sent exactly if it does not have the reserved beginning. -/
theorem classify_encode_eq_identifier_iff {id : String} :
    classify (Utf8.encode id) = .identifier id ↔ isReserved id = false := by
  constructor
  · intro told
    rw [classify, Utf8.decodeLossy_encode] at told
    simpa using (exists_ofText_eq_identifier_iff id).mp ⟨id, told⟩
  · exact classify_encode

/-- No octets at all are the empty identifier. -/
@[simp] theorem classify_nil : classify [] = .identifier "" := by
  decide

/-- A message is sound on the wire: the octets of its text are read as this message, and it is one
that the grader means. -/
structure Sound (message : Message) : Prop where
  read_back : classify (Utf8.encode message.text) = message
  meant : ∀ text, message ≠ .malformed text

theorem sound_stopDirective : Sound .stopDirective :=
  ⟨classify_eq_stopDirective_iff.mpr rfl, fun _ => nofun⟩

theorem sound_identifier {id : String} (accepted : isReserved id = false) :
    Sound (.identifier id) :=
  ⟨classify_encode accepted, fun _ => nofun⟩

end Message

/-- A stream once the grader's octets have arrived at the client. -/
def Stream.afterGrader (s : Stream) (octets : List UInt8) : Stream :=
  s.modify .client fun e => { e with inbox := e.inbox ++ octets }

@[simp] theorem Stream.inbox_afterGrader (s : Stream) (octets : List UInt8) :
    (s.afterGrader octets).client.inbox = s.client.inbox ++ octets :=
  rfl

@[simp] theorem Stream.afterGrader_nil (s : Stream) : s.afterGrader [] = s := by
  simp [Stream.afterGrader, Stream.modify]

namespace Peer

/-- What the grader can ask its end of a stream to send. -/
inductive Request where
  | identifier (id : String)
  | stop
deriving DecidableEq, Repr

namespace Request

def message : Request → Message
  | identifier id => .identifier id
  | stop => .stopDirective

def perform : Request → Stream → Except Failure Unit × Stream
  | identifier id, s => sendIdentifier id s
  | stop, s => sendStop s

/-- On an open stream a request sends its message, which is read as it is; only an identifier with
the reserved beginning is refused. -/
theorem perform_of_carries {s : Stream} (carries : s.carriesFrom .grader = true)
    (request : Request) :
    (request.message.Sound ∧
        request.perform s = (.ok (), s.afterGrader (Utf8.encode request.message.text))) ∨
      ∃ id, request = .identifier id ∧ Message.isReserved id = true ∧
        request.perform s = (.error (.invalidIdentifier id), s) := by
  cases request with
  | identifier id =>
      cases reserved : Message.isReserved id with
      | true => exact .inr ⟨id, rfl, reserved, by rw [perform, sendIdentifier, if_pos reserved]⟩
      | false =>
          refine .inl ⟨Message.sound_identifier reserved, ?_⟩
          rw [perform, sendIdentifier, if_neg (by simp [reserved]), sendText_of_carries carries]
          rfl
  | stop => exact .inl ⟨Message.sound_stopDirective, sendText_of_carries carries _⟩

/-- A stream that is not open is left alone. -/
theorem perform_of_broken {s : Stream} (broken : s.carriesFrom .grader = false)
    (request : Request) : (request.perform s).2 = s := by
  have unsent (text : String) : (sendText text s).2 = s := by
    rw [sendText, Stream.write_eq, if_neg (by simp [broken])]
    cases Utf8.encode text <;> rfl
  cases request with
  | identifier id =>
      rw [perform, sendIdentifier]
      split
      · rfl
      · exact unsent id
  | stop => exact unsent _

end Request

end Peer

namespace ReviewLoop

/-- One step of a review session adds the octets of a message, or nothing. -/
theorem messages_of_step (loop : ReviewLoop) (s : Stream) :
    ∃ messages : List Message, (∀ message ∈ messages, message.Sound) ∧
      (loop.step s).2.client.inbox =
        s.client.inbox ++ messages.flatMap fun message => Utf8.encode message.text := by
  rcases loop.step_cases s with ⟨id, others, -, accepted, stepped⟩ | ⟨result, -, stepped⟩ | quiet
  · refine ⟨[.identifier id], by simpa using Message.sound_identifier accepted, ?_⟩
    rw [stepped]
    simp [Stream.modify, Message.text]
  · rw [stepped, show Peer.sendStop s = Peer.Request.stop.perform s from rfl]
    cases carries : s.carriesFrom .grader with
    | false => exact ⟨[], by simp, by simp [Peer.Request.perform_of_broken carries]⟩
    | true =>
        refine ⟨[.stopDirective], by simpa using Message.sound_stopDirective, ?_⟩
        rcases Peer.Request.stop.perform_of_carries carries with ⟨-, sent⟩ | ⟨id, other, -⟩
        · simp [sent, Peer.Request.message]
        · cases other
  · exact ⟨[], by simp, by simp [quiet.client_eq]⟩

/-- Steps of a review session add the octets of messages. -/
theorem messages_of_steps (n : Nat) (loop : ReviewLoop) (s : Stream) :
    ∃ messages : List Message, (∀ message ∈ messages, message.Sound) ∧
      (loop.steps n s).2.client.inbox =
        s.client.inbox ++ messages.flatMap fun message => Utf8.encode message.text := by
  induction n generalizing loop s with
  | zero => exact ⟨[], by simp, by simp [steps]⟩
  | succ n ih =>
      obtain ⟨first, firstSound, stepped⟩ := loop.messages_of_step s
      obtain ⟨later, laterSound, eq⟩ := ih (loop.step s).1 (loop.step s).2
      refine ⟨first ++ later, fun message mem => ?_, ?_⟩
      · rcases List.mem_append.mp mem with mem | mem
        · exact firstSound message mem
        · exact laterSound message mem
      · rw [steps, eq, stepped, List.flatMap_append, List.append_assoc]

end ReviewLoop

namespace Peer

/-- The grader and its client agree on what a message is.

* On an open stream the grader takes an identifier exactly if the client reads its octets as this
  identifier. It then adds these octets to the stream; else it says which text it refuses, and
  leaves the stream alone.
* Whatever is asked for, and whatever the state of the stream: the octets that are added are never
  malformed to the client, and they are the stop directive only if the grader asked to stop.
* A review session adds nothing but such octets, however many steps it takes. -/
theorem sender_and_classifier_agree :
    (∀ (id : String) (s : Stream), s.carriesFrom .grader = true →
      ((sendIdentifier id s).1 = .ok () ↔ Message.classify (Utf8.encode id) = .identifier id) ∧
        ((sendIdentifier id s).1 = .ok () →
          (sendIdentifier id s).2 = s.afterGrader (Utf8.encode id)) ∧
        (∀ failure, (sendIdentifier id s).1 = .error failure →
          failure = .invalidIdentifier id ∧ (sendIdentifier id s).2 = s)) ∧
      (∀ (request : Request) (s : Stream), ∃ octets,
        (request.perform s).2 = s.afterGrader octets ∧
          (Message.classify octets = .stopDirective ↔
            request = .stop ∧ s.carriesFrom .grader = true) ∧
          (request = .stop → s.carriesFrom .grader = true → octets = Utf8.encode "__stop") ∧
          ∀ text, Message.classify octets ≠ .malformed text) ∧
      ∀ (n : Nat) (loop : ReviewLoop) (s : Stream), ∃ messages : List Message,
        (loop.steps n s).2.client.inbox =
            s.client.inbox ++ (messages.flatMap fun message => Utf8.encode message.text) ∧
          ∀ message ∈ messages, Message.classify (Utf8.encode message.text) = message ∧
            ∀ text, message ≠ .malformed text := by
  refine ⟨fun id s carries => ?_, fun request s => ?_, fun n loop s => ?_⟩
  · rw [Message.classify_encode_eq_identifier_iff]
    rcases (Request.identifier id).perform_of_carries carries with
      ⟨sound, sent⟩ | ⟨other, same, reserved, refused⟩
    · have accepted := Message.classify_encode_eq_identifier_iff.mp sound.read_back
      rw [show sendIdentifier id s = _ from sent]
      exact ⟨iff_of_true rfl accepted, fun _ => rfl, fun _ => nofun⟩
    · obtain rfl := Request.identifier.inj same
      rw [show sendIdentifier id s = _ from refused]
      refine ⟨iff_of_false nofun (by simp [reserved]), nofun, fun failure failed => ?_⟩
      exact ⟨(Except.error.inj failed).symm, rfl⟩
  · cases carries : s.carriesFrom .grader with
    | false =>
        exact ⟨[], by simp [Request.perform_of_broken carries], by simp, nofun, by simp⟩
    | true =>
        rcases request.perform_of_carries carries with ⟨sound, sent⟩ | ⟨id, rfl, -, refused⟩
        · refine ⟨_, by rw [sent], ?_, ?_, ?_⟩
          · rw [sound.read_back]
            cases request <;> simp [Request.message]
          · rintro rfl -
            rfl
          · rw [sound.read_back]
            exact sound.meant
        · exact ⟨[], by simp [refused], by simp, nofun, by simp⟩
  · obtain ⟨messages, sound, eq⟩ := loop.messages_of_steps n s
    exact ⟨messages, eq, fun message mem => ⟨(sound message mem).1, (sound message mem).2⟩⟩

end Peer

end ReviewChannel
