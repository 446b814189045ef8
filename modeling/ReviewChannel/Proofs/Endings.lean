import ReviewChannel.Proofs.Kept
import ReviewChannel.Proofs.Reading

/-!
When a client asks its host to end.

* `Client.Answers` ties the requests to end to the payloads that the client was given: one request
  if the stop directive is among them, and none otherwise.
* Triggers and everything else that the connection delivers leave it alone
  (`Answers.trigger`, `Answers.handleConnection`), so it holds however they are mixed.
-/

namespace ReviewChannel

variable {σ : Type}

namespace Desk

theorem endings_note (act : Act) (desk : Desk σ) :
    (desk.note act).endings = desk.endings + if act = .ended then 1 else 0 := by
  rw [endings, acts_note, List.count_append, List.count_singleton]
  by_cases ended : act = .ended
  · simp [ended, endings]
  · simp [ended, endings]

@[simp] theorem endings_inform (text : String) (desk : Desk σ) :
    (desk.inform text).endings = desk.endings :=
  desk.endings_note _

@[simp] theorem endings_complain (text : String) (desk : Desk σ) :
    (desk.complain text).endings = desk.endings :=
  desk.endings_note _

@[simp] theorem endings_endHost (desk : Desk σ) : desk.endHost.endings = desk.endings + 1 :=
  desk.endings_note _

@[simp] theorem endings_record [Surroundings σ] (event : LogEvent) (desk : Desk σ) :
    (desk.record event).endings = desk.endings :=
  Desk.endings_note _ _

end Desk

/-- No reply to a trigger makes the client ask its host to end. -/
theorem Reply.ended_not_mem_acts (reply : Reply) : Act.ended ∉ reply.acts := by
  cases reply with
  | atOnce command write => cases write <;> simp [acts, writeActs]
  | unsaved failure => simp [acts]
  | afterSave command write => cases write <;> simp [acts, writeActs]

namespace Client

variable {client : Client σ} {heard : List (List UInt8)}

/-- A client that was given these payloads has asked its host to end once if the stop directive was
among them, and not at all otherwise. -/
structure Answers (client : Client σ) (heard : List (List UInt8)) : Prop where
  endings_eq : client.desk.endings = if Message.stopOctets ∈ heard then 1 else 0
  terminated_iff : client.terminated = true ↔ Message.stopOctets ∈ heard

/-- Only the requests to end and what was handled matter. -/
theorem Answers.congr {client' : Client σ} {heard' : List (List UInt8)} (h : client.Answers heard)
    (endings : client'.desk.endings = client.desk.endings)
    (terminated : client'.terminated = client.terminated) (same : heard' = heard) :
    client'.Answers heard' where
  endings_eq := by rw [endings, h.endings_eq, same]
  terminated_iff := by rw [terminated, h.terminated_iff, same]

theorem Answers.endings_le_one (h : client.Answers heard) : client.desk.endings ≤ 1 := by
  rw [h.endings_eq]
  split
  · exact Nat.le_refl 1
  · exact Nat.zero_le 1

theorem Answers.endings_pos_iff (h : client.Answers heard) :
    0 < client.desk.endings ↔ Message.stopOctets ∈ heard := by
  rw [h.endings_eq]
  split
  · rename_i said
    exact ⟨fun _ => said, fun _ => Nat.one_pos⟩
  · rename_i unsaid
    exact ⟨fun pos => absurd pos (Nat.lt_irrefl 0), fun said => absurd said unsaid⟩

variable [Surroundings σ]

theorem endings_trigger (client : Client σ) :
    client.trigger.2.desk.endings = client.desk.endings := by
  simp only [trigger, Phase.trigger_eq, Desk.endings_record]
  rw [Desk.endings, List.count_append, List.count_eq_zero_of_not_mem (Reply.ended_not_mem_acts _)]
  rfl

theorem Answers.trigger (h : client.Answers heard) : client.trigger.2.Answers heard where
  endings_eq := client.endings_trigger ▸ h.endings_eq
  terminated_iff := h.terminated_iff

theorem endings_teardown (client : Client σ) : client.teardown.endings = client.desk.endings := by
  unfold teardown
  rw [Phase.teardown_eq]
  split <;>
    (rename_i eq
     obtain ⟨-, rfl⟩ := Prod.mk.inj eq
     simp [Desk.endings, Desk.record])

/-- What is no stop directive is told and changes nothing else. -/
theorem Answers.handlePayload (h : client.Answers heard) (octets : List UInt8) :
    (client.handlePayload octets).2.Answers (heard ++ [octets]) := by
  have spelling : Message.classify octets = .stopDirective ↔ octets = Message.stopOctets :=
    Message.classify_eq_stopDirective_iff
  unfold Client.handlePayload
  generalize Message.classify octets = message at spelling
  have grown : Message.stopOctets ∈ heard ++ [octets] ↔
      Message.stopOctets ∈ heard ∨ message = .stopDirective := by
    rw [List.mem_append, List.mem_singleton, spelling, eq_comm]
  obtain ⟨counted, flagged⟩ := h
  cases message with
  | identifier id => exact ⟨by simpa [grown] using counted, by simpa [grown] using flagged⟩
  | malformed text => exact ⟨by simpa [grown] using counted, by simpa [grown] using flagged⟩
  | stopDirective =>
      have said : Message.stopOctets ∈ heard ++ [octets] := grown.mpr (Or.inr rfl)
      simp only
      split
      · rename_i already
        rw [if_pos (flagged.mp already)] at counted
        exact ⟨by simpa [said] using counted, by simp [said, already]⟩
      · rename_i before
        rw [if_neg (mt flagged.mpr before)] at counted
        exact ⟨by simp [said, counted], by simp [said]⟩

theorem Answers.handleConnection (h : client.Answers heard) (event : ConnectionEvent) :
    (client.handleConnection event).2.Answers (heard ++ event.payload?.toList) := by
  obtain ⟨counted, flagged⟩ := h
  cases event with
  | payload octets => exact Answers.handlePayload ⟨counted, flagged⟩ octets
  | connected endpoint =>
      exact ⟨by simpa [Client.handleConnection, ConnectionEvent.payload?] using counted,
        by simpa [Client.handleConnection, ConnectionEvent.payload?] using flagged⟩
  | disconnected =>
      exact ⟨by simpa [Client.handleConnection, ConnectionEvent.payload?] using counted,
        by simpa [Client.handleConnection, ConnectionEvent.payload?] using flagged⟩
  | transportError detail =>
      exact ⟨by simpa [Client.handleConnection, ConnectionEvent.payload?] using counted,
        by simpa [Client.handleConnection, ConnectionEvent.payload?] using flagged⟩

end Client

end ReviewChannel
