import ReviewChannel.Client
import ReviewChannel.Proofs.Triggers

/-!
Properties of a desk that a client keeps, whatever it does.

A client touches its desk in four ways: it puts an act on record, it asks for a save, it offers an
event to the log, and it hands a command to the connection. `Desk.Kept` is what those four keep, and
`Client.handle_kept`, `Client.run_kept` and `Client.teardown_kept` carry it to whole clients.
-/

namespace ReviewChannel

variable {σ : Type} [Surroundings σ]

/-- What nothing that a client does to its desk can end. -/
structure Desk.Kept (P : Desk σ → Prop) : Prop where
  /-- An act goes on record that hands over no command and does not wire the host. -/
  note : ∀ {desk : Desk σ} (act : Act), act.tried? = none → act ≠ .wired → P desk →
    P (desk.note act)
  saveAll : ∀ {desk : Desk σ}, P desk →
    P { desk with surroundings := (Surroundings.saveAll desk.surroundings).2 }
  record : ∀ {desk : Desk σ} (event : LogEvent), P desk →
    P { desk with surroundings := Surroundings.record event desk.surroundings }
  transmit : ∀ {desk : Desk σ} (command : Command), P desk → P (desk.transmit command).2

variable {P : Desk σ → Prop}

namespace Desk.Kept

/-- Offering an event to the log also puts it on record. -/
theorem recorded (kept : Desk.Kept P) {desk : Desk σ} (event : LogEvent) (h : P desk) :
    P (desk.record event) :=
  kept.note (.recorded event) rfl (by simp) (kept.record event h)

theorem submit (kept : Desk.Kept P) (next : Phase) (command : Command) {desk : Desk σ}
    (h : P desk) : P (Phase.submit next command desk).2.2 := by
  have sent := kept.transmit command h
  unfold Phase.submit
  split
  · rename_i desk' eq
    rwa [eq] at sent
  · rename_i cause desk' eq
    rw [eq] at sent
    exact kept.note _ rfl (by simp) sent

theorem trigger (kept : Desk.Kept P) (phase : Phase) {desk : Desk σ} (h : P desk) :
    P (phase.trigger desk).2.2 := by
  cases phase with
  | notStarted => exact kept.submit _ _ (kept.note _ rfl (by simp) h)
  | started =>
      have asked := kept.saveAll h
      unfold Phase.trigger Desk.saveAll
      simp only [transition]
      cases answer : (Surroundings.saveAll desk.surroundings).1 with
      | ok _ =>
          exact kept.submit _ _ (kept.note _ rfl (by simp) (kept.note _ rfl (by simp) asked))
      | error failure =>
          exact kept.note _ rfl (by simp) (kept.note _ rfl (by simp) asked)

theorem teardown (kept : Desk.Kept P) (phase : Phase) {desk : Desk σ} (h : P desk) :
    P (phase.teardown desk).2 := by
  have sent := kept.transmit (transition phase .teardown).effect.command h
  unfold Phase.teardown
  dsimp only
  split <;> (rename_i eq; rwa [eq] at sent)

end Desk.Kept

namespace Client

theorem trigger_kept (kept : Desk.Kept P) {client : Client σ} (h : P client.desk) :
    P client.trigger.2.desk :=
  kept.recorded _ (kept.trigger client.phase h)

theorem handlePayload_kept (kept : Desk.Kept P) (octets : List UInt8) {client : Client σ}
    (h : P client.desk) : P (client.handlePayload octets).2.desk := by
  unfold handlePayload
  generalize Message.classify octets = message
  have logged := kept.recorded (.messageReceived message) h
  cases message with
  | identifier id => exact kept.note _ rfl (by simp) logged
  | malformed text => exact kept.note _ rfl (by simp) logged
  | stopDirective =>
      simp only
      split
      · exact logged
      · exact kept.note _ rfl (by simp) (kept.note _ rfl (by simp) logged)

theorem handle_kept (kept : Desk.Kept P) (event : Event) {client : Client σ}
    (h : P client.desk) : P (client.handle event).2.desk := by
  cases event with
  | trigger => exact trigger_kept kept h
  | shutdown => exact h
  | connection event =>
      cases event with
      | connected endpoint => exact kept.note _ rfl (by simp) (kept.recorded _ h)
      | payload octets => exact handlePayload_kept kept octets h
      | disconnected => exact kept.note _ rfl (by simp) (kept.recorded _ h)
      | transportError detail => exact kept.recorded _ (kept.note _ rfl (by simp) h)

/-- What no act of a client ends holds after a whole run. -/
theorem run_kept (kept : Desk.Kept P) (queue : List Event) {client : Client σ}
    (h : P client.desk) : P (client.run queue).2.desk := by
  induction queue generalizing client with
  | nil => exact h
  | cons event rest ih =>
      have handled := handle_kept kept event h
      unfold run
      split
      · rename_i next eq
        rw [eq] at handled
        exact ih handled
      · rename_i next eq
        rwa [eq] at handled

theorem teardown_kept (kept : Desk.Kept P) {client : Client σ} (h : P client.desk) :
    P client.teardown := by
  have stopped := kept.teardown client.phase h
  unfold teardown
  split <;> (rename_i eq; rw [eq] at stopped; exact kept.recorded _ (kept.recorded _ stopped))

end Client

end ReviewChannel
