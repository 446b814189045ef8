import ReviewChannel.Connection
import ReviewChannel.Proofs.Kept
import ReviewChannel.Proofs.Stream

/-!
Surroundings in which a client's commands go out on a stream.

* `Line` is a stream next to any other surroundings, which save and keep the log.
* `BusyLine` is a line on which others are at work: before each write of the client, and before it
  hangs up, the grader and the client's own reader do whatever their agenda says.
* `BusyLine.Carries` — the octets that the grader has read or can still read begin the octets of the
  commands that were tried, and are all of them while the stream is open. Failures to write are
  permanent, so nothing that the others do can end this.
-/

namespace ReviewChannel

/-- Surroundings with a stream to the grader. -/
structure Line (η : Type) where
  /-- What else is around the client: its host and its log. -/
  around : η
  stream : Stream := {}

instance {η : Type} [Surroundings η] : Surroundings (Line η) where
  saveAll line :=
    let (answer, around) := Surroundings.saveAll line.around
    (answer, { line with around })
  transmit command line :=
    let (answer, stream) := Connection.transmit command line.stream
    (answer, { line with stream })
  record event line := { line with around := Surroundings.record event line.around }

/-- Surroundings in which every save and every write succeeds, and nobody keeps a log. -/
structure Obliging where

instance : Surroundings Obliging where
  saveAll s := (.ok (), s)
  transmit _ s := (.ok (), s)
  record _ s := s

/-- Something that happens to a stream while its client does not look. -/
inductive Meanwhile where
  /-- The client's reader takes what is there. -/
  | readerReads
  | graderReads (limit : Nat)
  | graderWrites (octets : List UInt8)
  | graderEndsWriting
  | graderShutsDown
  | graderCloses
  /-- The process of the client ends. -/
  | clientCloses
deriving DecidableEq, Repr

/-- A line on which others are at work. -/
structure BusyLine (η : Type) extends Line η where
  /-- The octets that the grader has read, first one first. -/
  taken : List UInt8 := []
  /-- What happens before each of the client's next turns. -/
  agenda : List (List Meanwhile) := []

namespace BusyLine

variable {η : Type}

def perform (line : BusyLine η) : Meanwhile → BusyLine η
  | .readerReads => { line with stream := (line.stream.read .client Connection.readSize).2 }
  | .graderReads limit =>
      let (result, stream) := line.stream.read .grader limit
      { line with stream, taken := line.taken ++ result.bytes }
  | .graderWrites octets => { line with stream := (line.stream.write .grader octets).2 }
  | .graderEndsWriting => { line with stream := line.stream.endWriting .grader }
  | .graderShutsDown => { line with stream := line.stream.shutDown .grader }
  | .graderCloses => { line with stream := line.stream.close .grader }
  | .clientCloses => { line with stream := line.stream.close .client }

/-- Several things happen one after the other. -/
def performAll (line : BusyLine η) (moves : List Meanwhile) : BusyLine η :=
  moves.foldl perform line

/-- What is on the agenda before the client's next turn happens. -/
def yieldTurn (line : BusyLine η) : BusyLine η :=
  match line.agenda with
  | [] => line
  | moves :: agenda => { line.performAll moves with agenda }

/-- Writes a command, after what happens before it. -/
def transmit (command : Command) (line : BusyLine η) : Except SystemError Unit × BusyLine η :=
  let line := line.yieldTurn
  let (answer, stream) := Connection.transmit command line.stream
  (answer, { line with stream })

instance [Surroundings η] : Surroundings (BusyLine η) where
  saveAll line :=
    let (answer, around) := Surroundings.saveAll line.around
    (answer, { line with around })
  transmit := transmit
  record event line := { line with around := Surroundings.record event line.around }

/-- Connects to a grader, unless the endpoint is refused. The stream is a new one. -/
def connect (refusal : Path → Option Failure) (path : Path) (line : BusyLine η) :
    Except Failure Unit × BusyLine η :=
  match refusal path with
  | some failure => (.error failure, line)
  | none => (.ok (), { line with stream := {}, taken := [] })

/-- Stops both directions at the client's end, after what happens before it. -/
def hangUp (line : BusyLine η) : BusyLine η :=
  { line.yieldTurn with stream := line.yieldTurn.stream.shutDown .client }

/-! ### What the grader can read -/

/-- The octets that the grader has read or can still read. -/
def reach (line : BusyLine η) : List UInt8 :=
  line.taken ++ (line.stream.endAt .grader).inbox

/-- What the grader can read begins these octets, and is all of them while the stream carries what
the client writes. -/
structure Carries (line : BusyLine η) (octets : List UInt8) : Prop where
  reach_begins : line.reach <+: octets
  reach_eq : line.stream.carriesFrom .client = true → line.reach = octets

variable {line line' : BusyLine η} {octets : List UInt8}

/-- Nothing is added to what the grader can read, and the stream is not opened again. -/
theorem Carries.of_shrinking (h : line.Carries octets) (shrinks : line'.reach <+: line.reach)
    (stays : line'.stream.carriesFrom .client = true →
      line.stream.carriesFrom .client = true ∧ line'.reach = line.reach) :
    line'.Carries octets where
  reach_begins := shrinks.trans h.reach_begins
  reach_eq := by
    intro carries
    obtain ⟨carried, same⟩ := stays carries
    rw [same, h.reach_eq carried]

/-- Nothing that others do on the line changes what the grader can read, but for closing an end. -/
theorem Carries.perform (h : line.Carries octets) (move : Meanwhile) :
    (line.perform move).Carries octets := by
  cases move with
  | readerReads =>
      have other := line.stream.endAt_other_read .client Connection.readSize
      have speaks := line.stream.speaks_read .client Connection.readSize
      have same : (line.perform .readerReads).reach = line.reach :=
        congrArg (fun e : StreamEnd => line.taken ++ e.inbox) other
      refine h.of_shrinking (same ▸ List.prefix_rfl) fun carries => ⟨?_, same⟩
      rwa [BusyLine.perform, Stream.carriesFrom, other, speaks] at carries
  | graderReads limit =>
      have other := line.stream.endAt_other_read .grader limit
      have listens := line.stream.listens_read .grader limit
      have same : (line.perform (.graderReads limit)).reach = line.reach := by
        simp only [BusyLine.perform, reach, List.append_assoc]
        rw [line.stream.bytes_append_inbox_read .grader limit]
      refine h.of_shrinking (same ▸ List.prefix_rfl) fun carries => ⟨?_, same⟩
      simp only [BusyLine.perform, Stream.carriesFrom, Side.other] at carries other ⊢
      rwa [other, listens] at carries
  | graderWrites written =>
      have self := line.stream.endAt_write .grader written
      have speaks := line.stream.speaks_write .grader written
      have same : (line.perform (.graderWrites written)).reach = line.reach :=
        congrArg (fun e : StreamEnd => line.taken ++ e.inbox) self
      refine h.of_shrinking (same ▸ List.prefix_rfl) fun carries => ⟨?_, same⟩
      simp only [BusyLine.perform, Stream.carriesFrom, Side.other] at carries speaks ⊢
      rwa [self, speaks] at carries
  | graderEndsWriting =>
      exact h.of_shrinking List.prefix_rfl fun carries => ⟨carries, rfl⟩
  | graderShutsDown =>
      refine h.of_shrinking List.prefix_rfl fun carries => ?_
      simp [BusyLine.perform, Stream.carriesFrom, Side.other] at carries
  | graderCloses =>
      refine h.of_shrinking ?_ fun carries => ?_
      · simp [BusyLine.perform, reach]
      · simp [BusyLine.perform, Stream.carriesFrom, Side.other] at carries
  | clientCloses =>
      refine h.of_shrinking ?_ fun carries => ?_
      · have other := line.stream.endAt_close_other .client
        simp only [Side.other] at other
        simp [BusyLine.perform, reach, other]
      · simp [BusyLine.perform, Stream.carriesFrom] at carries

theorem Carries.performAll (h : line.Carries octets) (moves : List Meanwhile) :
    (line.performAll moves).Carries octets := by
  induction moves generalizing line with
  | nil => exact h
  | cons move moves ih => exact ih (h.perform move)

theorem Carries.yieldTurn (h : line.Carries octets) : line.yieldTurn.Carries octets := by
  unfold BusyLine.yieldTurn
  split
  · exact h
  · rename_i moves agenda _
    exact ⟨(h.performAll moves).reach_begins, (h.performAll moves).reach_eq⟩

/-- A command that is tried is added to what the grader can read if the stream carries it, and never
again if it does not. -/
theorem Carries.transmit (h : line.Carries octets) (command : Command) :
    (BusyLine.transmit command line).2.Carries (octets ++ command.encode) := by
  have turn := h.yieldTurn
  simp only [BusyLine.transmit, Connection.transmit, Stream.write_eq]
  split
  · rename_i carries
    have reached := turn.reach_eq carries
    have added : ({ line.yieldTurn with
        stream := line.yieldTurn.stream.modify Side.client.other
          fun e => { e with inbox := e.inbox ++ command.encode } } : BusyLine η).reach =
        octets ++ command.encode := by
      rw [← reached]
      simp [reach, Side.other]
    exact ⟨added ▸ List.prefix_rfl, fun _ => added⟩
  · rename_i closed
    exact ⟨turn.reach_begins.trans (List.prefix_append _ _), fun carries => absurd carries closed⟩

theorem Carries.hangUp (h : line.Carries octets) : line.hangUp.Carries octets := by
  refine h.yieldTurn.of_shrinking List.prefix_rfl fun carries => ?_
  simp [BusyLine.hangUp, Stream.carriesFrom] at carries

end BusyLine

end ReviewChannel
