import ReviewChannel.Mailbox
import ReviewChannel.Proofs.Reading

/-!
What a connection puts on its channel, whatever happens on its stream.

* A `Reception` is a reader at its stream with the channel to which it delivers. `Reception.step` is
  one thing that the grader, the client, the receiver of the events or the reader does.
* `Reception.Faithful` — what was delivered, and how it compares with what the grader wrote;
  every step keeps it (`Faithful.step`).
* `Reception.run_reads` — reads one after the other deliver what `Connection.readAll` returns.
* `Reception.inbound_fidelity` — first the connection, then the payloads in order, then one last
  event: nothing is lost, repeated or reordered before it.
-/

namespace ReviewChannel

/-- A reader at its stream, and the channel to which it delivers. -/
structure Reception where
  stream : Stream := {}
  channel : Mailbox := {}
  /-- Whether the reader has stopped. -/
  stopped : Bool := false
  /-- The octets of the grader's writes that succeeded, first one first. -/
  written : List UInt8 := []

/-- Whether an event is the last one that a reader delivers. -/
def ConnectionEvent.IsTerminal (event : ConnectionEvent) : Prop :=
  event = .disconnected ∨ ∃ detail, event = .transportError detail

namespace Reception

/-- Something that happens to a reader or to its stream. -/
inductive Move where
  | graderWrites (octets : List UInt8)
  /-- The grader reads some of the client's octets. -/
  | graderReads (limit : Nat)
  | graderEndsWriting
  /-- The grader closes its end; the client's octets that it has not read are lost. -/
  | graderCloses
  | clientSends (command : Command)
  | clientCloses
  /-- Nobody takes events from the channel any more. -/
  | receiverDrops
  | reads
  /-- A signal interrupts the reader before anything was read. -/
  | interrupted
deriving DecidableEq, Repr

/-- Puts an event on the channel. The reader stops after the last one, and when nobody takes events
any more. -/
def deliver (r : Reception) : Connection.Delivery → Reception
  | .again => r
  | .more event =>
      let (taken, channel) := r.channel.post (.connection event)
      { r with channel, stopped := !taken }
  | .last event => { r with channel := (r.channel.post (.connection event)).2, stopped := true }

/-- A connection that has just been opened. -/
def opened (endpoint : Path) : Reception :=
  { channel := (Mailbox.post (.connection (.connected endpoint)) {}).2 }

/-- One step. A step that cannot be taken changes nothing. -/
def step (r : Reception) : Move → Reception
  | .graderWrites octets =>
      match r.stream.write .grader octets with
      | (.ok (), stream) => { r with stream, written := r.written ++ octets }
      | (.error _, stream) => { r with stream }
  | .graderReads limit => { r with stream := (r.stream.read .grader limit).2 }
  | .graderEndsWriting => { r with stream := r.stream.endWriting .grader }
  | .graderCloses => { r with stream := r.stream.close .grader }
  | .clientSends command => { r with stream := (Connection.transmit command r.stream).2 }
  | .clientCloses => { r with stream := r.stream.shutDown .client }
  | .receiverDrops => { r with channel := { r.channel with room := some 0 } }
  | .reads =>
      if r.stopped then r
      else
        { r with stream := (Connection.readOnce r.stream).2 }.deliver
          (Connection.readOnce r.stream).1
  | .interrupted => if r.stopped then r else r.deliver (Connection.deliver .interrupted)

/-- Several steps, one after the other. -/
def run (r : Reception) (moves : List Move) : Reception :=
  moves.foldl step r

theorem run_append (r : Reception) (before after : List Move) :
    r.run (before ++ after) = (r.run before).run after :=
  List.foldl_append

variable {r : Reception}

/-! ### What the channel takes -/

theorem post_attended {channel : Mailbox} (attended : channel.attended = true) (event : Event) :
    channel.post event =
      (true, { events := channel.events ++ [event], room := channel.room.map (· - 1) }) :=
  if_pos attended

theorem post_unattended {channel : Mailbox} (unattended : channel.attended = false)
    (event : Event) : channel.post event = (false, channel) :=
  if_neg (by simp [unattended])

/-- Nothing reaches a channel from which nobody takes events. -/
theorem channel_deliver_unattended (unattended : r.channel.attended = false)
    (delivery : Connection.Delivery) : (r.deliver delivery).channel = r.channel := by
  cases delivery with
  | again => rfl
  | more event => simp only [deliver, post_unattended unattended]
  | last event => simp only [deliver, post_unattended unattended]

/-- A reader that finds nobody to take its event stops. -/
theorem stopped_deliver_unattended (unattended : r.channel.attended = false)
    {delivery : Connection.Delivery} (found : delivery ≠ .again) :
    (r.deliver delivery).stopped = true := by
  cases delivery with
  | again => exact absurd rfl found
  | more event => simp only [deliver, post_unattended unattended, Bool.not_false]
  | last event => rfl

/-- Only a read and the loss of the receiver matter to the reader and its channel. -/
theorem reader_step (r : Reception) {move : Move} (notRead : move ≠ .reads)
    (kept : move ≠ .receiverDrops) :
    (r.step move).channel = r.channel ∧ (r.step move).stopped = r.stopped := by
  cases move with
  | reads => exact absurd rfl notRead
  | receiverDrops => exact absurd rfl kept
  | graderWrites octets =>
      rw [step]
      split <;> exact ⟨rfl, rfl⟩
  | interrupted =>
      rw [step]
      split <;> exact ⟨rfl, rfl⟩
  | graderReads | graderEndsWriting | graderCloses | clientSends | clientCloses =>
      exact ⟨rfl, rfl⟩

/-- Once nobody takes events from a channel, it stays as it is. -/
theorem channel_step_unattended (unattended : r.channel.attended = false) (move : Move) :
    (r.step move).channel.events = r.channel.events ∧
      (r.step move).channel.attended = false := by
  by_cases read : move = .reads
  · subst read
    rw [step]
    split
    · exact ⟨rfl, unattended⟩
    · have same := channel_deliver_unattended
        (r := { r with stream := (Connection.readOnce r.stream).2 }) unattended
        (Connection.readOnce r.stream).1
      exact ⟨congrArg Mailbox.events same, (congrArg Mailbox.attended same).trans unattended⟩
  · by_cases dropped : move = .receiverDrops
    · subst dropped
      exact ⟨rfl, rfl⟩
    · obtain ⟨channel, -⟩ := r.reader_step read dropped
      rw [channel]
      exact ⟨rfl, unattended⟩

/-- A reader that has stopped delivers nothing more. -/
theorem channel_step_stopped (stopped : r.stopped = true) (move : Move) :
    (r.step move).channel.events = r.channel.events ∧ (r.step move).stopped = true := by
  by_cases read : move = .reads
  · subst read
    rw [step, if_pos stopped]
    exact ⟨rfl, stopped⟩
  · by_cases dropped : move = .receiverDrops
    · subst dropped
      exact ⟨rfl, stopped⟩
    · obtain ⟨channel, stays⟩ := r.reader_step read dropped
      rw [channel, stays]
      exact ⟨rfl, stopped⟩

theorem channel_run_unattended (unattended : r.channel.attended = false) (moves : List Move) :
    (r.run moves).channel.events = r.channel.events ∧
      (r.run moves).channel.attended = false := by
  let P (later : Reception) : Prop :=
    later.channel.events = r.channel.events ∧ later.channel.attended = false
  refine List.foldlRecOn (motive := P) moves step ⟨rfl, unattended⟩ fun later holds move _ => ?_
  obtain ⟨same, still⟩ := channel_step_unattended holds.2 move
  exact ⟨same.trans holds.1, still⟩

theorem channel_run_stopped (stopped : r.stopped = true) (moves : List Move) :
    (r.run moves).channel.events = r.channel.events ∧ (r.run moves).stopped = true := by
  let P (later : Reception) : Prop :=
    later.channel.events = r.channel.events ∧ later.stopped = true
  refine List.foldlRecOn (motive := P) moves step ⟨rfl, stopped⟩ fun later holds move _ => ?_
  obtain ⟨same, still⟩ := channel_step_stopped holds.2 move
  exact ⟨same.trans holds.1, still⟩

/-! ### Reads at one go -/

/-- Moves that change nothing change nothing however often they are made. -/
theorem run_replicate {move : Move} (same : r.step move = r) (n : Nat) :
    r.run (List.replicate n move) = r := by
  induction n with
  | zero => rfl
  | succ n ih =>
      rw [List.replicate_succ, run, List.foldl_cons, same]
      exact ih

/-- What a reader takes from the stream at one go is what it delivers read by read. -/
theorem run_reads (reads : Nat) (room : r.channel.room = none) (going : r.stopped = false) :
    (r.run (List.replicate reads .reads)).channel.events =
        r.channel.events ++ (Connection.readAll reads r.stream).1.map .connection ∧
      (r.run (List.replicate reads .reads)).stopped = (Connection.readAll reads r.stream).2.1 ∧
      (r.run (List.replicate reads .reads)).stream = (Connection.readAll reads r.stream).2.2 := by
  induction reads generalizing r with
  | zero => exact ⟨(List.append_nil _).symm, going, rfl⟩
  | succ reads ih =>
      have attended : r.channel.attended = true := by simp [Mailbox.attended, room]
      have first : r.step .reads = { r with stream := (Connection.readOnce r.stream).2 }.deliver
          (Connection.readOnce r.stream).1 := by
        rw [step, if_neg (by simp [going])]
      rw [List.replicate_succ, run, List.foldl_cons, Connection.readAll]
      cases got : Connection.readOnce r.stream with
      | mk delivery s =>
          rw [got] at first
          cases delivery with
          | more event =>
              simp only [deliver, post_attended attended] at first
              obtain ⟨events, stopped, stream⟩ := ih (r := r.step .reads)
                (by simp [first, room]) (by simp [first])
              rw [run] at events stopped stream
              rw [events, stopped, stream, first]
              exact ⟨by simp, rfl, rfl⟩
          | last event =>
              simp only [deliver, post_attended attended] at first
              have ended : (r.step .reads).stopped = true := by rw [first]
              have halted : (r.step .reads).step .reads = r.step .reads := if_pos ended
              have rest := run_replicate halted reads
              rw [run] at rest
              rw [rest, first]
              exact ⟨rfl, rfl, rfl⟩
          | again =>
              have same : (Connection.readOnce r.stream).2 = r.stream :=
                Connection.readOnce_again (congrArg Prod.fst got)
              rw [got] at same
              obtain rfl : s = r.stream := same
              have idle : r.step .reads = r := first
              have rest := run_replicate idle reads
              rw [run] at rest
              rw [idle, rest]
              exact ⟨(List.append_nil _).symm, going, rfl⟩
/-! ### What was delivered -/

/-- The connection, some payloads and a last event, in this order. -/
def delivered (endpoint : Path) (payloads : List (List UInt8)) (last : Option ConnectionEvent) :
    List ConnectionEvent :=
  .connected endpoint :: payloads.map .payload ++ last.toList

/-- The reader has delivered the connection, these payloads and this last event. Together with what
it has not read they are what the grader wrote, as long as somebody took every event. -/
structure Faithful (endpoint : Path) (r : Reception) (payloads : List (List UInt8))
    (last : Option ConnectionEvent) : Prop where
  events_eq : r.channel.events =
    (delivered endpoint payloads last).map .connection
  sized : ∀ octets ∈ payloads, octets ≠ [] ∧ octets.length ≤ Connection.readSize
  terminal : ∀ event ∈ last, event.IsTerminal
  begins : payloads.flatten <+: r.written
  unread : r.channel.attended = true → r.written = payloads.flatten ++ r.stream.client.inbox
  goes_on : r.stopped = false → last = none
  stopped : r.stopped = true → last.isSome = true ∨ r.channel.attended = false
  complete : last.isSome = true → r.stream.client.listens = true →
    r.stream.grader.speaks = false ∧ payloads.flatten = r.written
  reset : r.stream.client.reset = true → r.stream.grader.speaks = false

variable {endpoint : Path} {payloads : List (List UInt8)} {last : Option ConnectionEvent}

/-- What leaves the reader, the queue in front of it and the grader's writes alone. -/
theorem Faithful.of_stream (h : r.Faithful endpoint payloads last) {s : Stream}
    (inbox : s.client.inbox = r.stream.client.inbox)
    (listens : s.client.listens = true → r.stream.client.listens = true)
    (speaks : r.stream.grader.speaks = false → s.grader.speaks = false)
    (reset : s.client.reset = true → s.grader.speaks = false) :
    Faithful endpoint { r with stream := s } payloads last where
  events_eq := h.events_eq
  sized := h.sized
  terminal := h.terminal
  begins := h.begins
  unread attended := inbox ▸ h.unread attended
  goes_on := h.goes_on
  stopped := h.stopped
  complete done open_ := by
    obtain ⟨silent, all⟩ := h.complete done (listens open_)
    exact ⟨speaks silent, all⟩
  reset := reset

/-- A write that succeeds is added to the queue of the reader, which has not stopped for good. -/
theorem Faithful.write (h : r.Faithful endpoint payloads last) (octets : List UInt8) :
    (r.step (.graderWrites octets)).Faithful endpoint payloads last := by
  rw [step, Stream.write_eq]
  cases carries : r.stream.carriesFrom .grader with
  | true =>
      obtain ⟨speaks, listens⟩ := Bool.and_eq_true_iff.mp carries
      have goesOn (done : last.isSome = true) : False := by
        have silent := (h.complete done listens).1
        rw [show r.stream.grader.speaks = true from speaks] at silent
        cases silent
      refine ⟨h.events_eq, h.sized, h.terminal, h.begins.trans (List.prefix_append _ _), ?_,
        h.goes_on, h.stopped, fun done _ => (goesOn done).elim, h.reset⟩
      intro attended
      have unread := h.unread attended
      simp only [if_true, unread, List.append_assoc]
      rfl
  | false =>
      cases octets with
      | nil =>
          have same : { r with written := r.written ++ [] } = r := by rw [List.append_nil]
          simp only [Bool.false_eq_true, if_false, List.isEmpty_nil, if_true, same]
          exact h
      | cons b rest =>
          simp only [Bool.false_eq_true, if_false, List.isEmpty_cons]
          exact h

/-- A payload that somebody takes is the front of what was not delivered. -/
theorem Faithful.more (h : r.Faithful endpoint payloads none)
    (nonempty : r.stream.client.inbox ≠ []) :
    ∃ payloads, ({ r with stream := r.stream.modify .client fun e =>
        { e with inbox := r.stream.client.inbox.drop Connection.readSize } }.deliver
      (.more (.payload (r.stream.client.inbox.take Connection.readSize)))).Faithful endpoint
        payloads none := by
  cases attended : r.channel.attended with
  | true =>
      have unread : r.written =
          (payloads ++ [r.stream.client.inbox.take Connection.readSize]).flatten ++
            r.stream.client.inbox.drop Connection.readSize := by
        rw [List.flatten_append, List.flatten_singleton, List.append_assoc, List.take_append_drop,
          h.unread attended]
      refine ⟨payloads ++ [r.stream.client.inbox.take Connection.readSize], ?_⟩
      simp only [deliver, post_attended attended]
      refine ⟨?_, ?_, by simp, unread ▸ List.prefix_append _ _, fun _ => unread, fun _ => rfl,
        by simp, by simp, h.reset⟩
      · simp [h.events_eq, delivered]
      · intro octets mem
        rw [List.mem_append, List.mem_singleton] at mem
        rcases mem with earlier | rfl
        · exact h.sized octets earlier
        · refine ⟨?_, List.length_take_le ..⟩
          simpa [Connection.readSize] using nonempty
  | false =>
      refine ⟨payloads, ?_⟩
      simp only [deliver, post_unattended attended]
      exact ⟨h.events_eq, h.sized, h.terminal, h.begins,
        fun taken => absurd (attended.symm.trans taken) Bool.false_ne_true, by simp,
        fun _ => Or.inr attended, by simp, h.reset⟩

/-- The last event is delivered when nothing is left to be read and the grader has stopped
writing. -/
theorem Faithful.finish (h : r.Faithful endpoint payloads none) {s : Stream}
    {event : ConnectionEvent} (terminal : event.IsTerminal) (empty : r.stream.client.inbox = [])
    (inbox : s.client.inbox = [])
    (silent : s.client.listens = true → s.grader.speaks = false)
    (reset : s.client.reset = true → s.grader.speaks = false) :
    ∃ last, ({ r with stream := s }.deliver (.last event)).Faithful endpoint payloads last := by
  cases attended : r.channel.attended with
  | true =>
      have all : r.written = payloads.flatten := by
        rw [h.unread attended, empty, List.append_nil]
      refine ⟨some event, ?_⟩
      simp only [deliver, post_attended attended]
      refine ⟨?_, h.sized, by simpa using terminal, h.begins, fun _ => ?_, by simp, by simp,
        fun _ listens => ⟨silent listens, all.symm⟩, reset⟩
      · simp [h.events_eq, delivered]
      · rw [all, inbox, List.append_nil]
  | false =>
      refine ⟨none, ?_⟩
      simp only [deliver, post_unattended attended]
      exact ⟨h.events_eq, h.sized, h.terminal, h.begins,
        fun taken => absurd (attended.symm.trans taken) Bool.false_ne_true, by simp,
        fun _ => Or.inr attended, by simp, reset⟩

/-- A read delivers the front of the queue, or the queue is empty and the reader stops or waits. -/
theorem Faithful.read (h : r.Faithful endpoint payloads last) :
    ∃ payloads last, (r.step .reads).Faithful endpoint payloads last := by
  rw [step]
  split
  · exact ⟨payloads, last, h⟩
  · rename_i going
    obtain rfl : last = none := h.goes_on (by simpa using going)
    unfold Connection.readOnce
    rcases r.stream.read_cases .client Connection.readSize with
      ⟨nonempty, read⟩ | ⟨empty, noticed, read⟩ | ⟨empty, dry, read⟩ | ⟨empty, -, read⟩
    · rw [read]
      obtain ⟨payloads, more⟩ := h.more nonempty
      exact ⟨payloads, none, more⟩
    · rw [read]
      have silent := h.reset noticed
      have terminal :
          (ConnectionEvent.transportError SystemError.connectionReset.message).IsTerminal :=
        Or.inr ⟨_, rfl⟩
      obtain ⟨last, finished⟩ := h.finish
        (s := r.stream.modify .client fun e => { e with reset := false }) terminal empty
        empty (fun _ => silent) (fun again => absurd again Bool.false_ne_true)
      exact ⟨payloads, last, finished⟩
    · rw [read]
      have silent (listens : r.stream.client.listens = true) : r.stream.grader.speaks = false := by
        simpa [Side.other, Stream.endAt, listens] using dry
      have terminal : ConnectionEvent.disconnected.IsTerminal := Or.inl rfl
      obtain ⟨last, finished⟩ := h.finish terminal empty empty silent h.reset
      exact ⟨payloads, last, finished⟩
    · rw [read]
      exact ⟨payloads, none, h⟩

/-- Whatever happens, the reader has delivered a beginning of what the grader wrote. -/
theorem Faithful.step (h : r.Faithful endpoint payloads last) (move : Move) :
    ∃ payloads last, (r.step move).Faithful endpoint payloads last := by
  cases move with
  | reads => exact h.read
  | graderWrites octets => exact ⟨payloads, last, h.write octets⟩
  | graderReads limit =>
      have other := r.stream.endAt_other_read .grader limit
      have speaks := r.stream.speaks_read .grader limit
      simp only [Side.other, Stream.endAt] at other speaks
      refine ⟨payloads, last, h.of_stream ?_ ?_ ?_ ?_⟩
      · rw [other]
      · rw [other]
        exact id
      · rw [speaks]
        exact id
      · rw [other, speaks]
        exact h.reset
  | graderEndsWriting =>
      exact ⟨payloads, last, h.of_stream rfl id (fun _ => rfl) fun _ => rfl⟩
  | graderCloses => exact ⟨payloads, last, h.of_stream rfl id (fun _ => rfl) fun _ => rfl⟩
  | clientSends command =>
      have self := r.stream.endAt_write .client command.encode
      have speaks := r.stream.speaks_write .client command.encode
      simp only [Side.other, Stream.endAt] at self speaks
      refine ⟨payloads, last, h.of_stream ?_ ?_ ?_ ?_⟩
      · rw [Connection.transmit, self]
      · rw [Connection.transmit, self]
        exact id
      · rw [Connection.transmit, speaks]
        exact id
      · rw [Connection.transmit, self, speaks]
        exact h.reset
  | clientCloses =>
      exact ⟨payloads, last,
        h.of_stream rfl (fun open_ => absurd open_ Bool.false_ne_true) id h.reset⟩
  | receiverDrops =>
      exact ⟨payloads, last, h.events_eq, h.sized, h.terminal, h.begins,
        fun taken => absurd taken (by simp [Reception.step, Mailbox.attended]), h.goes_on,
        fun _ => Or.inr rfl, h.complete, h.reset⟩
  | interrupted =>
      refine ⟨payloads, last, ?_⟩
      rw [Reception.step]
      split <;> exact h

theorem Faithful.run (h : r.Faithful endpoint payloads last) (moves : List Move) :
    ∃ payloads last, (r.run moves).Faithful endpoint payloads last := by
  let P (r : Reception) : Prop := ∃ payloads last, r.Faithful endpoint payloads last
  refine List.foldlRecOn (motive := P) moves Reception.step ⟨payloads, last, h⟩
    fun r faithful move _ => ?_
  obtain ⟨payloads, last, h⟩ := faithful
  exact h.step move

theorem opened_faithful (endpoint : Path) : (opened endpoint).Faithful endpoint [] none :=
  ⟨rfl, by simp, by simp, List.prefix_rfl, fun _ => rfl, fun _ => rfl,
    fun stopped => absurd stopped Bool.false_ne_true, by simp,
    fun reset => absurd reset Bool.false_ne_true⟩

/-! ### Until the end -/

/-- Delivering an event leaves the stream alone, and whether anybody takes events. -/
theorem deliver_frame (delivery : Connection.Delivery) :
    (r.deliver delivery).stream = r.stream ∧
      (r.channel.room = none → (r.deliver delivery).channel.room = none) := by
  unfold deliver Mailbox.post
  cases delivery with
  | again => exact ⟨rfl, id⟩
  | more event | last event =>
      refine ⟨rfl, fun unbounded => ?_⟩
      dsimp only
      split <;> simp [unbounded]

/-- The client's end listens until the client closes it. -/
theorem listens_run {moves : List Move} (open_ : Move.clientCloses ∉ moves)
    (listens : r.stream.client.listens = true) : (r.run moves).stream.client.listens = true := by
  refine List.foldlRecOn (motive := fun r : Reception => r.stream.client.listens = true) moves step
    listens fun r listens move mem => ?_
  cases move with
  | clientCloses => exact absurd mem open_
  | graderWrites octets =>
      rw [step, Stream.write_eq]
      cases r.stream.carriesFrom .grader <;> cases octets <;> exact listens
  | graderReads limit =>
      exact (congrArg StreamEnd.listens (r.stream.endAt_other_read .grader limit)).trans listens
  | graderEndsWriting => exact listens
  | graderCloses => exact listens
  | clientSends command =>
      exact (congrArg StreamEnd.listens
        (r.stream.endAt_write .client command.encode)).trans listens
  | receiverDrops => exact listens
  | reads =>
      rw [step]
      split
      · exact listens
      · rw [deliver_frame _ |>.1]
        exact (r.stream.listens_read .client Connection.readSize).trans listens
  | interrupted =>
      rw [step]
      split <;> exact listens

/-- A channel without a bound stays without one until its receiver is dropped. -/
theorem room_run {moves : List Move} (kept : Move.receiverDrops ∉ moves)
    (room : r.channel.room = none) : (r.run moves).channel.room = none := by
  refine List.foldlRecOn (motive := fun r : Reception => r.channel.room = none) moves step
    room fun r room move mem => ?_
  by_cases read : move = .reads
  · subst read
    rw [step]
    split
    · exact room
    · exact (deliver_frame _).2 room
  · have stays : move ≠ .receiverDrops := by
      rintro rfl
      exact kept mem
    exact (congrArg Mailbox.room (r.reader_step read stays).1).trans room

/-- Once the grader has stopped writing, the reader stops after at most one more read than there
are octets left. -/
theorem stopped_of_reads {reads : Nat} (silent : r.stream.grader.speaks = false)
    (enough : r.stream.client.inbox.length < reads) :
    (r.run (List.replicate reads .reads)).stopped = true := by
  induction reads generalizing r with
  | zero => exact absurd enough (Nat.not_lt_zero _)
  | succ reads ih =>
      cases stopped : r.stopped with
      | true => exact (channel_run_stopped stopped _).2
      | false =>
          have first : r.step .reads = { r with stream := (Connection.readOnce r.stream).2 }.deliver
              (Connection.readOnce r.stream).1 := by
            rw [step, if_neg (by simp [stopped])]
          unfold Connection.readOnce at first
          rcases r.stream.read_cases .client Connection.readSize with
            ⟨nonempty, read⟩ | ⟨-, -, read⟩ | ⟨-, -, read⟩ | ⟨-, more, read⟩
          · rw [read] at first
            have stream := congrArg Reception.stream first
            rw [(deliver_frame _).1] at stream
            refine ih ?_ ?_
            · rw [stream]
              exact silent
            · have shorter : (r.step .reads).stream.client.inbox =
                  r.stream.client.inbox.drop Connection.readSize := by
                rw [stream]
                rfl
              have some := List.length_pos_iff.mpr nonempty
              rw [shorter, List.length_drop, Connection.readSize]
              simp only [Stream.endAt] at some
              omega
          · rw [read] at first
            exact (channel_run_stopped (r := r.step .reads) (first ▸ rfl) _).2
          · rw [read] at first
            exact (channel_run_stopped (r := r.step .reads) (first ▸ rfl) _).2
          · simp [Side.other, Stream.endAt, silent] at more

/-- Nobody takes events from a channel whose receiver was dropped. -/
theorem unattended_of_dropped {moves : List Move} (dropped : Move.receiverDrops ∈ moves) :
    (r.run moves).channel.attended = false := by
  obtain ⟨before, after, rfl⟩ := List.append_of_mem dropped
  have gone : ((r.run before).step .receiverDrops).channel.attended = false := rfl
  rw [run_append]
  exact (channel_run_unattended gone after).2

/-- A reader whose grader has stopped writing and whose receiver is there delivers a last event. -/
theorem Faithful.exists_terminal (h : r.Faithful endpoint payloads last)
    (room : r.channel.room = none) (silent : r.stream.grader.speaks = false) :
    ∃ event, event.IsTerminal ∧ .connection event ∈
      (r.run (List.replicate (r.stream.client.inbox.length + 1) .reads)).channel.events := by
  have stopped := stopped_of_reads silent (Nat.lt_succ_self r.stream.client.inbox.length)
  have never : Move.receiverDrops ∉
      List.replicate (r.stream.client.inbox.length + 1) Move.reads := by simp
  have open_ := room_run never room
  obtain ⟨payloads, last, h⟩ :=
    h.run (List.replicate (r.stream.client.inbox.length + 1) Move.reads)
  have there : last.isSome = true := by
    refine (h.stopped stopped).resolve_right fun unattended => ?_
    simp [Mailbox.attended, open_] at unattended
  obtain ⟨event, rfl⟩ := Option.isSome_iff_exists.mp there
  refine ⟨event, h.terminal event rfl, ?_⟩
  rw [h.events_eq]
  simp [delivered]

/-- A reader puts the connection on its channel, then payloads that are neither empty nor longer
than a read, and then at most one last event. The payloads are a beginning of what the grader wrote,
and all of it once the last event is there, unless the client has closed. The last event comes if
the grader stops writing and the reader goes on. If nobody takes events any more, the channel stays
as it is and the reader stops with the next thing it finds. -/
theorem inbound_fidelity (endpoint : Path) (moves : List Move) :
    let r := (opened endpoint).run moves
    ∃ (payloads : List (List UInt8)) (last : Option ConnectionEvent),
      r.channel.events = (delivered endpoint payloads last).map .connection ∧
      (∀ octets ∈ payloads, octets ≠ [] ∧ octets.length ≤ 4096) ∧
      (∀ event ∈ last, event.IsTerminal) ∧
      payloads.flatten <+: r.written ∧
      (last.isSome = true → Move.clientCloses ∉ moves → payloads.flatten = r.written) ∧
      (last.isSome = true → ∀ later, (r.run later).channel.events = r.channel.events) ∧
      (Move.receiverDrops ∉ moves → r.stream.grader.speaks = false →
        ∃ event, event.IsTerminal ∧ .connection event ∈ (r.run (List.replicate
          (r.stream.client.inbox.length + 1) .reads)).channel.events) ∧
      (Move.receiverDrops ∈ moves →
        (∀ later, (r.run later).channel.events = r.channel.events) ∧
          ((Connection.readOnce r.stream).1 ≠ .again → (r.step .reads).stopped = true)) := by
  intro r
  obtain ⟨payloads, last, h⟩ := (opened_faithful endpoint).run moves
  refine ⟨payloads, last, h.events_eq, h.sized, h.terminal, h.begins, fun done open_ => ?_,
    fun done later => ?_, fun kept => h.exists_terminal (room_run kept rfl), fun dropped => ?_⟩
  · exact (h.complete done (listens_run open_ rfl)).2
  · have stopped : r.stopped = true := by
      cases going : r.stopped with
      | true => rfl
      | false =>
          rw [h.goes_on going] at done
          cases done
    exact (channel_run_stopped stopped later).1
  · have unattended : r.channel.attended = false := unattended_of_dropped dropped
    refine ⟨fun later => (channel_run_unattended unattended later).1, fun found => ?_⟩
    rw [step]
    split
    · assumption
    · exact stopped_deliver_unattended
        (r := { r with stream := (Connection.readOnce r.stream).2 }) unattended found

end Reception

end ReviewChannel
