import Mathlib.Data.List.DropRight
import ReviewChannel.Proofs.IllFormed
import ReviewChannel.Proofs.Lines
import ReviewChannel.TriggerSource

/-!
What a source of triggers sends.

* `TriggerSource.Decides` — a line that asks to shut down: it is no text, or one of two words
  between blanks. `TriggerSource.isLast_eq_true_iff` — the source stops at such a line, and at no
  other.
* `TriggerSource.Cut` — the lines of an input before the first that decides, and the lines from that
  one on. Every input is cut so, in one way only (`TriggerSource.cut_iff`).
* `TriggerSource.sendAll` — events that are sent in order, up to one that is not taken. A source
  sends a trigger for each line before the cut and then the shutdown (`TriggerSource.pumpLines_eq`).
* `TriggerSource.pump_by_lines` — what is sent, for every input and every receiver.
-/

namespace ReviewChannel

/-! ### Text between blanks -/

/-- A text is what is trimmed from it between blanks. -/
theorem exists_eq_append_trimBlank (text : List Char) :
    ∃ front back, (∀ c ∈ front, isBlank c = true) ∧ (∀ c ∈ back, isBlank c = true) ∧
      text = front ++ trimBlank text ++ back := by
  refine ⟨text.takeWhile isBlank, (text.dropWhile isBlank).rtakeWhile isBlank,
    fun c mem => List.mem_takeWhile_imp mem, fun c mem => List.mem_rtakeWhile_imp mem, ?_⟩
  have trimmed : trimBlank text = (text.dropWhile isBlank).rdropWhile isBlank := rfl
  rw [trimmed, List.append_assoc, List.rdropWhile_append_rtakeWhile,
    List.takeWhile_append_dropWhile]

/-- A word that has no blanks at its ends is what is trimmed from it between blanks. -/
theorem trimBlank_append {front word back : List Char} (blankFront : ∀ c ∈ front, isBlank c = true)
    (blankBack : ∀ c ∈ back, isBlank c = true) (nonempty : word ≠ [])
    (head : ∀ c ∈ word.head?, isBlank c = false) (last : ∀ c ∈ word.getLast?, isBlank c = false) :
    trimBlank (front ++ word ++ back) = word := by
  have kept {word : List Char} (nonempty : word ≠ []) (head : ∀ c ∈ word.head?, isBlank c = false)
      (back : List Char) : (word ++ back).dropWhile isBlank = word ++ back := by
    obtain ⟨c, rest, rfl⟩ := List.exists_cons_of_ne_nil nonempty
    exact List.dropWhile_cons_of_neg (by simp [head c rfl])
  have unblank : ∀ c ∈ word.reverse.head?, isBlank c = false := by
    rwa [List.head?_reverse]
  rw [trimBlank, List.append_assoc, List.dropWhile_append_of_pos blankFront, kept nonempty head,
    List.reverse_append, List.dropWhile_append_of_pos (by simpa using blankBack),
    ← List.append_nil word.reverse, kept (by simpa using nonempty) unblank, List.append_nil,
    List.reverse_reverse]

namespace TriggerSource

/-! ### Lines that decide -/

/-- The words that ask to shut down. -/
def stopWords : List String :=
  ["q", "quit"]

/-- A line asks to shut down: it is no text, or a word for it between blanks. -/
inductive Decides (line : List UInt8) : Prop where
  | noText (noText : ∀ text, line ≠ Utf8.encode text)
  | word {front back : List Char} {word : String} (mem : word ∈ stopWords)
      (blankFront : ∀ c ∈ front, isBlank c = true) (blankBack : ∀ c ∈ back, isBlank c = true)
      (spelled : line = Utf8.encodeChars (front ++ word.toList ++ back))

theorem trimBlank_stopWord {front back : List Char} {word : String} (mem : word ∈ stopWords)
    (blankFront : ∀ c ∈ front, isBlank c = true) (blankBack : ∀ c ∈ back, isBlank c = true) :
    trimBlank (front ++ word.toList ++ back) = word.toList := by
  have ends : word.toList ≠ [] ∧ (∀ c ∈ word.toList.head?, isBlank c = false) ∧
      ∀ c ∈ word.toList.getLast?, isBlank c = false := by
    simp only [stopWords, List.mem_cons, List.not_mem_nil, or_false] at mem
    rcases mem with rfl | rfl <;> simp [isBlank]
  exact trimBlank_append blankFront blankBack ends.1 ends.2.1 ends.2.2

/-- A source stops at the lines that ask to shut down. -/
theorem isLast_eq_true_iff {line : List UInt8} : isLast line = true ↔ Decides line := by
  have stops {text : String} : isLast (Utf8.encode text) = true ↔
      String.ofList (trimBlank text.toList) ∈ stopWords := by
    simp [isLast, Utf8.decode?_encode, stopWords]
  constructor
  · intro last
    cases read : Utf8.decode? line with
    | none => exact .noText (Utf8.decode?_eq_none_iff.mp read)
    | some text =>
        obtain rfl := Utf8.decode?_eq_some_iff.mp read
        obtain ⟨front, back, blankFront, blankBack, eq⟩ := exists_eq_append_trimBlank text.toList
        refine .word (stops.mp last) blankFront blankBack ?_
        rw [String.toList_ofList, ← eq, Utf8.encode]
  · rintro (noText | ⟨mem, blankFront, blankBack, rfl⟩)
    · simp [isLast, Utf8.decode?_eq_none_iff.mpr noText]
    · rename_i front back word
      have text : Utf8.encodeChars (front ++ word.toList ++ back) =
          Utf8.encode (String.ofList (front ++ word.toList ++ back)) := by
        rw [Utf8.encode, String.toList_ofList]
      rwa [text, stops, String.toList_ofList, trimBlank_stopWord mem blankFront blankBack,
        String.ofList_toList]

theorem isLast_eq_false_iff {line : List UInt8} : isLast line = false ↔ ¬ Decides line := by
  rw [← isLast_eq_true_iff, Bool.not_eq_true]

/-! ### Where an input is cut -/

/-- Octets come to lines that do not ask to shut down, and then to none, or to one that does and
whatever follows it. -/
structure Cut (octets : List UInt8) (front rest : List (List UInt8)) : Prop where
  splits : Splits octets (front ++ rest)
  undecided : ∀ line ∈ front, ¬ Decides line
  decided : ∀ line ∈ rest.head?, Decides line

/-- Every input is cut in one way only. -/
theorem cut_iff {octets : List UInt8} {front rest : List (List UInt8)} :
    Cut octets front rest ↔ front = (linesOf octets).takeWhile (fun line => !isLast line) ∧
      rest = (linesOf octets).dropWhile (fun line => !isLast line) := by
  constructor
  · rintro ⟨splits, undecided, decided⟩
    have passed : ∀ line ∈ front, (!isLast line) = true := fun line mem => by
      simpa [isLast_eq_false_iff] using undecided line mem
    rw [linesOf_eq_iff.mpr splits, List.takeWhile_append_of_pos passed,
      List.dropWhile_append_of_pos passed]
    cases rest with
    | nil => simp
    | cons line later =>
        have last := isLast_eq_true_iff.mpr (decided line rfl)
        simp [last]
  · rintro ⟨rfl, rfl⟩
    refine ⟨?_, fun line mem => ?_, fun line head => ?_⟩
    · rw [List.takeWhile_append_dropWhile]
      exact splits_linesOf octets
    · have passed := List.mem_takeWhile_imp mem
      simpa [isLast_eq_false_iff] using passed
    · have stopped := List.head?_dropWhile_not (fun line => !isLast line) (linesOf octets)
      rw [Option.mem_def.mp head] at stopped
      exact isLast_eq_true_iff.mp (by simpa using stopped)

theorem exists_cut (octets : List UInt8) : ∃ front rest, Cut octets front rest :=
  ⟨_, _, cut_iff.mpr ⟨rfl, rfl⟩⟩

/-- The lines from the cut on can be followed by any others. -/
theorem Cut.append {before : List UInt8} {front rest : List (List UInt8)}
    (cut : Cut (before ++ [lineFeed]) front rest) (decided : rest ≠ []) (after : List UInt8) :
    Cut (before ++ lineFeed :: after) front (rest ++ linesOf after) := by
  refine ⟨?_, cut.undecided, fun line head => cut.decided line ?_⟩
  · rw [← linesOf_eq_iff, linesOf_append, linesOf_eq_iff.mpr cut.splits, List.append_assoc]
  · rwa [List.head?_append_of_ne_nil _ decided] at head

/-! ### What is sent -/

variable {Receiver : Type} {post : Event → Receiver → Bool × Receiver}

/-- Sends events in order, up to one that is not taken. -/
def sendAll (post : Event → Receiver → Bool × Receiver) : List Event → Receiver → Receiver
  | [], receiver => receiver
  | event :: later, receiver =>
      match post event receiver with
      | (true, receiver) => sendAll post later receiver
      | (false, receiver) => receiver

/-- What a source sends: a trigger for each line before the cut, and the shutdown. -/
def sent (front : List (List UInt8)) : List Event :=
  List.replicate front.length .trigger ++ [.shutdown]

theorem sendAll_shutdown (receiver : Receiver) :
    sendAll post [.shutdown] receiver = (post .shutdown receiver).2 := by
  rw [sendAll]
  split <;> simp [sendAll, *]

/-- A source sends in order what the lines before the cut come to. The induction is on these
lines. -/
theorem pumpLines_eq {front rest : List (List UInt8)} (undecided : ∀ line ∈ front, ¬ Decides line)
    (decided : ∀ line ∈ rest.head?, Decides line) (receiver : Receiver) :
    pumpLines post (front ++ rest) receiver = sendAll post (sent front) receiver := by
  induction front generalizing receiver with
  | nil =>
      rw [List.nil_append, sent, List.length_nil, List.replicate_zero, List.nil_append,
        sendAll_shutdown]
      cases rest with
      | nil => rfl
      | cons line later => rw [pumpLines, if_pos (isLast_eq_true_iff.mpr (decided line rfl))]
  | cons line front ih =>
      have passed : ¬ isLast line = true := by
        simpa [isLast_eq_false_iff] using undecided line (List.mem_cons_self ..)
      have next : sent (line :: front) = .trigger :: sent front := rfl
      rw [List.cons_append, pumpLines, if_neg passed, next, sendAll]
      obtain ⟨taken, after⟩ := post .trigger receiver
      cases taken with
      | true => exact ih (fun line mem => undecided line (List.mem_cons_of_mem _ mem)) after
      | false => rfl

theorem Cut.pumpLines_eq {octets : List UInt8} {front rest : List (List UInt8)}
    (cut : Cut octets front rest) (receiver : Receiver) :
    pumpLines post (linesOf octets) receiver = sendAll post (sent front) receiver := by
  rw [linesOf_eq_iff.mpr cut.splits, TriggerSource.pumpLines_eq cut.undecided cut.decided]

/-! ### What is taken -/

/-- A queue in front of a client that goes on listening takes all that is sent. -/
theorem sendAll_of_live (events : List Event) {m : Mailbox} (live : m.room = none) :
    sendAll Mailbox.post events m = { m with events := m.events ++ events } := by
  induction events generalizing m with
  | nil => simp [sendAll]
  | cons event later ih =>
      have taken : m.post event = (true, { m with events := m.events ++ [event] }) := by
        simp [Mailbox.post, Mailbox.attended, live]
      simp only [sendAll, taken]
      rw [ih (by exact live), List.append_assoc, List.singleton_append]

/-- A queue in front of a client that stops listening takes what comes before. -/
theorem sendAll_of_room (events : List Event) {m : Mailbox} {r : Nat} (left : m.room = some r) :
    sendAll Mailbox.post events m =
      { events := m.events ++ events.take r, room := some (r - events.length) } := by
  induction events generalizing m r with
  | nil => simp [sendAll, ← left]
  | cons event later ih =>
      cases r with
      | zero =>
          have refused : m.post event = (false, m) := by
            simp [Mailbox.post, Mailbox.attended, left]
          simp [sendAll, refused, ← left]
      | succ r =>
          have taken : m.post event =
              (true, { events := m.events ++ [event], room := some r }) := by
            simp [Mailbox.post, Mailbox.attended, left]
          simp only [sendAll, taken]
          rw [ih rfl, List.append_assoc, List.singleton_append, List.take_succ_cons,
            List.length_cons, Nat.add_sub_add_right]

/-- A receiver that keeps what it is asked to take, and says by that whether it takes it. -/
def record (takes : List Event → Bool) (event : Event) (asked : List Event) : Bool × List Event :=
  (takes (asked ++ [event]), asked ++ [event])

/-- How many events a receiver is asked to take: it takes all of them but the last one, and it is
asked for no other unless it takes that one too. -/
structure Asked (takes : List Event → Bool) (events : List Event) (n : Nat) : Prop where
  within : n ≤ events.length
  took : ∀ i, 0 < i → i < n → takes (events.take i) = true
  complete : n = events.length ∨ (0 < n ∧ takes (events.take n) = false)

/-- What is asked of a receiver, whatever it answers. -/
theorem sendAll_record (takes : List Event → Bool) (events before : List Event) :
    ∃ n, sendAll (record takes) events before = before ++ events.take n ∧
      Asked (fun asked => takes (before ++ asked)) events n := by
  induction events generalizing before with
  | nil =>
      exact ⟨0, (List.append_nil _).symm, Nat.le_refl _, fun i _ less => absurd less (by simp),
        .inl rfl⟩
  | cons event later ih =>
      cases taken : takes (before ++ [event]) with
      | false =>
          refine ⟨1, by simp [sendAll, record, taken], by simp, fun i some less => by omega,
            .inr ⟨Nat.one_pos, taken⟩⟩
      | true =>
          obtain ⟨n, eq, within, took, complete⟩ := ih (before ++ [event])
          simp only [List.append_assoc, List.singleton_append] at eq took complete
          refine ⟨n + 1, by simp [sendAll, record, taken, eq], by simpa using within,
            fun i some less => ?_, ?_⟩
          · obtain ⟨i, rfl⟩ := Nat.exists_eq_succ_of_ne_zero some.ne'
            rcases Nat.eq_zero_or_pos i with rfl | more
            · exact taken
            · exact took i more (Nat.lt_of_succ_lt_succ less)
          · rcases complete with rfl | ⟨-, refused⟩
            · exact .inl rfl
            · exact .inr ⟨Nat.succ_pos n, refused⟩

/-- What a source sends is settled by the lines before its cut: a trigger for each of them, and then
one shutdown. A client that listens gets these events and nothing else; from one that stops
listening, or that was gone from the start, they are taken up to there; and any receiver is asked to
take them in this order, up to one that it does not take. Octets after a line that asks to shut down
change nothing. -/
theorem pump_by_lines (octets : List UInt8) :
    (∃ front rest, Cut octets front rest) ∧
      (∀ front rest, Cut octets front rest →
        (∀ m : Mailbox, m.room = none →
          pump octets m = { m with events := m.events ++ sent front }) ∧
        (∀ (m : Mailbox) (r : Nat), m.room = some r →
          pump octets m =
            { events := m.events ++ (sent front).take r, room := some (r - (front.length + 1)) }) ∧
        (∀ takes : List Event → Bool, ∃ n,
          pumpLines (record takes) (linesOf octets) [] = (sent front).take n ∧
            Asked takes (sent front) n)) ∧
      (∀ front rest, Cut octets front rest → rest ≠ [] → octets.getLast? = some lineFeed →
        ∀ (after : List UInt8) (Receiver : Type) (post : Event → Receiver → Bool × Receiver)
          (receiver : Receiver),
          pumpLines post (linesOf (octets ++ after)) receiver =
            pumpLines post (linesOf octets) receiver) := by
  refine ⟨exists_cut octets, fun front rest cut => ⟨fun m live => ?_, fun m r left => ?_,
    fun takes => ?_⟩, fun front rest cut decided ended after Receiver post receiver => ?_⟩
  · rw [pump, cut.pumpLines_eq, sendAll_of_live _ live]
  · rw [pump, cut.pumpLines_eq, sendAll_of_room _ left]
    simp [sent]
  · rw [cut.pumpLines_eq]
    exact sendAll_record takes (sent front) []
  · obtain ⟨before, rfl⟩ := List.getLast?_eq_some_iff.mp ended
    rw [cut.pumpLines_eq, List.append_assoc, List.singleton_append,
      (cut.append decided after).pumpLines_eq]

/-- A last line needs no line feed, and a line may be blank: these octets are a blank line, and a
line that asks to shut down. -/
example : (pump [0x0D, 0x0A, 0x20, 0x71, 0xC2, 0x85] {}).events = [.trigger, .shutdown] := by
  decide

end TriggerSource

end ReviewChannel
