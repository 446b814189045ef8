import Mathlib.Computability.Primrec.List
import ReviewChannel.Log.File
import ReviewChannel.Log.Reader
import ReviewChannel.Proofs.Journal
import ReviewChannel.Proofs.JsonReading
import ReviewChannel.Proofs.Lines
import ReviewChannel.Proofs.Spelling
import ReviewChannel.Proofs.Walking

/-!
What the protocol log holds is read back event by event.

* `LogEvent.ofLine?_line` — the line of an event is read as that event and its time, so different
  events have different lines; no line has a line feed in it (`LogEvent.lineFeed_not_mem_line`).
* `ProtocolLog.rawLinesOf_linesOctets` — what is written for several events has a line for each.
* `ProtocolLog.sessions_append` — sessions that open the log one after the other add to the same
  file.
* `log_lines_round_trip` — the log after any sessions: the lines that it had, and then a line for
  each event, which is read as that event.
-/

namespace ReviewChannel

/-! ### One line -/

/-- What is written for a character has a line feed only if the character is one. -/
theorem Utf8.lineFeed_not_mem_encodeChar {c : Char} (visible : 0x20 ≤ c.toNat) :
    lineFeed ∉ String.utf8EncodeChar c := by
  have other {n : Nat} (least : 0x20 ≤ n) (most : n < 0x100) : lineFeed ≠ UInt8.ofNat n := by
    intro same
    have value : 10 = n % 0x100 := congrArg UInt8.toNat same
    omega
  unfold String.utf8EncodeChar
  rw [show c.val.toNat = c.toNat from rfl]
  generalize c.toNat = v at visible
  simp only
  split
  · exact List.not_mem_cons_of_ne_of_not_mem (other visible (by omega)) List.not_mem_nil
  -- All octets of a longer form are beyond the control characters.
  split
  · simp only [List.mem_cons, List.not_mem_nil, or_false, not_or]
    exact ⟨other (by omega) (by omega), other (by omega) (by omega)⟩
  split
  · simp only [List.mem_cons, List.not_mem_nil, or_false, not_or]
    exact ⟨other (by omega) (by omega), other (by omega) (by omega), other (by omega) (by omega)⟩
  · simp only [List.mem_cons, List.not_mem_nil, or_false, not_or]
    exact ⟨other (by omega) (by omega), other (by omega) (by omega), other (by omega) (by omega),
      other (by omega) (by omega)⟩

/-- What is written for a text without control characters has no line feed. -/
theorem Utf8.lineFeed_not_mem_encode {text : String} (printable : Json.Printable text.toList) :
    lineFeed ∉ Utf8.encode text := by
  intro mem
  obtain ⟨c, there, octet⟩ := List.mem_flatMap.mp mem
  exact lineFeed_not_mem_encodeChar (printable c there) octet

namespace LogEvent

theorem ofJson?_entry (stamp : String) (event : LogEvent) :
    ofJson? (event.entry stamp) = some (stamp, event) := by
  cases event with
  | connected endpoint => rfl
  | commandSent command => cases command <;> rfl
  | commandFailed command reason => cases command <;> rfl
  | saveFailed => rfl
  | messageReceived message => cases message <;> rfl
  | disconnected => rfl
  | transportError detail => rfl
  | sessionEnded stopSent => rfl

theorem parse_line (stamp : String) (event : LogEvent) :
    Json.parse (event.line stamp) = some (event.entry stamp) :=
  Json.parse_compact _

/-- The line of an event is read as that event, with its time. -/
theorem ofLine?_line (stamp : String) (event : LogEvent) :
    ofLine? (Utf8.encode (event.line stamp)) = some (stamp, event) := by
  rw [ofLine?, Utf8.decode?_encode]
  simp [parse_line, ofJson?_entry]

/-- Different events have different lines, whenever they happened. -/
theorem line_injective {stamp stamp' : String} {event event' : LogEvent}
    (same : event.line stamp = event'.line stamp') : stamp = stamp' ∧ event = event' := by
  have read := ofLine?_line stamp event
  rw [same, ofLine?_line] at read
  simpa [eq_comm] using read

theorem lineFeed_not_mem_line (stamp : String) (event : LogEvent) :
    lineFeed ∉ Utf8.encode (event.line stamp) :=
  Utf8.lineFeed_not_mem_encode (Json.printable_compact _)

end LogEvent

namespace LogEvent

/-- Only a dropped review and a connection that the grader closed have no data. -/
theorem data_entry (stamp : String) (event : LogEvent) :
    (event.entry stamp).member? "data" = none ↔ event = .saveFailed ∨ event = .disconnected := by
  cases event with
  | saveFailed => exact ⟨fun _ => Or.inl rfl, fun _ => rfl⟩
  | disconnected => exact ⟨fun _ => Or.inr rfl, fun _ => rfl⟩
  | connected | commandSent | commandFailed | messageReceived | transportError | sessionEnded =>
      exact ⟨nofun, fun one => one.elim nofun nofun⟩

/-- The text that the entry of a message carries: that of the message, unless it asks to stop. -/
theorem text_entry (stamp : String) (message : Message) :
    ((((LogEvent.messageReceived message).entry stamp).member? "data").bind
        (Json.member? "message")).bind (Json.member? "text") =
      if message = .stopDirective then none else some (.text message.text) := by
  cases message <;> rfl

end LogEvent

namespace ProtocolLog

/-! ### Many lines -/

theorem linesOctets_append (events later : List (String × LogEvent)) :
    linesOctets (events ++ later) = linesOctets events ++ linesOctets later :=
  List.flatMap_append

/-- What is written for several events has a line for each. -/
theorem rawLinesOf_linesOctets (events : List (String × LogEvent)) :
    rawLinesOf (linesOctets events) =
      events.map fun (stamp, event) => Utf8.encode (event.line stamp) := by
  have lines : linesOctets events =
      (events.map fun (stamp, event) => Utf8.encode (event.line stamp)).flatMap
        (· ++ [lineFeed]) := by
    rw [List.flatMap_map]
    rfl
  rw [lines]
  refine rawLinesOf_flatMap fun line mem => ?_
  obtain ⟨⟨stamp, event⟩, -, rfl⟩ := List.mem_map.mp mem
  exact event.lineFeed_not_mem_line stamp

/-! ### Sessions -/

/-- Sessions one after the other on a file, each through a writer of its own. -/
def sessionsOn {σ : Type} [Sink σ] : List (List (String × LogEvent)) → σ →
    List (List (Except LogFailure Unit)) × σ
  | [], file => ([], file)
  | events :: rest, file =>
      let (result, w) := appendEach events { file }
      let (results, file) := sessionsOn rest w.file
      (result :: results, file)

/-- Sessions on a file that takes what it is offered add their lines to it, in order. -/
theorem sessionsOn_willing {σ : Type} [Sink σ] {content : σ → List UInt8} {Good : σ → Prop}
    (willing : Sink.Willing content Good) (log : List (List (String × LogEvent))) {file : σ}
    (good : Good file) :
    (sessionsOn log file).1 = log.map (fun events => List.replicate events.length (.ok ())) ∧
      content (sessionsOn log file).2 = content file ++ linesOctets log.flatten := by
  induction log generalizing file with
  | nil => exact ⟨rfl, (List.append_nil _).symm⟩
  | cons events rest ih =>
      obtain ⟨results, written, emptied⟩ :=
        appendEach_holds willing (w := { file }) ⟨good, List.append_nil _⟩ events
      have all := written.all
      rw [emptied (Or.inl rfl), List.append_nil] at all
      obtain ⟨more, whole⟩ := ih written.good
      refine ⟨congr (congrArg List.cons results) more, ?_⟩
      rw [List.flatten_cons, linesOctets_append, ← List.append_assoc, ← all]
      exact whole

/-- Opens the log at the path and writes events: what came of each, and the tree then. -/
def session (cwd : Place) (path : Path) (events : List (String × LogEvent)) (t : FileTree) :
    Except LogFailure (List (Except LogFailure Unit)) × FileTree :=
  match openAt cwd path t with
  | (.error e, t) => (.error e, t)
  | (.ok entry, t) =>
      let (results, w) := appendEach events { file := { tree := t, entry : OpenFile } }
      (.ok results, w.file.tree)

/-- Sessions one after the other, each of which opens the log at the path. -/
def sessions (cwd : Place) (path : Path) : List (List (String × LogEvent)) → FileTree →
    List (Except LogFailure (List (Except LogFailure Unit))) × FileTree
  | [], t => ([], t)
  | events :: rest, t =>
      let (result, t) := session cwd path events t
      let (results, t) := sessions cwd path rest t
      (result :: results, t)

/-- A regular file that is open in a tree in which nothing but its content changes. -/
structure OpenIn (t : FileTree) (number : Nat) (f : OpenFile) : Prop where
  entry_eq : f.entry = .file number
  there : number < f.tree.files.length
  entries_eq : f.tree.entries = t.entries

/-- The content of the file of a number, in the tree in which something is open. -/
def contentOf (number : Nat) (f : OpenFile) : List UInt8 :=
  (f.tree.file number).content

theorem content_setContent {t : FileTree} {number : Nat} (there : number < t.files.length)
    (content : List UInt8) : ((t.setContent number content).file number).content = content := by
  simp [FileTree.setContent, FileTree.setFile, FileTree.file, there]

/-- A regular file takes all that it is offered. -/
theorem willing_openFile (t : FileTree) (number : Nat) :
    Sink.Willing (contentOf number) (OpenIn t number) where
  offer {f} b rest good := by
    refine ⟨rest.length, (OpenFile.offer (b :: rest) f).2, ?_, ?_, ?_⟩
    · simp [Sink.offer, OpenFile.offer, good.entry_eq]
    · simp only [OpenFile.offer, good.entry_eq, contentOf, content_setContent good.there,
        List.take_length]
    · simp only [OpenFile.offer, good.entry_eq]
      exact ⟨rfl, by simpa [FileTree.setContent, FileTree.setFile] using good.there,
        good.entries_eq⟩

theorem extends_of_entries_eq {t t' : FileTree} (same : t'.entries = t.entries) :
    FileTree.Extends t t' :=
  fun place entry there => by rwa [FileTree.entryAt, same]

/-- Opening the log again finds the file that was opened, and changes nothing. -/
theorem openAt_again {cwd : Place} {path : Path} {t opened t' : FileTree} {number : Nat}
    (h : openAt cwd path t = (.ok (.file number), opened)) (grown : FileTree.Extends opened t') :
    openAt cwd path t' = (.ok (.file number), t') ∧
      t'.status cwd path = .ok (.file number) := by
  unfold openAt at h
  split at h
  · cases h
  · rename_i between parent
    split at h
    · cases h
    · rename_i entry after opens
      obtain ⟨same, rfl⟩ := Prod.mk.inj h
      obtain rfl := Except.ok.inj same
      obtain ⟨kept, status⟩ := FileTree.status_of_opened opens
      have found := FileTree.status_extends status grown
      have again : makeParent cwd path t' = (.ok (), t') := by
        unfold makeParent at parent ⊢
        split at parent
        · rfl
        · split at parent
          · cases parent
          · rename_i made
            cases parent
            rw [FileTree.makeDirs_again made (kept.trans grown)]
      refine ⟨?_, found⟩
      rw [openAt, again]
      simp only [FileTree.openToAppend_of_status found]

/-- A session adds its lines to the file that it opens. -/
theorem session_append {cwd : Place} {path : Path} {t opened : FileTree} {number : Nat}
    (h : openAt cwd path t = (.ok (.file number), opened)) (there : number < opened.files.length)
    (events : List (String × LogEvent)) :
    ∃ t', session cwd path events t = (.ok (List.replicate events.length (.ok ())), t') ∧
      number < t'.files.length ∧ t'.entries = opened.entries ∧
      (t'.file number).content = (opened.file number).content ++ linesOctets events := by
  have holds : Writer.Holds (contentOf number) (OpenIn opened number)
      { file := { tree := opened, entry := .file number } } (opened.file number).content :=
    ⟨⟨rfl, there, rfl⟩, List.append_nil _⟩
  obtain ⟨results, written, emptied⟩ :=
    appendEach_holds (willing_openFile opened number) holds events
  have all := written.all
  rw [emptied (Or.inl rfl), List.append_nil] at all
  refine ⟨_, ?_, written.good.there, written.good.entries_eq, all⟩
  rw [session, h, ← results]

/-- Sessions one after the other add their lines to the file that the first one opens. -/
theorem sessions_append {cwd : Place} {path : Path} {t opened : FileTree} {number : Nat}
    (h : openAt cwd path t = (.ok (.file number), opened)) (there : number < opened.files.length)
    (first : List (String × LogEvent)) (others : List (List (String × LogEvent))) :
    ∃ t', sessions cwd path (first :: others) t =
        ((first :: others).map fun events => .ok (List.replicate events.length (.ok ())), t') ∧
      t'.fileAt? cwd path =
        some ((opened.file number).content ++ linesOctets (first :: others).flatten) := by
  induction others generalizing first t opened with
  | nil =>
      obtain ⟨t', written, -, same, content⟩ := session_append h there first
      obtain ⟨-, status⟩ := openAt_again h (extends_of_entries_eq same)
      refine ⟨t', by rw [sessions, written]; rfl, ?_⟩
      rw [FileTree.fileAt?, status]
      simp [FileTree.content?, content]
  | cons second others ih =>
      obtain ⟨between, written, there', same, content⟩ := session_append h there first
      obtain ⟨again, -⟩ := openAt_again h (extends_of_entries_eq same)
      obtain ⟨t', later, found⟩ := ih again there' second
      refine ⟨t', by rw [sessions, written]; simp only [later]; rfl, ?_⟩
      rw [found, content, List.append_assoc, ← linesOctets_append, ← List.flatten_cons]

end ProtocolLog

/-! ### The log -/

open ProtocolLog

/-- The log after any sessions, whatever the texts of their events: the lines that it had, and then
a line for each event, from which the event is read back. -/
theorem log_lines_round_trip {cwd : Place} {path : Path} {t opened : FileTree} {number : Nat}
    {file : RegularFile} (opens : openAt cwd path t = (.ok (.file number), opened))
    (found : opened.files[number]? = some file) (ended : Ended file.content)
    (log : List (List (String × LogEvent))) :
    -- The sessions open the log at the path, and add to the file that stands there.
    (∃ t', sessions cwd path log t =
        (log.map fun events => .ok (List.replicate events.length (.ok ())), t') ∧
      (log = [] ∧ t' = t ∨
        t'.fileAt? cwd path = some (file.content ++ linesOctets log.flatten))) ∧
    -- So they do on a file that takes a part of what it is offered, as long as no write fails.
    (∀ script : Script, script.Succeeds → script.content = file.content →
      (sessionsOn log script).1 = log.map (fun events => List.replicate events.length (.ok ())) ∧
      (sessionsOn log script).2.content = file.content ++ linesOctets log.flatten) ∧
    rawLinesOf (file.content ++ linesOctets log.flatten) =
      rawLinesOf file.content ++
        log.flatten.map (fun (stamp, event) => Utf8.encode (event.line stamp)) ∧
    (∀ (stamp : String) (event : LogEvent),
      lineFeed ∉ Utf8.encode (event.line stamp) ∧
      Json.parse (event.line stamp) = some (event.entry stamp) ∧
      LogEvent.ofLine? (Utf8.encode (event.line stamp)) = some (stamp, event) ∧
      ((event.entry stamp).member? "data" = none ↔ event = .saveFailed ∨ event = .disconnected)) ∧
    (∀ (stamp : String) (message : Message),
      ((((LogEvent.messageReceived message).entry stamp).member? "data").bind
          (Json.member? "message")).bind (Json.member? "text") =
        if message = .stopDirective then none else some (.text message.text)) ∧
    ∀ (stamp stamp' : String) (event event' : LogEvent), event ≠ event' →
      event.line stamp ≠ event'.line stamp' := by
  obtain ⟨there, is⟩ := List.getElem?_eq_some_iff.mp found
  have content : (opened.file number).content = file.content := by
    rw [FileTree.file, found, Option.getD_some]
  refine ⟨?_, fun script succeeds same => ?_, ?_, fun stamp event => ?_, LogEvent.text_entry,
    fun stamp stamp' event event' other same => other (LogEvent.line_injective same).2⟩
  · cases log with
    | nil => exact ⟨t, rfl, Or.inl ⟨rfl, rfl⟩⟩
    | cons first others =>
        obtain ⟨t', written, whole⟩ := sessions_append opens there first others
        exact ⟨t', written, Or.inr (content ▸ whole)⟩
  · exact same ▸ sessionsOn_willing Script.willing log succeeds
  · rw [rawLinesOf_append ended, rawLinesOf_linesOctets]
  · exact ⟨event.lineFeed_not_mem_line stamp, event.parse_line stamp, event.ofLine?_line stamp,
      event.data_entry stamp⟩

/-- Two sessions with hostile texts, on a log that has a line: three more lines. -/
theorem log_lines_after_two_sessions :
    let old := Utf8.encode "first\n"
    let t : FileTree :=
      { entries := [([], .dir), ([Utf8.encode "log"], .file 0)], files := [{ content := old }] }
    let path := Path.ofText "/log"
    let forged := Message.identifier "\"\n"
    let log := [[("noon", .messageReceived forged), ("noon", .saveFailed)], [],
      [("later", LogEvent.transportError "\\")]]
    openAt [] path t = (.ok (.file 0), t) ∧
      t.files[0]? = some { content := old } ∧ Ended old ∧
      ∃ t', (sessions [] path log t).2 = t' ∧
        (t'.fileAt? [] path).map rawLinesOf =
          some (Utf8.encode "first" :: log.flatten.map fun (stamp, event) =>
            Utf8.encode (event.line stamp)) := by
  intro old t path forged log
  have opens : openAt [] (Path.ofText "/log") t = (.ok (.file 0), t) := by cbv
  have ended : Ended old := Or.inr ⟨Utf8.encode "first", by decide⟩
  obtain ⟨⟨t', written, whole⟩, -, lines, -⟩ := log_lines_round_trip opens rfl ended log
  refine ⟨opens, rfl, ended, t', congrArg Prod.snd written, ?_⟩
  have first : rawLinesOf old = [Utf8.encode "first"] := by decide
  rw [whole.resolve_left (fun none => List.cons_ne_nil _ _ none.1), Option.map_some, lines, first]
  rfl

end ReviewChannel
