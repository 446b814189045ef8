import ReviewChannel.Arguments

/-!
What the words after `listen` ask for, wherever the work directory stands among them.

* `Arguments.IsUndashed` — a word that no dash begins: it is the value of an option or an
  identifier, whatever else it says.
* `Arguments.Gives` — the two spellings of the option for a work directory; `readOptions_gives` and
  `readOptions_gives_again` are its first and its second occurrence.
* `Arguments.readOptions_settled` — a value that has been taken and not yet looked at makes no
  difference to the words after it.
* `Arguments.listen_words_round_trip` — a request to listen is read from the words that spell it.
-/

namespace ReviewChannel.Arguments

/-! ### Words -/

/-- No dash begins the word. -/
def IsUndashed (text : String) : Prop :=
  text.toList.head? ≠ some '-'

instance (text : String) : Decidable (IsUndashed text) :=
  inferInstanceAs (Decidable (_ ≠ _))

/-- A word that no dash begins stands for itself. -/
theorem Word.ofText_of_undashed {text : String} (undashed : IsUndashed text) :
    Word.ofText text = .plain text := by
  unfold IsUndashed at undashed
  unfold Word.ofText
  split
  · rename_i dashes
    rw [dashes] at undashed
    exact absurd rfl undashed
  · rename_i dashes
    rw [dashes] at undashed
    exact absurd rfl undashed
  · rename_i dashed
    rw [dashed] at undashed
    exact absurd rfl undashed
  · rfl

/-- The option for a work directory with its value in one word. -/
def workdirWord (value : String) : String :=
  "--workdir=" ++ value

/-- The value is what stands after the first equals sign, equals signs and all. -/
theorem Word.ofText_workdirWord (value : String) :
    Word.ofText (workdirWord value) = .long "workdir" (some value) := by
  have letters : (workdirWord value).toList =
      '-' :: '-' :: (['w', 'o', 'r', 'k', 'd', 'i', 'r'] ++ '=' :: value.toList) := by
    rw [workdirWord, String.toList_append]
    rfl
  unfold Word.ofText
  rw [letters]
  simp [splitEquals]

/-- The words that give a work directory: one word with an equals sign, or two words, of which the
second must not look like an option. -/
inductive Gives (value : String) : List String → Prop where
  | joined : Gives value [workdirWord value]
  | apart (undashed : IsUndashed value) : Gives value ["--workdir", value]

/-! ### Options with a value that waits -/

/-- Options that are like others but for a value that has been taken and not yet looked at. -/
structure Options.Settles (o settled : Options) : Prop where
  waits : ∃ value, o.awaited = some (some value)
  settle_eq : o.settle = .ok settled

theorem Options.setWorkdir_eq_ok {value : String} {o o' : Options}
    (h : o.setWorkdir value = .ok o') :
    o.workdir = none ∧ value ≠ "" ∧ o' = { o with workdir := some value, awaited := none } := by
  unfold setWorkdir at h
  split at h
  · cases h
  · rename_i fresh
    split at h
    · cases h
    · rename_i nonempty
      refine ⟨by simpa using fresh, ?_, (Except.ok.inj h).symm⟩
      intro empty
      exact nonempty (by rw [empty]; rfl)

/-- Nothing waits any more in options that are settled. -/
theorem Options.Settles.awaited_eq_none {o settled : Options} (h : o.Settles settled) :
    settled.awaited = none := by
  obtain ⟨value, waits⟩ := h.waits
  have taken := h.settle_eq
  rw [settle, waits] at taken
  obtain ⟨-, -, rfl⟩ := setWorkdir_eq_ok taken
  rfl

theorem Options.settle_of_awaited_eq_none {o : Options} (idle : o.awaited = none) :
    o.settle = .ok o := by
  rw [settle, idle]

theorem Options.Settles.settle_settled {o settled : Options} (h : o.Settles settled) :
    settled.settle = .ok settled :=
  settle_of_awaited_eq_none h.awaited_eq_none

section Settled

variable {o settled : Options}

/-- Every option looks at the value first, or is not understood. -/
theorem Options.long_settled (h : o.Settles settled) (v : Verb) (name : String)
    (value : Option String) : o.long v name value = settled.long v name value := by
  unfold long
  rw [h.settle_eq, h.settle_settled]

theorem Options.short_settled (h : o.Settles settled) (v : Verb) (letter : Char)
    (letters : List Char) :
    Options.short v (letter :: letters) o = Options.short v (letter :: letters) settled := by
  unfold short
  rw [h.settle_eq, h.settle_settled]

theorem Options.plain_settled (h : o.Settles settled) (v : Verb) (text : String) :
    o.plain v text = settled.plain v text := by
  obtain ⟨value, waits⟩ := h.waits
  unfold plain
  rw [h.settle_eq, h.settle_settled, waits, h.awaited_eq_none]
  rfl

theorem Options.trailing_settled (h : o.Settles settled) (v : Verb) (text : String) :
    o.trailing v text = settled.trailing v text := by
  unfold trailing
  rw [h.settle_eq, h.settle_settled]

/-- A value that waits makes no difference to the words after it. The induction is on the words: the
first one that is not a double dash looks at the value, and so does the end. -/
theorem readOptions_settled (h : o.Settles settled) (v : Verb) (stopped : Bool)
    (words : List String) :
    readOptions v stopped words o = readOptions v stopped words settled := by
  induction words generalizing stopped with
  | nil => rw [readOptions, readOptions, h.settle_eq, h.settle_settled]
  | cons text rest ih =>
      rw [readOptions, readOptions]
      by_cases after : stopped = true
      · rw [if_pos after, if_pos after, o.trailing_settled h]
      · rw [if_neg after, if_neg after]
        cases Word.ofText text with
        | stop => exact ih true
        | long name value => simp only [o.long_settled h]
        | plain text => simp only [o.plain_settled h]
        | short letters =>
            cases letters with
            | nil => exact ih false
            | cons letter letters => simp only [o.short_settled h]

end Settled

/-! ### The words of `listen` -/

namespace Options

variable {o : Options}

theorem plain_of_idle (idle : o.awaited = none) (id : String) :
    o.plain .listen id = .ok { o with ids := o.ids ++ [id] } := by
  rw [plain, idle, if_neg nofun, if_pos rfl, settle_of_awaited_eq_none idle, ← idle]
  rfl

theorem trailing_of_idle (idle : o.awaited = none) (id : String) :
    o.trailing .listen id = .ok { o with ids := o.ids ++ [id] } := by
  rw [trailing, if_pos rfl, settle_of_awaited_eq_none idle]
  rfl

theorem long_workdir_of_idle (idle : o.awaited = none) (value : String) :
    o.long .listen "workdir" (some value) = o.setWorkdir value := by
  rw [long, if_neg (by decide), if_pos (by decide), settle_of_awaited_eq_none idle]
  rfl

theorem long_workdir_waits (idle : o.awaited = none) :
    o.long .listen "workdir" none = .ok { o with awaited := some none } := by
  unfold long
  rw [if_neg (by decide), if_pos (by decide), settle_of_awaited_eq_none idle]
  rfl

theorem setWorkdir_of_fresh (fresh : o.workdir = none) {value : String} (nonempty : value ≠ "") :
    o.setWorkdir value = .ok { o with workdir := some value, awaited := none } := by
  have full : ¬ value.isEmpty = true := mt String.isEmpty_iff.mp nonempty
  rw [setWorkdir, fresh, if_neg nofun, if_neg full]

theorem setWorkdir_of_given (given : o.workdir.isSome = true) (value : String) :
    o.setWorkdir value = .error (.conflict workdirOption) :=
  if_pos given

end Options

section Listen

variable {o : Options}

theorem readOptions_plain {text : String} (undashed : IsUndashed text) (v : Verb)
    (rest : List String) :
    readOptions v false (text :: rest) o = (o.plain v text).bind (readOptions v false rest) := by
  rw [readOptions, if_neg Bool.false_ne_true, Word.ofText_of_undashed undashed]
  rfl

theorem readOptions_long {text name : String} {value : Option String}
    (word : Word.ofText text = .long name value) (v : Verb) (rest : List String) :
    readOptions v false (text :: rest) o =
      (o.long v name value).bind (readOptions v false rest) := by
  rw [readOptions, if_neg Bool.false_ne_true, word]
  rfl

theorem readOptions_stop (v : Verb) (rest : List String) :
    readOptions v false ("--" :: rest) o = readOptions v true rest o := by
  rw [readOptions, if_neg Bool.false_ne_true]
  rfl

/-- Words that no dash begins are identifiers, in order. -/
theorem readOptions_ids (idle : o.awaited = none) {ids : List String}
    (undashed : ∀ id ∈ ids, IsUndashed id) (rest : List String) :
    readOptions .listen false (ids ++ rest) o =
      readOptions .listen false rest { o with ids := o.ids ++ ids } := by
  induction ids generalizing o with
  | nil => rw [List.nil_append, List.append_nil]
  | cons id ids ih =>
      have first := undashed id (List.mem_cons_self ..)
      have next := ih (o := { o with ids := o.ids ++ [id] }) idle
        fun later mem => undashed later (List.mem_cons_of_mem id mem)
      rw [List.append_assoc, List.singleton_append] at next
      rw [List.cons_append, readOptions_plain first, Options.plain_of_idle idle]
      exact next

/-- After a double dash every word is an identifier, whatever it says. -/
theorem readOptions_trailing (idle : o.awaited = none) (ids : List String) :
    readOptions .listen true ids o = .ok { o with ids := o.ids ++ ids } := by
  induction ids generalizing o with
  | nil => rw [readOptions, Options.settle_of_awaited_eq_none idle, List.append_nil]
  | cons id ids ih =>
      have next := ih (o := { o with ids := o.ids ++ [id] }) idle
      rw [List.append_assoc, List.singleton_append] at next
      rw [readOptions, if_pos rfl, Options.trailing_of_idle idle]
      exact next

/-- A work directory that is given for the first time is taken over. -/
theorem readOptions_gives (idle : o.awaited = none) (fresh : o.workdir = none) {value : String}
    (nonempty : value ≠ "") {given : List String} (gives : Gives value given)
    (rest : List String) :
    readOptions .listen false (given ++ rest) o =
      readOptions .listen false rest { o with workdir := some value } := by
  have settled : { o with workdir := some value } =
      { o with workdir := some value, awaited := none } := by rw [← idle]
  cases gives with
  | joined =>
      rw [List.singleton_append, readOptions_long (Word.ofText_workdirWord value),
        Options.long_workdir_of_idle idle, Options.setWorkdir_of_fresh fresh nonempty, settled]
      rfl
  | apart undashed =>
      have word : Word.ofText "--workdir" = .long "workdir" none := by decide
      have waiting : Options.Settles { o with awaited := some (some value) }
          { o with workdir := some value, awaited := none } :=
        ⟨⟨value, rfl⟩, Options.setWorkdir_of_fresh fresh nonempty⟩
      rw [List.cons_append, readOptions_long word, Options.long_workdir_waits idle, settled,
        ← readOptions_settled waiting, List.singleton_append]
      exact readOptions_plain undashed .listen rest

/-- A work directory that is given again is refused, when its value is looked at. -/
theorem readOptions_gives_again (idle : o.awaited = none) (given : o.workdir.isSome = true)
    {value : String} {again : List String} (gives : Gives value again) {ids : List String}
    (undashed : ∀ id ∈ ids, IsUndashed id) :
    readOptions .listen false (again ++ ids) o = .error (.conflict Options.workdirOption) := by
  cases gives with
  | joined =>
      rw [List.singleton_append, readOptions_long (Word.ofText_workdirWord value),
        Options.long_workdir_of_idle idle, Options.setWorkdir_of_given given]
      rfl
  | apart plain =>
      have word : Word.ofText "--workdir" = .long "workdir" none := by decide
      have refused : Options.settle { o with awaited := some (some value) } =
          .error (.conflict Options.workdirOption) := Options.setWorkdir_of_given given value
      have waits : readOptions .listen false (["--workdir", value] ++ ids) o =
          readOptions .listen false ids { o with awaited := some (some value) } := by
        rw [List.cons_append, readOptions_long word, Options.long_workdir_waits idle]
        exact readOptions_plain plain .listen ids
      rw [waits]
      cases ids with
      | nil => exact refused
      | cons id ids =>
          rw [readOptions_plain (undashed id (List.mem_cons_self ..)), Options.plain, if_neg nofun,
            if_pos rfl, refused]
          rfl

end Listen

/-! ### Words in front -/

theorem readFront_short {text : String} {letters : List Char}
    (word : Word.ofText text = .short letters) (verbose : Nat) (rest : List String) :
    readFront verbose (text :: rest) =
      (frontLetters letters verbose).bind fun verbose => readFront verbose rest := by
  rw [readFront.eq_def]
  simp only [word]
  rfl

/-- Each `-v` in front counts, up to the highest count. -/
theorem readFront_verbose (k : Nat) {verbose : Nat} (low : verbose ≤ verboseLimit)
    (rest : List String) :
    readFront verbose (List.replicate k "-v" ++ rest) =
      readFront (min (verbose + k) verboseLimit) rest := by
  induction k generalizing verbose with
  | zero => rw [List.replicate_zero, List.nil_append, Nat.add_zero, Nat.min_eq_left low]
  | succ k ih =>
      have word : Word.ofText "-v" = .short ['v'] := by decide
      have counted : countVerbose verbose ≤ verboseLimit := Nat.min_le_left ..
      have next := ih counted
      have same : min (countVerbose verbose + k) verboseLimit =
          min (verbose + (k + 1)) verboseLimit := by
        unfold countVerbose
        omega
      rw [List.replicate_succ, List.cons_append, readFront_short word, ← same, ← next]
      rfl

theorem readFront_listen (verbose : Nat) (words : List String) :
    readFront verbose ("listen" :: words) = readCommand .listen verbose words := by
  have word : Word.ofText "listen" = .plain "listen" := by decide
  rw [readFront.eq_def]
  simp only [word]
  rfl

/-! ### Requests to listen -/

/-- The words of a request to listen, with `-v` so many times in front. -/
def listenWords (k : Nat) (words : List String) : List String :=
  List.replicate k "-v" ++ "listen" :: words

/-- A request to listen is what its words give, if they do not count `-v` themselves. -/
theorem read_listenWords (k : Nat) {words : List String} {o : Options}
    (taken : readOptions .listen false words {} = .ok o) (uncounted : o.verbose = 0) :
    read (listenWords k words) =
      match o.workdir with
      | none => .error .missingWorkdir
      | some workdir => .ok ⟨.listen (.ofText workdir) o.ids, min k 255⟩ := by
  rw [read, listenWords, readFront_verbose k (Nat.zero_le _), readFront_listen, Nat.zero_add,
    readCommand, taken]
  simp only [bind, Except.bind, uncounted, if_true]
  cases o.workdir <;> rfl

theorem read_listenWords_of_error (k : Nat) {words : List String} {refusal : Refusal}
    (refused : readOptions .listen false words {} = .error refusal) :
    read (listenWords k words) = .error refusal := by
  rw [read, listenWords, readFront_verbose k (Nat.zero_le _), readFront_listen, readCommand,
    refused]
  rfl

/-- A request to listen is read from the words that spell it, whatever the identifiers say, with a
`-v` in front for each level of detail up to 255.

* After a double dash every word is an identifier, also one that begins with a dash, is empty or
  names a command.
* If no identifier begins with a dash, there need be no double dash, and the work directory may
  stand anywhere among them, in one word or in two.
* A request without a work directory says that it is missing, and one with two of them that they are
  in conflict, wherever they stand. -/
theorem listen_words_round_trip (k : Nat) {workdir : String} (nonempty : workdir ≠ "") :
    let asked (ids : List String) : Except Refusal Arguments :=
      .ok ⟨.listen (.ofText workdir) ids, min k 255⟩
    let Undashed (ids : List String) : Prop := ∀ id ∈ ids, IsUndashed id
    (∀ ids, read (listenWords k (("--workdir=" ++ workdir) :: "--" :: ids)) = asked ids) ∧
      (∀ before after given, Undashed before → Undashed after → Gives workdir given →
        read (listenWords k (before ++ given ++ after)) = asked (before ++ after)) ∧
      (∀ ids, Undashed ids → read (listenWords k ids) = .error .missingWorkdir) ∧
      (∀ before between after given other again, Undashed before → Undashed between →
        Undashed after → Gives workdir given → Gives other again →
        read (listenWords k (before ++ given ++ between ++ again ++ after)) =
          .error (.conflict Options.workdirOption)) := by
  intro asked Undashed
  refine ⟨?_, ?_, ?_, ?_⟩
  · intro ids
    have given := readOptions_gives (o := {}) rfl rfl nonempty .joined ("--" :: ids)
    rw [readOptions_stop, readOptions_trailing rfl] at given
    exact read_listenWords k given rfl
  · intro before after given first last gives
    have front := readOptions_ids (o := {}) rfl first (given ++ after)
    rw [readOptions_gives rfl rfl nonempty gives, ← List.append_nil after,
      readOptions_ids rfl last, readOptions, List.append_nil] at front
    rw [List.append_assoc]
    exact read_listenWords k front rfl
  · intro ids undashed
    have all := readOptions_ids (o := {}) rfl undashed []
    rw [readOptions, List.append_nil] at all
    exact read_listenWords k all rfl
  · intro before between after given other again first second last gives givesAgain
    have front := readOptions_ids (o := {}) rfl first (given ++ (between ++ (again ++ after)))
    rw [readOptions_gives rfl rfl nonempty gives, readOptions_ids rfl second,
      readOptions_gives_again rfl rfl givesAgain last] at front
    simp only [List.append_assoc]
    exact read_listenWords_of_error k front

/-- Identifiers that look like options or name commands, and more `-v` than count. -/
theorem listen_words_of_hostile_ids :
    let workdir := "/g=--"
    let ids := ["-v", "", "listen", "--workdir=/h", "--"]
    workdir ≠ "" ∧
      read (listenWords 300 (("--workdir=" ++ workdir) :: "--" :: ids)) =
        .ok ⟨.listen (.ofText workdir) ids, 255⟩ ∧
      read (listenWords 2 ["connect", "--workdir", workdir, ""]) =
        .ok ⟨.listen (.ofText workdir) ["connect", ""], 2⟩ ∧
      read (listenWords 0 ["help"]) = .error .missingWorkdir ∧
      read (listenWords 0 ["--workdir", workdir, "help", "--workdir="]) =
        .error (.conflict Options.workdirOption) := by
  intro workdir ids
  have nonempty : workdir ≠ "" := by decide
  have apart : Gives workdir ["--workdir", workdir] := .apart (by decide)
  obtain ⟨trailing, -⟩ := listen_words_round_trip 300 nonempty
  obtain ⟨-, anywhere, -⟩ := listen_words_round_trip 2 nonempty
  obtain ⟨-, -, missing, twice⟩ := listen_words_round_trip 0 nonempty
  refine ⟨nonempty, trailing ids, ?_, ?_, ?_⟩
  · exact anywhere ["connect"] [""] _ (by decide) (by decide) apart
  · exact missing ["help"] (by decide)
  · exact twice [] ["help"] [] _ "" _ (by decide) (by decide) (by decide) apart .joined

end ReviewChannel.Arguments
