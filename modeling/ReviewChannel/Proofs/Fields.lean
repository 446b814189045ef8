import ReviewChannel.Proofs.NearestFile

/-!
What a document gives to each field of a configuration.

* `Config.Field` — the four fields, each with its section, its key and its position in a section
  that is an array; `Field.Takes` says which values a field takes and what it then holds.
* `Config.Decodes` — a document gives a configuration, field by field: a field holds what is written
  at its place, or its default. `Config.ofEntries?_eq_some_iff` — this is what reading it comes to.
* `Config.ofEntries?_congr` — documents with the same values at the places of the fields give the
  same configuration.
* `Config.decoding_by_field` — all of it, for every document, with what that means for unknown keys,
  for the two ways to write a section, and for values of a wrong type.
-/

namespace ReviewChannel.Config

open Toml (Value Entries TableForm ArrayForm)

/-! ### Fields -/

/-- A field of a configuration. -/
inductive Field where
  | workdirEnv
  | socketName
  | saveCommand
  | logPath
deriving DecidableEq, Repr

namespace Field

/-- The fields in the order in which they are declared. -/
def all : List Field :=
  [workdirEnv, socketName, saveCommand, logPath]

def home : Field → String
  | workdirEnv | socketName => "endpoint"
  | saveCommand => "save"
  | logPath => "log"

def key : Field → String
  | workdirEnv => "workdir_env"
  | socketName => "socket_name"
  | saveCommand => "command"
  | logPath => "path"

def position : Field → Nat
  | socketName => 1
  | workdirEnv | saveCommand | logPath => 0

theorem eq_of_home_endpoint {field : Field} (home : field.home = "endpoint") :
    field = workdirEnv ∨ field = socketName := by
  cases field <;> simp_all [Field.home]

theorem eq_of_home_save {field : Field} (home : field.home = "save") : field = saveCommand := by
  cases field <;> simp_all [Field.home]

theorem eq_of_home_log {field : Field} (home : field.home = "log") : field = logPath := by
  cases field <;> simp_all [Field.home]

end Field

/-- The keys of a section, in the order of their fields. -/
def keysOf (name : String) : List String :=
  (Field.all.filter (·.home == name)).map Field.key

/-- What a field holds. -/
inductive Setting where
  | text (s : String)
  | words (ws : List String)
  | path (p : Path)
  | unset
deriving DecidableEq, Repr

def setting (config : Config) : Field → Setting
  | .workdirEnv => .text config.workdirEnv
  | .socketName => .text config.socketName
  | .saveCommand => (config.saveCommand.map Setting.words).getD .unset
  | .logPath => (config.logPath.map Setting.path).getD .unset

/-- Configurations with the same fields are the same. -/
theorem eq_of_setting {config config' : Config}
    (same : ∀ field, config.setting field = config'.setting field) : config = config' := by
  obtain ⟨env, name, command, path⟩ := config
  obtain ⟨env', name', command', path'⟩ := config'
  have one := same .workdirEnv
  have two := same .socketName
  have three := same .saveCommand
  have four := same .logPath
  cases command <;> cases command' <;> cases path <;> cases path' <;> simp_all [setting]

namespace Field

/-- What a field holds if nothing is written. -/
def default : Field → Setting
  | workdirEnv => .text "GRADER_WORKDIR"
  | socketName => .text "sock"
  | saveCommand | logPath => .unset

/-- A field takes a value, word for word. -/
inductive Takes : Field → Value → Setting → Prop where
  | workdirEnv (s : String) : Takes .workdirEnv (.text s) (.text s)
  | socketName (s : String) : Takes .socketName (.text s) (.text s)
  | saveCommand (form : ArrayForm) (ws : List String) :
      Takes .saveCommand (.array form (ws.map .text)) (.words ws)
  | logPath (s : String) : Takes .logPath (.text s) (.path (.ofText s))

/-- The value at the place of a field in its section: at its key in a table, at its position in an
array. -/
def valueIn? (field : Field) : Value → Option Value
  | .table _ entries => entries.lookup field.key
  | .array _ items => items[field.position]?
  | _ => none

def value? (field : Field) (entries : Entries) : Option Value :=
  (entries.lookup field.home).bind field.valueIn?

/-- A field gets what is written at its place, or its default if nothing is. -/
inductive Gets (field : Field) : Option Value → Setting → Prop where
  | written {v : Value} {x : Setting} (takes : field.Takes v x) : Gets field (some v) x
  | missing : Gets field none field.default

end Field

/-! ### Sections -/

/-- A value can be the section of a name: a table, of which the numbers at unknown keys can be held,
an array, or a date or a time. -/
inductive Fits (name : String) : Value → Prop where
  | table {form : TableForm} {entries : Entries}
      (readable : Toml.entriesReadable (entries.filter fun e => !(keysOf name).contains e.1) = true) :
      Fits name (.table form entries)
  | array {form : ArrayForm} {items : List Value} : Fits name (.array form items)
  | moment {written : String} : Fits name (.moment written)

/-- A document gives a configuration, each field by itself. -/
structure Decodes (entries : Entries) (config : Config) : Prop where
  /-- The numbers in unknown sections can be held. -/
  readable : Toml.entriesReadable (entries.filter fun e => !sections.contains e.1) = true
  sections : ∀ name ∈ sections, ∀ v, entries.lookup name = some v → Fits name v
  fields : ∀ field : Field, field.Gets (field.value? entries) (config.setting field)

/-- A section gives its values by key if it is a table, by position if it is an array, and none
otherwise. -/
theorem sectionValues?_eq_some_iff {name : String} {v : Value} {values : List (Option Value)} :
    sectionValues? (keysOf name) v = some values ↔
      Fits name v ∧ values = match v with
        | .table _ entries => (keysOf name).map fun key => entries.lookup key
        | .array _ items => (List.range (keysOf name).length).map fun i => items[i]?
        | _ => (keysOf name).map fun _ => none := by
  constructor
  · intro read
    unfold sectionValues? at read
    split at read
    · split at read
      · rename_i readable
        cases read
        exact ⟨.table readable, rfl⟩
      · cases read
    · cases read
      exact ⟨.array, rfl⟩
    · cases read
      exact ⟨.moment, rfl⟩
    · cases read
  · rintro ⟨fits, rfl⟩
    cases fits with
    | table readable => exact if_pos readable
    | array => rfl
    | moment => rfl

theorem orDefault_eq_some_iff {α : Type} {read : Value → Option α} {default x : α}
    {v : Option Value} :
    orDefault read default v = some x ↔
      (∃ value, v = some value ∧ read value = some x) ∨ v = none ∧ x = default := by
  cases v with
  | none => simp [orDefault, eq_comm]
  | some value => simp [orDefault]

theorem text?_eq_some_iff {v : Value} {s : String} : text? v = some s ↔ v = .text s := by
  cases v <;> simp [text?]

theorem texts?_eq_some_iff {v : Value} {ws : List String} :
    texts? v = some ws ↔ ∃ form, v = .array form (ws.map .text) := by
  have each (items : List Value) : items.mapM text? = some ws ↔ items = ws.map .text := by
    induction items generalizing ws with
    | nil => cases ws <;> simp
    | cons item items ih =>
        cases ws <;> simp [List.mapM_cons, Option.bind_eq_some_iff, text?_eq_some_iff, ih]
  cases v with
  | array form items => simp [texts?, each]
  | _ => simp [texts?]

/-! ### Each field is read as it should be -/

theorem Field.gets_iff {field : Field} {v : Option Value} {x : Setting} :
    field.Gets v x ↔
      (∃ value, v = some value ∧ field.Takes value x) ∨ v = none ∧ x = field.default := by
  constructor
  · intro gets
    cases gets with
    | written takes => exact Or.inl ⟨_, rfl, takes⟩
    | missing => exact Or.inr ⟨rfl, rfl⟩
  · rintro (⟨value, rfl, takes⟩ | ⟨rfl, rfl⟩)
    · exact .written takes
    · exact .missing

theorem orDefault_text {field : Field} {v : Option Value} {d s : String}
    (isText : field.default = .text d) :
    orDefault text? d v = some s ↔ field.Gets v (.text s) := by
  have takes (value : Value) : text? value = some s ↔ field.Takes value (.text s) := by
    rw [text?_eq_some_iff]
    constructor
    · rintro rfl
      cases field with
      | workdirEnv => exact .workdirEnv s
      | socketName => exact .socketName s
      | saveCommand | logPath => cases isText
    · intro takes
      cases takes <;> rfl
  simp only [orDefault_eq_some_iff, Field.gets_iff, takes, isText, Setting.text.injEq]

theorem orDefault_saveCommand {v : Option Value} {command : Option (List String)} :
    orDefault (fun v => (texts? v).map some) none v = some command ↔
      Field.saveCommand.Gets v ((command.map Setting.words).getD .unset) := by
  have takes (value : Value) : (texts? value).map some = some command ↔
      Field.saveCommand.Takes value ((command.map Setting.words).getD .unset) := by
    simp only [Option.map_eq_some_iff, texts?_eq_some_iff]
    constructor
    · rintro ⟨ws, ⟨form, rfl⟩, rfl⟩
      exact .saveCommand form ws
    · intro takes
      cases command with
      | none => cases takes
      | some ws =>
          cases takes with
          | saveCommand form => exact ⟨ws, ⟨form, rfl⟩, rfl⟩
  simp only [orDefault_eq_some_iff, Field.gets_iff, takes, Field.default]
  cases command <;> simp

theorem orDefault_logPath {v : Option Value} {path : Option Path} :
    orDefault (fun v => (text? v).map fun s => some (Path.ofText s)) none v = some path ↔
      Field.logPath.Gets v ((path.map Setting.path).getD .unset) := by
  have takes (value : Value) : (text? value).map (fun s => some (Path.ofText s)) = some path ↔
      Field.logPath.Takes value ((path.map Setting.path).getD .unset) := by
    simp only [Option.map_eq_some_iff, text?_eq_some_iff]
    constructor
    · rintro ⟨s, rfl, rfl⟩
      exact .logPath s
    · intro takes
      cases path with
      | none => cases takes
      | some path =>
          cases takes with
          | logPath s => exact ⟨s, rfl, rfl⟩
  simp only [orDefault_eq_some_iff, Field.gets_iff, takes, Field.default]
  cases path <;> simp

/-! ### Each section by itself -/

/-- The values of a section are those at the places of its fields. -/
theorem getElem?_sectionValues? {v : Value} {values : List (Option Value)} {field : Field}
    (read : sectionValues? (keysOf field.home) v = some values) :
    values[field.position]?.join = field.valueIn? v := by
  obtain ⟨-, rfl⟩ := sectionValues?_eq_some_iff.mp read
  cases field <;> cases v <;> rfl

theorem exists_sectionValues?_of_fits {name : String} {v : Value} (fits : Fits name v) :
    ∃ values, sectionValues? (keysOf name) v = some values :=
  ⟨_, sectionValues?_eq_some_iff.mpr ⟨fits, rfl⟩⟩

/-- The fields of one section get what is written in it, and the others keep what they hold. -/
structure FieldsOf (name : String) (v : Option Value) (config config' : Config) : Prop where
  inside : ∀ field : Field, field.home = name →
    field.Gets (v.bind field.valueIn?) (config'.setting field)
  outside : ∀ field : Field, field.home ≠ name → config'.setting field = config.setting field

/-- The fields of a section hold their defaults. -/
def Untouched (name : String) (config : Config) : Prop :=
  ∀ field : Field, field.home = name → config.setting field = field.default

/-- Taking over a section is what reading each of its fields comes to. -/
def TakesOver (name : String) (take : Value → Config → Option Config) : Prop :=
  ∀ v config config', Untouched name config →
    (take v config = some config' ↔ Fits name v ∧ FieldsOf name (some v) config config')

/-- What a section gives to its fields settles the configuration. -/
theorem FieldsOf.eq {name : String} {v : Option Value} {config config' made : Config}
    (h : FieldsOf name v config config')
    (inside : ∀ field : Field, field.home = name → made.setting field = config'.setting field)
    (outside : ∀ field : Field, field.home ≠ name → made.setting field = config.setting field) :
    made = config' := by
  refine eq_of_setting fun field => ?_
  by_cases home : field.home = name
  · exact inside field home
  · rw [outside field home, h.outside field home]

theorem takesOver_endpoint : TakesOver "endpoint" withEndpoint := by
  intro v config config' untouched
  have env := orDefault_text (v := Field.workdirEnv.valueIn? v) (s := config'.workdirEnv)
    (untouched .workdirEnv rfl).symm
  have name := orDefault_text (v := Field.socketName.valueIn? v) (s := config'.socketName)
    (untouched .socketName rfl).symm
  have first {values : List (Option Value)}
      (there : sectionValues? (keysOf "endpoint") v = some values) :
      values[0]?.join = Field.workdirEnv.valueIn? v :=
    @getElem?_sectionValues? v values .workdirEnv there
  have second {values : List (Option Value)}
      (there : sectionValues? (keysOf "endpoint") v = some values) :
      values[1]?.join = Field.socketName.valueIn? v :=
    @getElem?_sectionValues? v values .socketName there
  constructor
  · intro read
    obtain ⟨values, there, read⟩ := Option.bind_eq_some_iff.mp read
    obtain ⟨_, envRead, read⟩ := Option.bind_eq_some_iff.mp read
    obtain ⟨_, nameRead, read⟩ := Option.bind_eq_some_iff.mp read
    cases read
    rw [first there] at envRead
    rw [second there] at nameRead
    have fits := (@sectionValues?_eq_some_iff "endpoint" v values).mp there |>.1
    refine ⟨fits, fun field home => ?_, fun field other => ?_⟩
    · rcases Field.eq_of_home_endpoint home with rfl | rfl
      · exact env.mp envRead
      · exact name.mp nameRead
    · cases field with
      | workdirEnv | socketName => exact absurd rfl other
      | saveCommand | logPath => rfl
  · rintro ⟨fits, fields⟩
    obtain ⟨values, there⟩ := exists_sectionValues?_of_fits fits
    have envRead := env.mpr (fields.inside .workdirEnv rfl)
    have nameRead := name.mpr (fields.inside .socketName rfl)
    rw [← first there] at envRead
    rw [← second there] at nameRead
    have same : { config with workdirEnv := config'.workdirEnv, socketName := config'.socketName } =
        config' := by
      refine fields.eq (fun field home => ?_) fun field other => ?_
      · rcases Field.eq_of_home_endpoint home with rfl | rfl <;> rfl
      · cases field with
        | workdirEnv | socketName => exact absurd rfl other
        | saveCommand | logPath => rfl
    exact Option.bind_eq_some_iff.mpr ⟨values, there, Option.bind_eq_some_iff.mpr
      ⟨_, envRead, Option.bind_eq_some_iff.mpr ⟨_, nameRead, congrArg some same⟩⟩⟩

/-- A section with a single field. -/
theorem takesOver_single {α : Type} {field : Field} {read : Value → Option α} {get : Config → α}
    {put : α → Config → Config} (single : ∀ other : Field, other.home = field.home → other = field)
    (gets : ∀ {config : Config} {v : Option Value} {x : α}, config.setting field = field.default →
      (orDefault read (get config) v = some x ↔ field.Gets v ((put x config).setting field)))
    (kept : ∀ (config : Config) (x : α) (other : Field), other ≠ field →
      (put x config).setting other = config.setting other)
    (restores : ∀ config config' : Config,
      (put (get config') config).setting field = config'.setting field) :
    TakesOver field.home fun v config => do
      let values ← sectionValues? (keysOf field.home) v
      let x ← orDefault read (get config) values[field.position]?.join
      return put x config := by
  intro v config config' untouched
  have other {f : Field} (home : f.home ≠ field.home) : f ≠ field := fun eq => home (eq ▸ rfl)
  constructor
  · intro taken
    obtain ⟨values, there, taken⟩ := Option.bind_eq_some_iff.mp taken
    obtain ⟨x, xRead, taken⟩ := Option.bind_eq_some_iff.mp taken
    cases taken
    rw [getElem?_sectionValues? there] at xRead
    refine ⟨(sectionValues?_eq_some_iff.mp there).1, fun f home => ?_,
      fun f home => kept config x f (other home)⟩
    rw [single f home]
    exact (gets (untouched field rfl)).mp xRead
  · rintro ⟨fits, fields⟩
    obtain ⟨values, there⟩ := exists_sectionValues?_of_fits fits
    have gotten := fields.inside field rfl
    rw [← restores config config'] at gotten
    have xRead := (gets (untouched field rfl)).mpr gotten
    rw [Option.bind_some, ← getElem?_sectionValues? there] at xRead
    have same : put (get config') config = config' :=
      fields.eq (fun f home => single f home ▸ restores config config')
        fun f home => kept config _ f (other home)
    exact Option.bind_eq_some_iff.mpr ⟨values, there, Option.bind_eq_some_iff.mpr
      ⟨_, xRead, congrArg some same⟩⟩

theorem takesOver_save : TakesOver "save" withSave := by
  refine @takesOver_single _ .saveCommand (fun v => (texts? v).map some) Config.saveCommand
    (fun saveCommand config => { config with saveCommand }) (fun _ => Field.eq_of_home_save) ?_ ?_
    fun _ _ => rfl
  · intro config v x default
    have unset : config.saveCommand = none := by
      cases command : config.saveCommand with
      | none => rfl
      | some ws => simp [setting, command, Field.default] at default
    rw [unset]
    exact orDefault_saveCommand
  · intro config x other ne
    cases other with
    | saveCommand => exact absurd rfl ne
    | workdirEnv | socketName | logPath => rfl

theorem takesOver_log : TakesOver "log" withLog := by
  refine @takesOver_single _ .logPath (fun v => (text? v).map fun s => some (Path.ofText s))
    Config.logPath (fun logPath config => { config with logPath }) (fun _ => Field.eq_of_home_log)
    ?_ ?_ fun _ _ => rfl
  · intro config v x default
    have unset : config.logPath = none := by
      cases path : config.logPath with
      | none => rfl
      | some p => simp [setting, path, Field.default] at default
    rw [unset]
    exact orDefault_logPath
  · intro config x other ne
    cases other with
    | logPath => exact absurd rfl ne
    | workdirEnv | socketName | saveCommand => rfl

/-- A section may be missing; its fields then hold their defaults. -/
theorem TakesOver.withSection_eq_some_iff {name : String} {take : Value → Config → Option Config}
    (h : TakesOver name take) {v : Option Value} {config config' : Config}
    (untouched : Untouched name config) :
    withSection take v config = some config' ↔
      (∀ value, v = some value → Fits name value) ∧ FieldsOf name v config config' := by
  cases v with
  | some value =>
      rw [withSection, h value config config' untouched]
      simp
  | none =>
      rw [withSection, Option.some.injEq]
      constructor
      · rintro rfl
        refine ⟨nofun, fun field home => ?_, fun _ _ => rfl⟩
        rw [untouched field home]
        exact .missing
      · rintro ⟨-, fields⟩
        refine fields.eq (fun field home => ?_) fun _ _ => rfl
        rcases Field.gets_iff.mp (fields.inside field home) with ⟨value, there, -⟩ | ⟨-, default⟩
        · cases there
        · rw [untouched field home, default]

/-! ### The whole document -/

theorem setting_default (field : Field) : setting {} field = field.default := by
  cases field <;> rfl

theorem FieldsOf.untouched {name other : String} {v : Option Value} {config config' : Config}
    (h : FieldsOf name v config config') (apart : other ≠ name) (before : Untouched other config) :
    Untouched other config' := by
  intro field home
  rw [h.outside field (home ▸ apart), before field home]

theorem untouched_default (name : String) : Untouched name {} :=
  fun field _ => setting_default field

/-- What reading a document gives, the document gives field by field. -/
theorem decodes_of_ofEntries? {entries : Entries} {config : Config}
    (read : ofEntries? entries = some config) : Decodes entries config := by
  unfold ofEntries? at read
  split at read
  · rename_i readable
    obtain ⟨one, readEndpoint, read⟩ := Option.bind_eq_some_iff.mp read
    obtain ⟨two, readSave, readLog⟩ := Option.bind_eq_some_iff.mp read
    obtain ⟨fitsEndpoint, endpoint⟩ :=
      (takesOver_endpoint.withSection_eq_some_iff (untouched_default _)).mp readEndpoint
    have unsaved := endpoint.untouched (by decide) (untouched_default "save")
    obtain ⟨fitsSave, save⟩ := (takesOver_save.withSection_eq_some_iff unsaved).mp readSave
    have unlogged := save.untouched (by decide)
      (endpoint.untouched (by decide) (untouched_default "log"))
    obtain ⟨fitsLog, log⟩ := (takesOver_log.withSection_eq_some_iff unlogged).mp readLog
    refine ⟨readable, fun name mem => ?_, fun field => ?_⟩
    · simp only [sections, List.mem_cons, List.not_mem_nil, or_false] at mem
      rcases mem with rfl | rfl | rfl
      · exact fitsEndpoint
      · exact fitsSave
      · exact fitsLog
    · by_cases inEndpoint : field.home = "endpoint"
      · rw [log.outside field (by simp [inEndpoint]), save.outside field (by simp [inEndpoint]),
          Field.value?, inEndpoint]
        exact endpoint.inside field inEndpoint
      · cases field with
        | workdirEnv | socketName => exact absurd rfl inEndpoint
        | saveCommand =>
            rw [log.outside .saveCommand (by decide)]
            exact save.inside .saveCommand rfl
        | logPath => exact log.inside .logPath rfl
  · cases read

/-- What a document gives field by field, reading it gives. -/
theorem Decodes.ofEntries?_eq {entries : Entries} {config : Config} (h : Decodes entries config) :
    ofEntries? entries = some config := by
  have endpoint : FieldsOf "endpoint" (entries.lookup "endpoint") {}
      { workdirEnv := config.workdirEnv, socketName := config.socketName } := by
    refine ⟨fun field home => ?_, fun field other => ?_⟩
    · rcases Field.eq_of_home_endpoint home with rfl | rfl
      · exact h.fields .workdirEnv
      · exact h.fields .socketName
    · cases field with
      | workdirEnv | socketName => exact absurd rfl other
      | saveCommand | logPath => rfl
  have save : FieldsOf "save" (entries.lookup "save")
      { workdirEnv := config.workdirEnv, socketName := config.socketName }
      { config with logPath := none } := by
    refine ⟨fun field home => ?_, fun field other => ?_⟩
    · obtain rfl := Field.eq_of_home_save home
      exact h.fields .saveCommand
    · cases field with
      | saveCommand => exact absurd rfl other
      | workdirEnv | socketName | logPath => rfl
  have log : FieldsOf "log" (entries.lookup "log") { config with logPath := none } config := by
    refine ⟨fun field home => ?_, fun field other => ?_⟩
    · obtain rfl := Field.eq_of_home_log home
      exact h.fields .logPath
    · cases field with
      | logPath => exact absurd rfl other
      | workdirEnv | socketName | saveCommand => rfl
  have unsaved := endpoint.untouched (by decide) (untouched_default "save")
  have unlogged := save.untouched (by decide)
    (endpoint.untouched (by decide) (untouched_default "log"))
  have readEndpoint := (takesOver_endpoint.withSection_eq_some_iff (untouched_default _)).mpr
    ⟨h.sections _ (by decide), endpoint⟩
  have readSave := (takesOver_save.withSection_eq_some_iff unsaved).mpr
    ⟨h.sections _ (by decide), save⟩
  have readLog := (takesOver_log.withSection_eq_some_iff unlogged).mpr
    ⟨h.sections _ (by decide), log⟩
  rw [ofEntries?, if_pos h.readable]
  exact Option.bind_eq_some_iff.mpr ⟨_, readEndpoint, Option.bind_eq_some_iff.mpr
    ⟨_, readSave, readLog⟩⟩

theorem ofEntries?_eq_some_iff {entries : Entries} {config : Config} :
    ofEntries? entries = some config ↔ Decodes entries config :=
  ⟨decodes_of_ofEntries?, Decodes.ofEntries?_eq⟩

/-! ### What may differ between documents -/

/-- A field takes a value in one way at most. -/
theorem Field.Takes.unique {field : Field} {v v' : Value} {x x' : Setting} (h : field.Takes v x)
    (h' : field.Takes v' x') (same : v = v') : x = x' := by
  cases h with
  | saveCommand form ws =>
      cases h' with
      | saveCommand form' ws' =>
          obtain ⟨-, words⟩ := Value.array.inj same
          have injective : Function.Injective Value.text := fun s s' eq => Value.text.inj eq
          rw [List.map_injective_iff.mpr injective words]
  | workdirEnv | socketName | logPath =>
      cases h'
      rw [Value.text.inj same]

theorem Field.Gets.unique {field : Field} {v : Option Value} {x x' : Setting} (h : field.Gets v x)
    (h' : field.Gets v x') : x = x' := by
  cases h with
  | missing =>
      cases h'
      rfl
  | written takes =>
      cases h' with
      | written takes' => exact takes.unique takes' rfl

theorem Field.Gets.exists_setting {field : Field} {v : Option Value} {x : Setting}
    (h : field.Gets v x) : ∃ config : Config, config.setting field = x := by
  cases h with
  | missing => exact ⟨{}, setting_default field⟩
  | written takes =>
      cases takes with
      | workdirEnv s => exact ⟨{ workdirEnv := s }, rfl⟩
      | socketName s => exact ⟨{ socketName := s }, rfl⟩
      | saveCommand form ws => exact ⟨{ saveCommand := some ws }, rfl⟩
      | logPath s => exact ⟨{ logPath := some (.ofText s) }, rfl⟩

/-- Fields that each get something make a configuration together. -/
theorem exists_config_of_gets {v : Field → Option Value}
    (gets : ∀ field : Field, ∃ x, field.Gets (v field) x) :
    ∃ config : Config, ∀ field : Field, field.Gets (v field) (config.setting field) := by
  choose x gets using gets
  choose single single_eq using fun field => (gets field).exists_setting
  refine ⟨{
    workdirEnv := (single .workdirEnv).workdirEnv, socketName := (single .socketName).socketName
    saveCommand := (single .saveCommand).saveCommand, logPath := (single .logPath).logPath },
    fun field => ?_⟩
  have same := gets field
  rw [← single_eq field] at same
  cases field <;> exact same

/-- A document gives no configuration if a number in an unknown section cannot be held, if what
stands for a section cannot be one, or if a field does not take what is written at its place. -/
theorem ofEntries?_eq_none_iff {entries : Entries} :
    ofEntries? entries = none ↔
      Toml.entriesReadable (entries.filter fun e => !sections.contains e.1) = false ∨
        (∃ name ∈ sections, ∃ v, entries.lookup name = some v ∧ ¬ Fits name v) ∨
        ∃ (field : Field) (v : Value), field.value? entries = some v ∧ ∀ x, ¬ field.Takes v x := by
  constructor
  · intro nothing
    by_contra sound
    simp only [not_or, not_exists, not_and, not_not, not_forall, Bool.not_eq_false] at sound
    obtain ⟨readable, fits, takes⟩ := sound
    have gets (field : Field) : ∃ x, field.Gets (field.value? entries) x := by
      cases there : field.value? entries with
      | none => exact ⟨_, .missing⟩
      | some v =>
          obtain ⟨x, taken⟩ := takes field v there
          exact ⟨x, .written taken⟩
    obtain ⟨config, fields⟩ := exists_config_of_gets gets
    have read := Decodes.ofEntries?_eq ⟨readable, fits, fields⟩
    rw [nothing] at read
    cases read
  · intro unsound
    cases read : ofEntries? entries with
    | none => rfl
    | some config =>
        have decodes := decodes_of_ofEntries? read
        rcases unsound with unreadable | ⟨name, mem, v, there, unfit⟩ | ⟨field, v, there, takes⟩
        · rw [decodes.readable] at unreadable
          cases unreadable
        · exact absurd (decodes.sections name mem v there) unfit
        · have gets := decodes.fields field
          rw [there] at gets
          cases gets with
          | written taken => exact absurd taken (takes _)

/-- Documents with fitting sections and the same values at the places of the fields give the same
configuration. -/
theorem ofEntries?_congr {entries entries' : Entries}
    (readable : Toml.entriesReadable (entries.filter fun e => !sections.contains e.1) =
      Toml.entriesReadable (entries'.filter fun e => !sections.contains e.1))
    (fits : ∀ name ∈ sections, (∀ v, entries.lookup name = some v → Fits name v) ↔
      ∀ v, entries'.lookup name = some v → Fits name v)
    (values : ∀ field : Field, field.value? entries = field.value? entries') :
    ofEntries? entries = ofEntries? entries' := by
  refine Option.ext fun config => ?_
  rw [ofEntries?_eq_some_iff, ofEntries?_eq_some_iff]
  constructor
  · rintro ⟨readable', sections, fields⟩
    exact ⟨readable ▸ readable', fun name mem => (fits name mem).mp (sections name mem),
      fun field => values field ▸ fields field⟩
  · rintro ⟨readable', sections, fields⟩
    exact ⟨readable ▸ readable', fun name mem => (fits name mem).mpr (sections name mem),
      fun field => values field ▸ fields field⟩

theorem lookup_section (before after : Entries) (name : String) (v : Value) :
    (before ++ (name, v) :: after).lookup name = some ((before.lookup name).getD v) := by
  rw [List.lookup_append, List.lookup_cons_self]
  cases before.lookup name <;> rfl

theorem lookup_section_ne (before after : Entries) {name other : String} (ne : other ≠ name)
    (v : Value) :
    (before ++ (name, v) :: after).lookup other = (before ++ after).lookup other := by
  have unlike : (other == name) = false := by simpa using ne
  rw [List.lookup_append, List.lookup_append, List.lookup_cons, unlike]

/-- What stands for a section may change, as long as it has the same values at the places of its
fields. -/
theorem ofEntries?_section {before after : Entries} {name : String} {v v' : Value}
    (known : name ∈ sections) (fits : Fits name v ↔ Fits name v')
    (values : ∀ field : Field, field.home = name → field.valueIn? v = field.valueIn? v') :
    ofEntries? (before ++ (name, v) :: after) = ofEntries? (before ++ (name, v') :: after) := by
  refine ofEntries?_congr ?_ (fun other _ => ?_) fun field => ?_
  · simp [known]
  · by_cases same : other = name
    · rw [same, lookup_section, lookup_section]
      cases before.lookup name <;> simp [fits]
    · rw [lookup_section_ne _ _ same, lookup_section_ne _ _ same]
  · rw [Field.value?, Field.value?]
    by_cases home : field.home = name
    · rw [home, lookup_section, lookup_section]
      cases before.lookup name with
      | none => exact values field home
      | some w => rfl
    · rw [lookup_section_ne _ _ home, lookup_section_ne _ _ home]

/-! ### Unknown keys -/

theorem entriesReadable_iff {entries : Entries} :
    Toml.entriesReadable entries = true ↔ ∀ e ∈ entries, e.2.isReadable = true := by
  induction entries with
  | nil => simp [Toml.entriesReadable]
  | cons e entries ih =>
      obtain ⟨key, v⟩ := e
      rw [Toml.entriesReadable, Bool.and_eq_true, ih, List.forall_mem_cons]

theorem entriesReadable_filter {entries : Entries} (readable : Toml.entriesReadable entries = true)
    (p : String × Value → Bool) : Toml.entriesReadable (entries.filter p) = true :=
  entriesReadable_iff.mpr fun e mem =>
    entriesReadable_iff.mp readable e (List.mem_of_mem_filter mem)

/-- What stands for a section, without unknown keys. -/
def knownIn (name : String) : Value → Value
  | .table form entries => .table form (entries.filter fun e => (keysOf name).contains e.1)
  | v => v

/-- A document without unknown sections and keys. -/
def known (entries : Entries) : Entries :=
  (entries.filter fun e => sections.contains e.1).map fun e => (e.1, knownIn e.1 e.2)

theorem lookup_filter {α : Type} (p : String → Bool) {key : String} (kept : p key = true)
    (entries : List (String × α)) :
    (entries.filter fun e => p e.1).lookup key = entries.lookup key := by
  induction entries with
  | nil => rfl
  | cons e entries ih =>
      obtain ⟨k, v⟩ := e
      by_cases eq : key = k
      · subst eq
        rw [List.filter_cons, if_pos kept, List.lookup_cons_self, List.lookup_cons_self]
      · have unlike : (key == k) = false := by simpa using eq
        rw [List.lookup_cons, unlike, ← ih, List.filter_cons]
        split
        · rw [List.lookup_cons, unlike]
        · rfl

theorem lookup_map {α β : Type} (f : String → α → β) (key : String) (entries : List (String × α)) :
    (entries.map fun e => (e.1, f e.1 e.2)).lookup key = (entries.lookup key).map (f key) := by
  induction entries with
  | nil => rfl
  | cons e entries ih =>
      obtain ⟨k, v⟩ := e
      by_cases eq : key = k
      · subst eq
        rw [List.map_cons, List.lookup_cons_self, List.lookup_cons_self]
        rfl
      · have unlike : (key == k) = false := by simpa using eq
        rw [List.map_cons, List.lookup_cons, List.lookup_cons, unlike, ih]

theorem lookup_known {name : String} (mem : name ∈ sections) (entries : Entries) :
    (known entries).lookup name = (entries.lookup name).map (knownIn name) := by
  rw [known, lookup_map, lookup_filter (fun key => sections.contains key) (by simpa using mem)]

theorem Field.home_mem_sections (field : Field) : field.home ∈ sections := by
  cases field <;> decide

theorem Field.valueIn?_knownIn (field : Field) (v : Value) :
    field.valueIn? (knownIn field.home v) = field.valueIn? v := by
  cases v with
  | table form entries =>
      exact lookup_filter (fun key => (keysOf field.home).contains key) (by cases field <;> decide)
        entries
  | _ => rfl

theorem fits_knownIn {name : String} {v : Value} (readable : v.isReadable = true) :
    Fits name (knownIn name v) ↔ Fits name v := by
  cases v with
  | table form entries =>
      have rest : Toml.entriesReadable entries = true := by
        rwa [Value.isReadable] at readable
      refine ⟨fun _ => .table (entriesReadable_filter rest _), fun _ => .table ?_⟩
      exact entriesReadable_filter (entriesReadable_filter rest _) _
  | _ => rfl

/-- If all its numbers can be held, a document gives what it gives without its unknown keys. -/
theorem ofEntries?_known {entries : Entries} (readable : Toml.entriesReadable entries = true) :
    ofEntries? (known entries) = ofEntries? entries := by
  refine ofEntries?_congr ?_ (fun name mem => ?_) fun field => ?_
  · rw [entriesReadable_filter readable]
    have none : (known entries).filter (fun e => !sections.contains e.1) = [] := by
      rw [List.filter_eq_nil_iff]
      rintro ⟨key, v⟩ mem
      obtain ⟨e, kept, eq⟩ := List.mem_map.mp mem
      cases eq
      simpa using (List.mem_filter.mp kept).2
    rw [none]
    rfl
  · rw [lookup_known mem]
    cases there : entries.lookup name with
    | none => simp
    | some v =>
        obtain ⟨before, after, eq, -⟩ := List.lookup_eq_some_iff.mp there
        have held : v.isReadable = true :=
          entriesReadable_iff.mp readable (name, v) (by simp [eq])
        simp [fits_knownIn held]
  · rw [Field.value?, Field.value?, lookup_known field.home_mem_sections, Option.bind_map]
    exact Option.bind_congr fun v _ => field.valueIn?_knownIn v

/-! ### The two ways to write a section -/

/-- The values of a section at the keys of its fields, in order. -/
def keyed (name : String) (items : List Value) : Entries :=
  (keysOf name).zip items

/-- A section may be written as an array: then its values go to the fields in order. -/
theorem ofEntries?_array {before after : Entries} {name : String} (known : name ∈ sections)
    (form : ArrayForm) (form' : TableForm) (items : List Value) :
    ofEntries? (before ++ (name, .array form items) :: after) =
      ofEntries? (before ++ (name, .table form' (keyed name items)) :: after) := by
  refine ofEntries?_section known ⟨fun _ => .table ?_, fun _ => .array⟩ fun field home => ?_
  · have none : (keyed name items).filter (fun e => !(keysOf name).contains e.1) = [] := by
      rw [List.filter_eq_nil_iff]
      rintro ⟨key, v⟩ mem
      simpa using (List.of_mem_zip mem).1
    rw [none]
    rfl
  · subst home
    change items[field.position]? = ((keysOf field.home).zip items).lookup field.key
    cases field with
    | workdirEnv | saveCommand | logPath => cases items <;> rfl
    | socketName =>
        match items with
        | [] | [_] | _ :: _ :: _ => rfl

theorem ofEntries?_moment {before after : Entries} {name : String} (known : name ∈ sections)
    (written : String) (form : TableForm) :
    ofEntries? (before ++ (name, .moment written) :: after) =
      ofEntries? (before ++ (name, .table form []) :: after) :=
  ofEntries?_section known ⟨fun _ => .table rfl, fun _ => .moment⟩ fun _ _ => rfl

/-- Reading a configuration goes field by field, whatever the document.

* A document gives a configuration if its sections can be sections and every field takes what is
  written at its place, or holds its default if nothing is; a number that cannot be held in unknown
  content makes it no configuration. Otherwise it gives none at all, not a part of one.
* What a field holds depends on its own place only.
* Unknown sections and keys do not matter. Only a number in them that cannot be held does: such a
  text is refused like one that is no document.
* An array stands for the table with its items at the keys in order: missing ones at the end have
  their defaults, and more than there are fields do not matter. A date or a time stands for an
  empty table.
* What the nearest file gives so is what is loaded. -/
theorem decoding_by_field :
    (∀ entries config, ofEntries? entries = some config ↔ Decodes entries config) ∧
      (∀ entries, ofEntries? entries = none ↔
        Toml.entriesReadable (entries.filter fun e => !sections.contains e.1) = false ∨
          (∃ name ∈ sections, ∃ v, entries.lookup name = some v ∧ ¬ Fits name v) ∨
          ∃ (field : Field) (v : Value), field.value? entries = some v ∧ ∀ x, ¬ field.Takes v x) ∧
      (∀ entries entries' config config' (field : Field), ofEntries? entries = some config →
        ofEntries? entries' = some config' → field.value? entries = field.value? entries' →
        config.setting field = config'.setting field) ∧
      (∀ entries entries', Toml.entriesReadable entries = true →
        Toml.entriesReadable entries' = true → known entries = known entries' →
        ofEntries? entries = ofEntries? entries') ∧
      (∀ name ∈ sections, ∀ before after form form' items,
        ofEntries? (before ++ (name, .array form items) :: after) =
          ofEntries? (before ++ (name, .table form' (keyed name items)) :: after)) ∧
      (∀ name ∈ sections, ∀ before after written form,
        ofEntries? (before ++ (name, .moment written) :: after) =
          ofEntries? (before ++ (name, .table form []) :: after)) ∧
      ∀ t cwd start dir text, Nearest t cwd start dir (Utf8.encode text) →
        load t cwd start =
          ((Toml.document text).bind ofEntries?).elim (.error (.invalid (fileIn dir)))
            fun config => .ok (config, some (fileIn dir)) := by
  refine ⟨fun entries config => ofEntries?_eq_some_iff, fun entries => ofEntries?_eq_none_iff,
    ?_, ?_, ?_, ?_, ?_⟩
  · intro entries entries' config config' field read read' same
    have gets := (decodes_of_ofEntries? read).fields field
    have gets' := (decodes_of_ofEntries? read').fields field
    exact gets.unique (same ▸ gets')
  · intro entries entries' readable readable' same
    rw [← ofEntries?_known readable, same, ofEntries?_known readable']
  · intro name mem before after form form' items
    exact ofEntries?_array mem form form' items
  · intro name mem before after written form
    exact ofEntries?_moment mem written form
  · intro t cwd start dir text nearest
    have read : ofToml? text = (Toml.document text).bind ofEntries? := rfl
    rw [load_of_nearest nearest, Utf8.decode?_encode, ← read]
    cases decoded : ofToml? text <;> simp only [decoded, Option.elim]

end ReviewChannel.Config
