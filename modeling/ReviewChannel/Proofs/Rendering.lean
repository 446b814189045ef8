import ReviewChannel.Config.Reader
import ReviewChannel.Proofs.Endpoints
import ReviewChannel.Proofs.Fields
import ReviewChannel.Proofs.JsonReading
import ReviewChannel.Proofs.NearestFile

/-!
A configuration that is shown in JSON can be read back.

* `Config.Spelled` — the log path, if there is one, is a text. Only then the configuration can be
  written in JSON (`Config.isWritable_iff`), and every configuration that is loaded is one of these
  (`Config.spelled_of_load`).
* `Config.ofJson?_json` — what is shown of such a configuration says all that is in it.
* `Config.json_rendering_round_trip` — so the text in JSON settles the configuration and the label
  of its source, and it is what the program writes.
-/

namespace ReviewChannel.Config

/-! ### What can be written -/

/-- The log path, if there is one, is a text. -/
def Spelled (config : Config) : Prop :=
  ∀ path ∈ config.logPath, ∃ text, path = Path.ofText text

theorem isWritable_iff {config : Config} : config.isWritable = true ↔ config.Spelled := by
  rw [isWritable, Option.all_eq_true]
  refine forall₂_congr fun path _ => ?_
  rw [Option.isSome_iff_exists]
  refine exists_congr fun text => ?_
  rw [Utf8.decode?_eq_some_iff, Path.ofText, Path.mk.injEq]

theorem spelled_default : Spelled {} :=
  nofun

/-- A log path in a document is a text. -/
theorem spelled_of_ofToml? {document : String} {config : Config}
    (read : ofToml? document = some config) : config.Spelled := by
  obtain ⟨entries, -, decoded⟩ := Option.bind_eq_some_iff.mp read
  have gets := (ofEntries?_eq_some_iff.mp decoded).fields .logPath
  intro path there
  have holds : config.setting .logPath = .path path := by
    rw [setting, there]
    rfl
  rw [holds] at gets
  generalize Field.value? .logPath entries = written at gets
  cases gets with
  | written takes =>
      cases takes with
      | logPath text => exact ⟨text, rfl⟩

/-- Whatever is loaded can be written. -/
theorem spelled_of_load {t : FileTree} {cwd : Place} {start : Path} {config : Config}
    {source : Option Path} (loaded : load t cwd start = .ok (config, source)) : config.Spelled := by
  cases load_eq_iff.mp loaded with
  | defaults nowhere => exact spelled_default
  | configured nearest read => exact spelled_of_ofToml? read

/-! ### What is read back -/

theorem saveCommandOf?_array (words : List String) :
    saveCommandOf? (.array (words.map .text)) = some (some words) := by
  have each : (words.map Json.text).mapM Json.text? = some words := by
    induction words with
    | nil => rfl
    | cons word rest ih => simp [Json.text?, ih]
  rw [saveCommandOf?, each, Option.map_some]

/-- What is shown of a configuration says all that is in it, and the label of its source. -/
theorem ofJson?_json {config : Config} (spelled : config.Spelled) (source : Option Path) :
    ofJson? (config.json source) = some (config, sourceLabel source) := by
  obtain ⟨workdirEnv, socketName, saveCommand, logPath⟩ := config
  have command : saveCommandOf? (commandJson saveCommand) = some saveCommand := by
    cases saveCommand with
    | none => rfl
    | some words => exact saveCommandOf?_array words
  have path : logPathOf? (pathJson logPath) = some logPath := by
    cases logPath with
    | none => rfl
    | some path =>
        obtain ⟨text, rfl⟩ := spelled path rfl
        have shown : (Path.ofText text).display = text := Utf8.decodeLossy_encode text
        rw [pathJson, shown, logPathOf?]
  simp [ofJson?, json, Json.member?, Json.text?, command, path, List.lookup]

/-- What is written in JSON says all that is in the configuration. -/
theorem ofJsonText?_of_jsonText? {config : Config} {source : Option Path} {text : String}
    (written : config.jsonText? source = some text) :
    ofJsonText? text = some (config, sourceLabel source) := by
  unfold jsonText? at written
  by_cases writable : config.isWritable = true
  · rw [if_pos writable] at written
    obtain rfl := Option.some.inj written
    rw [ofJsonText?, Json.parse_pretty]
    exact ofJson?_json (isWritable_iff.mp writable) source
  · rw [if_neg writable] at written
    cases written

/-- The same is shown for sources of the same label. -/
theorem jsonText?_congr (config : Config) {source source' : Option Path}
    (same : sourceLabel source = sourceLabel source') :
    config.jsonText? source = config.jsonText? source' := by
  rw [jsonText?, jsonText?, json, json, same]

theorem jsonText?_of_spelled {config : Config} (spelled : config.Spelled) (source : Option Path) :
    config.jsonText? source = some (config.json source).pretty :=
  if_pos (isWritable_iff.mpr spelled)

/-- Every configuration whose log path is a text can be written in JSON, whatever its source:

* all of it can be read back, and the label of its source;
* no other configuration and no source of another label have the same text.

Every configuration that is loaded is one of these, and the program, asked for the JSON, writes this
text on a line and ends well. -/
theorem json_rendering_round_trip :
    (∀ (config : Config) (source : Option Path), config.Spelled →
      ∃ text, config.jsonText? source = some text ∧
        ofJsonText? text = some (config, sourceLabel source) ∧
        ∀ (config' : Config) (source' : Option Path),
          config'.jsonText? source' = some text ↔
            config' = config ∧ sourceLabel source' = sourceLabel source) ∧
    (∀ (t : FileTree) (cwd : Place) (start : Path) (config : Config) (source : Option Path),
      load t cwd start = .ok (config, source) → config.Spelled) ∧
    ∀ (words : List String) (arguments : Arguments) (place : Workplace) (config : Config)
      (source : Option Path),
      Arguments.read words = .ok arguments → arguments.request = .config true →
      load place.machine.tree place.cwd (FileTree.pathOf place.cwd) = .ok (config, source) →
      ∃ text, config.jsonText? source = some text ∧
        (Program.start words place).stdout = text ++ "\n" ∧
        (Program.start words place).exit? = some 0 := by
  refine ⟨?_, ?_, ?_⟩
  · intro config source spelled
    have written := jsonText?_of_spelled spelled source
    have reads := ofJsonText?_of_jsonText? written
    refine ⟨_, written, reads, ?_⟩
    intro config' source'
    constructor
    · intro same
      have again := ofJsonText?_of_jsonText? same
      rw [reads] at again
      obtain ⟨rfl, label⟩ := Prod.mk.inj (Option.some.inj again)
      exact ⟨rfl, label.symm⟩
    · rintro ⟨rfl, label⟩
      rw [jsonText?_congr config' label, written]
  · intro t cwd start config source loaded
    exact spelled_of_load loaded
  · intro words arguments place config source asked json loaded
    have written := jsonText?_of_spelled (spelled_of_load loaded) source
    refine ⟨_, written, ?_, ?_⟩
    · simp [Program.start, asked, json, loaded, Program.stdout, Program.output, Output.say]
    · simp [Program.start, asked, json, loaded, Program.exit?]

end ReviewChannel.Config
