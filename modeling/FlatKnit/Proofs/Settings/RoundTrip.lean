import FlatKnit.Proofs.Json.Text
import FlatKnit.Proofs.Settings.Valid
import FlatKnit.Proofs.Toml.Document

/-!
Settings files: settings that are saved are loaded again as they were, if the text layer gives back
the tree that it has written.
-/

namespace FlatKnit

/-- A text layer reads the tree of some settings from the text that it writes for them. -/
def TextLayer.Keeps (layer : TextLayer) (document : FileFormat) (settings : Settings) : Prop :=
  match document with
  | .json => layer.readJson (layer.writeJson settings.toJson) = some (.ofJson settings.toJson)
  | .toml => layer.readToml (layer.writeToml settings.toToml) = some (.ofSections settings.toToml)

namespace Settings

open SettingsTree

section Trees

/-- The part for a size label: without a label it is null in JSON, and missing in TOML. -/
def labelParts (document : FileFormat) : Option String → List (String × SettingsTree)
  | some label => [("size_label", .text label)]
  | none =>
    match document with
    | .json => [("size_label", .null)]
    | .toml => []

/-- What a file of a format says of the gauge. -/
def gaugeParts (settings : Settings) : List (String × SettingsTree) :=
  [("stitches_per_four_inches", .number settings.gauge.stitches),
    ("rows_per_four_inches", .number settings.gauge.rows)]

/-- What a file of a format says of the generation. -/
def generationParts (document : FileFormat) (settings : Settings) : List (String × SettingsTree) :=
  ("size_modifier", .number settings.size) :: labelParts document settings.sizeLabel

/-- What a file of a format says of the output. -/
def outputParts (settings : Settings) : List (String × SettingsTree) :=
  [("format", .text settings.format.name), ("numbered", .flag settings.numbered)]

/-- What a file of a format says of the log. -/
def loggingParts (settings : Settings) : List (String × SettingsTree) :=
  [("level", .text settings.logLevel), ("json", .flag settings.logJson)]

/-- The tree that a file of a format holds for some settings. -/
def writtenTree (document : FileFormat) (settings : Settings) : SettingsTree :=
  .table (JsonText.keyed [("gauge", .table (JsonText.keyed settings.gaugeParts)),
    ("generation", .table (JsonText.keyed (settings.generationParts document))),
    ("output", .table (JsonText.keyed settings.outputParts)),
    ("logging", .table (JsonText.keyed settings.loggingParts))])

variable {document : FileFormat} (settings earlier : Settings)

/-- The gauge is read from what is written of it, over any gauge before it. -/
theorem read_gaugeParts :
    readFields document gaugeFields (.table (JsonText.keyed settings.gaugeParts)) earlier =
      some { earlier with gauge := settings.gauge } :=
  rfl

/-- The multiplier is read from what is written of it, and the label if there was none before. -/
theorem read_generationParts (unlabelled : earlier.sizeLabel = none) :
    readFields document generationFields
        (.table (JsonText.keyed (settings.generationParts document))) earlier =
      some { earlier with size := settings.size, sizeLabel := settings.sizeLabel } := by
  obtain ⟨gauge, size, label, format, numbered, logLevel, logJson⟩ := settings
  cases label with
  | some text => rfl
  | none =>
    -- What is missing keeps what was there before, and that is no label.
    obtain ⟨_, _, _, _, _, _, _⟩ := earlier
    obtain rfl : _ = none := unlabelled
    cases document <;> rfl

/-- The output is read from what is written of it. -/
theorem read_outputParts :
    readFields document (outputFields document)
        (.table (JsonText.keyed settings.outputParts)) earlier =
      some { earlier with format := settings.format, numbered := settings.numbered } := by
  -- Each of the two formats is read back from its name.
  obtain ⟨gauge, size, label, format, numbered, logLevel, logJson⟩ := settings
  cases format <;> rfl

/-- The log is read from what is written of it. -/
theorem read_loggingParts :
    readFields document loggingFields (.table (JsonText.keyed settings.loggingParts)) earlier =
      some { earlier with logLevel := settings.logLevel, logJson := settings.logJson } :=
  rfl

/-- A known section that comes for the first time is read, and the others after it. -/
theorem readEntries_known {fields : List (String × FieldReader)} {seen : List String} {key : String}
    {reader : FieldReader} {part : SettingsTree} {rest : List (Option String × SettingsTree)}
    {read : Settings} (known : fields.lookup key = some reader) (fresh : seen.contains key = false)
    (done : reader part earlier = some read) :
    readEntries fields seen ((some key, part) :: rest) earlier =
      readEntries fields (key :: seen) rest read := by
  simp only [readEntries, known, fresh, done]
  rfl

/-- The settings are read from the tree that is written of them. -/
theorem ofTree_writtenTree : ofTree document (settings.writtenTree document) = some settings := by
  -- The label is read over the standard settings, which have none.
  change readEntries (sections document) []
    [(some "gauge", .table (JsonText.keyed settings.gaugeParts)),
      (some "generation", .table (JsonText.keyed (settings.generationParts document))),
      (some "output", .table (JsonText.keyed settings.outputParts)),
      (some "logging", .table (JsonText.keyed settings.loggingParts))] standard = some settings
  rw [readEntries_known _ rfl rfl (settings.read_gaugeParts standard),
    readEntries_known _ rfl rfl (settings.read_generationParts _ rfl),
    readEntries_known _ rfl rfl (settings.read_outputParts _),
    readEntries_known _ rfl rfl (settings.read_loggingParts _)]
  rfl

end Trees

section Texts

variable {settings : Settings}

/-- A number that can be used is finite, and so it is written as a decimal. -/
theorem ofFloat_usable {value : Float} (usable : isUsable value = true) :
    Json.ofFloat value = .decimal value := by
  rw [Json.ofFloat, if_pos (Bool.and_eq_true_iff.mp usable).1]

/-- The tree of valid settings as JSON is what a JSON file holds for them. -/
theorem ofJson_toJson (valid : settings.Valid) :
    ofJson settings.toJson = settings.writtenTree .json := by
  have usable := Bool.and_eq_true_iff.mp valid.gauge
  rw [toJson, ofFloat_usable usable.1, ofFloat_usable usable.2, ofFloat_usable valid.size]
  -- The label is null or a text, and all other parts have one form.
  obtain ⟨gauge, size, label, format, numbered, logLevel, logJson⟩ := settings
  cases label <;> rfl

/-- The tree of settings as TOML is what a TOML file holds for them. -/
theorem ofSections_toToml (settings : Settings) :
    ofSections settings.toToml = settings.writtenTree .toml := by
  obtain ⟨gauge, size, label, format, numbered, logLevel, logJson⟩ := settings
  cases label <;> rfl

/-- Valid settings are read from the text of their file, if the layer keeps them. -/
theorem parse_render {layer : TextLayer} {document : FileFormat} (valid : settings.Valid)
    (keeps : layer.Keeps document settings) :
    layer.parse document (layer.render document settings) = .ok settings := by
  -- Reading takes the text back to its tree, and the tree of either format gives the settings.
  cases document with
  | json =>
    rw [TextLayer.Keeps, ofJson_toJson valid] at keeps
    rw [TextLayer.parse, TextLayer.render, keeps, Option.bind_some, ofTree_writtenTree]
  | toml =>
    rw [TextLayer.Keeps, ofSections_toToml] at keeps
    rw [TextLayer.parse, TextLayer.render, keeps, Option.bind_some, ofTree_writtenTree]

end Texts

section Own

variable {settings : Settings}

/-- Valid settings as JSON are printed as their tree, if their numbers are read back. -/
theorem reads_toJson (valid : settings.Valid) (stitches : JsonText.ReadsBack settings.gauge.stitches)
    (rows : JsonText.ReadsBack settings.gauge.rows) (size : JsonText.ReadsBack settings.size) :
    JsonText.Reads (Json.prettyAt 0 settings.toJson) (settings.writtenTree .json) := by
  have usable := Bool.and_eq_true_iff.mp valid.gauge
  have number {value : Float} (usable : isUsable value = true) (back : JsonText.ReadsBack value) :
      JsonText.Reads (Json.prettyAt 2 (.ofFloat value)) (.number value) := by
    rw [ofFloat_usable usable]
    exact JsonText.reads_decimal usable back
  have gauge := @JsonText.reads_object 1
    [("stitches_per_four_inches", .ofFloat settings.gauge.stitches),
      ("rows_per_four_inches", .ofFloat settings.gauge.rows)] settings.gaugeParts
    (.cons ⟨rfl, number usable.1 stitches⟩ (.cons ⟨rfl, number usable.2 rows⟩ .nil))
    (List.cons_ne_nil _ _)
  -- In JSON the label is null where there is none, so its entry is always there.
  have label : List.Forall₂ (JsonText.Agrees 2)
      [("size_label", .ofTextOption settings.sizeLabel)] (labelParts .json settings.sizeLabel) := by
    cases settings.sizeLabel with
    | none => exact .cons ⟨rfl, JsonText.reads_null⟩ .nil
    | some text => exact .cons ⟨rfl, JsonText.reads_text text⟩ .nil
  have generation := @JsonText.reads_object 1
    [("size_modifier", .ofFloat settings.size),
      ("size_label", .ofTextOption settings.sizeLabel)] (settings.generationParts .json)
    (.cons ⟨rfl, number valid.size size⟩ label) (List.cons_ne_nil _ _)
  have output := @JsonText.reads_object 1
    [("format", .text settings.format.name), ("numbered", .flag settings.numbered)]
    settings.outputParts
    (.cons ⟨rfl, JsonText.reads_text _⟩ (.cons ⟨rfl, JsonText.reads_flag _⟩ .nil))
    (List.cons_ne_nil _ _)
  have logging := @JsonText.reads_object 1
    [("level", .text settings.logLevel), ("json", .flag settings.logJson)] settings.loggingParts
    (.cons ⟨rfl, JsonText.reads_text _⟩ (.cons ⟨rfl, JsonText.reads_flag _⟩ .nil))
    (List.cons_ne_nil _ _)
  -- The four sections are the entries of the whole.
  exact JsonText.reads_object (.cons ⟨rfl, gauge⟩ (.cons ⟨rfl, generation⟩
    (.cons ⟨rfl, output⟩ (.cons ⟨rfl, logging⟩ .nil)))) (List.cons_ne_nil _ _)

/-- A section is read with two entries that can be read, if their keys differ. -/
theorem written_pair {first second : String} {one two : Toml} (differ : first ≠ second)
    (isFirst : TomlText.IsKey first) (isSecond : TomlText.IsKey second)
    (readOne : TomlText.Reads one) (readTwo : TomlText.Reads two) :
    TomlText.Written [(first, one), (second, two)] where
  each := by simp [isFirst, isSecond, readOne, readTwo]
  distinct := by simp [differ]

/-- The entries of the generation are read, with a label or without one. -/
theorem written_generation (usable : isUsable settings.size = true) :
    TomlText.Written (("size_modifier", .decimal settings.size) ::
      (settings.sizeLabel.map fun label => ("size_label", Toml.text label)).toList) := by
  have isKey : TomlText.IsKey "size_modifier" := by decide
  -- Without a label the section has one entry, and so no key can be there twice.
  cases settings.sizeLabel with
  | none =>
    exact ⟨by simp [isKey, TomlText.reads_decimal usable], by simp⟩
  | some label =>
    exact written_pair (by decide) isKey (by decide) (TomlText.reads_decimal usable)
      (TomlText.reads_text label)

/-- The sections of settings as TOML have the names of sections. -/
theorem headers_toToml (settings : Settings) :
    settings.toToml.map Prod.fst = ["gauge", "generation", "output", "logging"] :=
  rfl

/-- Valid settings as TOML are written so that all of their sections can be read. -/
theorem writtenSections_toToml (valid : settings.Valid) :
    TomlText.WrittenSections settings.toToml := by
  have usable := Bool.and_eq_true_iff.mp valid.gauge
  have headers : ∀ header ∈ ["gauge", "generation", "output", "logging"],
      TomlText.IsKey header := by
    simp only [List.forall_mem_cons]
    decide
  -- The four sections are gone through one by one; each is a pair of entries, the generation
  -- perhaps a single one.
  refine ⟨?_, by simp [headers_toToml]⟩
  intro part member
  refine ⟨headers part.1 (headers_toToml settings ▸ List.mem_map_of_mem member), ?_⟩
  simp only [toToml, List.mem_cons, List.not_mem_nil, or_false] at member
  rcases member with rfl | rfl | rfl | rfl
  · exact written_pair (by decide) (by decide) (by decide)
      (TomlText.reads_decimal usable.1) (TomlText.reads_decimal usable.2)
  · exact written_generation valid.size
  · exact written_pair (by decide) (by decide) (by decide)
      (TomlText.reads_text _) (TomlText.reads_flag _)
  · exact written_pair (by decide) (by decide) (by decide)
      (TomlText.reads_text _) (TomlText.reads_flag _)

/-- The program gives back all valid settings as JSON whose numbers are read back. -/
theorem own_keeps_json (valid : settings.Valid)
    (stitches : JsonText.ReadsBack settings.gauge.stitches)
    (rows : JsonText.ReadsBack settings.gauge.rows) (size : JsonText.ReadsBack settings.size) :
    TextLayer.own.Keeps .json settings := by
  have tree := JsonText.read_pretty (reads_toJson valid stitches rows size)
  rw [← ofJson_toJson valid] at tree
  simpa only [TextLayer.Keeps, TextLayer.own] using tree

/-- The program gives back all valid settings as TOML. -/
theorem own_keeps_toml (valid : settings.Valid) : TextLayer.own.Keeps .toml settings := by
  have tree := TomlText.read_documentText (writtenSections_toToml valid)
  simp only [TextLayer.Keeps, TextLayer.own, tree, Option.map_some, ofSections]

end Own

section Files

variable {layer : TextLayer} {settings : Settings} {path : String} {tree after : FileTree}
  {document : FileFormat}

/-- Settings that are saved are valid, and their file holds their text in the format of its path. -/
theorem read_of_save (format : FileFormat.ofPath path = .ok document)
    (saved : layer.save settings path tree = (after, .ok ())) :
    settings.Valid ∧ after.read path = .ok (layer.render document settings) := by
  unfold TextLayer.save at saved
  split at saved
  case h_1 => cases saved
  case h_2 text rendered =>
    obtain ⟨checked, passed, rendered⟩ := bind_eq_ok_iff.mp rendered
    obtain ⟨valid, rfl⟩ := checked_eq_ok_iff.mp passed
    rw [format, ok_bind] at rendered
    obtain rfl := Except.ok.inj rendered
    -- The file was written, for otherwise the fault would have been reported.
    have written : tree.write path (layer.render document settings) = (after, .ok ()) := by
      generalize tree.write path (layer.render document settings) = change at saved ⊢
      obtain ⟨reached, outcome⟩ := change
      obtain ⟨rfl, done⟩ := Prod.mk.inj saved
      cases outcome with
      | ok => rfl
      | error => cases done
    exact ⟨valid, FileTree.read_of_write written⟩

/--
Settings that are saved under a path are loaded from it again, every one of them as it was.

This holds for every text layer that gives back the tree which it has written for these settings.
-/
theorem load_of_save (format : FileFormat.ofPath path = .ok document)
    (keeps : layer.Keeps document settings)
    (saved : layer.save settings path tree = (after, .ok ())) :
    layer.load after path = .ok settings := by
  -- The text that is read is the one that was rendered, and valid settings pass their check again.
  obtain ⟨valid, read⟩ := read_of_save format saved
  rw [TextLayer.load, format, ok_bind, read, mapError_ok, ok_bind, parse_render valid keeps, ok_bind]
  exact checked_eq_ok_iff.mpr ⟨valid, rfl⟩

/-- Valid settings are saved under a path that needs no new folder and leads to no folder. -/
theorem save_of_walk {place : Place} (valid : settings.Valid)
    (format : FileFormat.ofPath path = .ok document) (top : folderPath path = "")
    (clean : pathFault path = none)
    (walked : tree.walk (pathStart path) (pathSteps path) = .ok place)
    (free : tree.isFolder place = false) :
    layer.save settings path tree = (tree.put place (layer.render document settings), .ok ()) := by
  have rendered : layer.renderAt settings path = .ok (layer.render document settings) := by
    rw [TextLayer.renderAt, checked_eq_ok_iff.mpr ⟨valid, rfl⟩, ok_bind, format, ok_bind]
    rfl
  -- With no folder above it, there is nothing to create.
  have made : tree.createFolder "" = (tree, .ok ()) := rfl
  have written : tree.writeFile path (layer.render document settings) =
      (tree.put place (layer.render document settings), .ok ()) := by
    simp only [FileTree.writeFile, FileTree.resolve, clean, walked, free, Bool.false_eq_true,
      if_false]
  simp only [TextLayer.save, rendered, FileTree.write, top, made, written]
  rfl

/-- Settings with a label that needs escapes, and a level in mixed case. -/
def sample : Settings :=
  { standard with
    size := 0.9, sizeLabel := some "\"Plus\"\n'large' \\", numbered := true, logLevel := "Debug" }

/-- The sample is loaded as it was saved, from a file of either format. -/
theorem load_of_save_sample :
    (∃ after, TextLayer.own.save sample "settings.json" .empty = (after, .ok ()) ∧
      TextLayer.own.load after "settings.json" = .ok sample) ∧
    ∃ after, TextLayer.own.save sample "settings.toml" .empty = (after, .ok ()) ∧
      TextLayer.own.load after "settings.toml" = .ok sample := by
  have valid : sample.Valid := fault?_eq_none_iff.mp (by decide)
  -- Both files are at the top of an empty tree, so that each path leads to a free place.
  constructor
  · have clean : pathFault "settings.json" = none :=
      pathFault_eq_none_iff.mpr (by decide)
    have extension : pathExtension "settings.json" = some "json" := by decide
    have format : FileFormat.ofPath "settings.json" = .ok .json := by
      simp [FileFormat.ofPath, extension]
    have saved := @save_of_walk .own sample "settings.json" .empty .json ["settings.json"] valid
      format (by decide) clean (by decide) (by decide)
    -- The numbers of the sample are short enough to be read back from their digits.
    have keeps := own_keeps_json valid (by decide +kernel) (by decide +kernel) (by decide +kernel)
    exact ⟨_, saved, load_of_save format keeps saved⟩
  · have clean : pathFault "settings.toml" = none :=
      pathFault_eq_none_iff.mpr (by decide)
    have extension : pathExtension "settings.toml" = some "toml" := by decide
    have format : FileFormat.ofPath "settings.toml" = .ok .toml := by
      simp [FileFormat.ofPath, extension]
    have saved := @save_of_walk .own sample "settings.toml" .empty .toml ["settings.toml"] valid
      format (by decide) clean (by decide) (by decide)
    exact ⟨_, saved, load_of_save format (own_keeps_toml valid) saved⟩

end Files

end Settings

end FlatKnit
