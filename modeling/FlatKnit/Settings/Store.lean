import FlatKnit.Files.Tree
import FlatKnit.Json.Printer
import FlatKnit.Json.Reader
import FlatKnit.Settings.Sections
import FlatKnit.Toml.Printer
import FlatKnit.Toml.Reader

/-! Settings files: loading, saving, and the file that is loaded when none is named. -/

namespace FlatKnit

namespace Settings

/-- The sections of a settings file as JSON. -/
def toJson (settings : Settings) : Json :=
  .object
    [("gauge", .object [("stitches_per_four_inches", .ofFloat settings.gauge.stitches),
        ("rows_per_four_inches", .ofFloat settings.gauge.rows)]),
      ("generation", .object [("size_modifier", .ofFloat settings.size),
        ("size_label", .ofTextOption settings.sizeLabel)]),
      ("output", .object [("format", .text settings.format.name),
        ("numbered", .flag settings.numbered)]),
      ("logging", .object [("level", .text settings.logLevel), ("json", .flag settings.logJson)])]

/-- The sections of a settings file as TOML; a missing size label has no entry. -/
def toToml (settings : Settings) : List (String × List (String × Toml)) :=
  [("gauge", [("stitches_per_four_inches", .decimal settings.gauge.stitches),
      ("rows_per_four_inches", .decimal settings.gauge.rows)]),
    ("generation", ("size_modifier", .decimal settings.size) ::
      (settings.sizeLabel.map fun label => ("size_label", Toml.text label)).toList),
    ("output", [("format", .text settings.format.name), ("numbered", .flag settings.numbered)]),
    ("logging", [("level", .text settings.logLevel), ("json", .flag settings.logJson)])]

/-- The path of the settings file below the folder for settings. -/
def defaultPath (folder : String) : String :=
  folder ++ "/knitkit/config.toml"

end Settings

/-- A text layer: how JSON values and TOML sections are written as texts and read from them. -/
structure TextLayer where
  writeJson : Json → String
  readJson : String → Option SettingsTree
  writeToml : List (String × List (String × Toml)) → String
  readToml : String → Option SettingsTree

namespace TextLayer

/-- The text layer of the program. -/
def own : TextLayer where
  writeJson := Json.pretty
  readJson text := (JsonText.read text).map SettingsTree.ofWritten
  writeToml := Toml.documentText
  readToml text := (Toml.read text).map fun entries => .table (SettingsTree.ofTomlEntries entries)

variable (layer : TextLayer)

/-- The text of a settings file. -/
def render (document : FileFormat) (settings : Settings) : String :=
  match document with
  | .json => layer.writeJson settings.toJson
  | .toml => layer.writeToml settings.toToml

/-- Reads the text of a settings file. -/
def parse (document : FileFormat) (text : String) : Except SettingsError Settings :=
  match document with
  | .json =>
    match (layer.readJson text).bind (Settings.ofTree .json) with
    | some settings => .ok settings
    | none => .error .notJson
  | .toml =>
    match (layer.readToml text).bind (Settings.ofTree .toml) with
    | some settings => .ok settings
    | none => .error .notToml

/-- Loads a settings file and checks what it says. -/
def load (tree : FileTree) (path : String) : Except SettingsError Settings := do
  let document ← FileFormat.ofPath path
  let text ← (tree.read path).mapError .file
  let settings ← layer.parse document text
  settings.checked

/-- The text that a settings file at a path is given, once its settings are checked. -/
def renderAt (settings : Settings) (path : String) : Except SettingsError String := do
  let settings ← settings.checked
  let document ← FileFormat.ofPath path
  return layer.render document settings

/--
Saves a settings file, creating the folders above it. Settings or a path without a text leave the
tree as it is; where the file cannot be written, the folders created for it stay.
-/
def save (settings : Settings) (path : String) (tree : FileTree) :
    FileTree × Except SettingsError Unit :=
  match layer.renderAt settings path with
  | .error error => (tree, .error error)
  | .ok text =>
    let (tree, written) := tree.write path text
    (tree, written.mapError .file)

/-- Loads the named file, or else the file at the default path, or else the standard. -/
def loadOrStandard (tree : FileTree) (folder path : Option String) :
    Except SettingsError Settings :=
  match path, folder.map Settings.defaultPath with
  | some path, _ => layer.load tree path
  | none, some path => if tree.isFile path then layer.load tree path else .ok .standard
  -- Without a folder for settings there is no default path, and that is no error.
  | none, none => .ok .standard

end TextLayer

namespace Settings

/-- Reads the text of a settings file as the program does. -/
def parse (document : FileFormat) (text : String) : Except SettingsError Settings :=
  TextLayer.own.parse document text

/-- Loads a settings file as the program does. -/
def load (tree : FileTree) (path : String) : Except SettingsError Settings :=
  TextLayer.own.load tree path

/-- Loads the settings of a run as the program does. -/
def loadOrStandard (tree : FileTree) (folder path : Option String) :
    Except SettingsError Settings :=
  TextLayer.own.loadOrStandard tree folder path

end Settings

end FlatKnit
