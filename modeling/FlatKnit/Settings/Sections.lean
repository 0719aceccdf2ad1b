import FlatKnit.Settings.Basic
import FlatKnit.Settings.Tree

/-! Reading settings from a tree: sections and fields that are missing keep their standard. -/

namespace FlatKnit

/-- How a field is read onto settings; a part of the wrong kind is refused. -/
abbrev FieldReader := SettingsTree → Settings → Option Settings

namespace SettingsTree

/-- The number of a part. -/
def number? : SettingsTree → Option Float
  | number value => some value
  | _ => none

/-- The flag of a part. -/
def flag? : SettingsTree → Option Bool
  | flag value => some value
  | _ => none

/-- The text of a part. -/
def text? : SettingsTree → Option String
  | text value => some value
  | _ => none

/-- The text of a part, where null says that there is none. -/
def label? : SettingsTree → Option (Option String)
  | null => some none
  | text value => some (some value)
  | _ => none

/-- Whether a part says nothing beside its key: null, or in TOML an empty list or table. -/
def isIdle (document : FileFormat) : SettingsTree → Bool
  | null => true
  | list [] => document == .toml
  | table [] => document == .toml
  | _ => false

/-- The output format of a part: its name, or a table with its name as the only key. -/
def format? (document : FileFormat) : SettingsTree → Option OutputFormat
  | text value => OutputFormat.ofName? value
  -- A name may also be the only key of a table, if nothing more is said under it.
  | table [(some key, part)] => if part.isIdle document then OutputFormat.ofName? key else none
  | _ => none

/-- Reads the entries of a table in their order; a known key may come once, others are skipped. -/
def readEntries (fields : List (String × FieldReader)) (seen : List String)
    (entries : List (Option String × SettingsTree)) (settings : Settings) : Option Settings :=
  match entries with
  | [] => some settings
  -- A key is evaluated before it is known whether it matters.
  | (none, _) :: _ => none
  | (some key, part) :: rest =>
    match fields.lookup key with
    | none => readEntries fields seen rest settings
    | some reader =>
      if seen.contains key then none
      else do
        let settings ← reader part settings
        readEntries fields (key :: seen) rest settings

/-- Reads the items of a list as the fields in their order; a TOML list may be longer. -/
def readItems (document : FileFormat) (fields : List (String × FieldReader))
    (items : List SettingsTree) (settings : Settings) : Option Settings :=
  match fields, items with
  -- Fields without an item keep what they have.
  | _, [] => some settings
  | [], _ :: _ => if document == .toml then some settings else none
  | (_, reader) :: fields, part :: items => do
    let settings ← reader part settings
    readItems document fields items settings

/-- Reads a part that groups fields. -/
def readFields (document : FileFormat) (fields : List (String × FieldReader)) : FieldReader
  | table entries, settings => readEntries fields [] entries settings
  | list items, settings => readItems document fields items settings
  -- A date has no key that is known, so that nothing is read of it.
  | moment, settings => some settings
  | _, _ => none

end SettingsTree

namespace Settings

open SettingsTree

/-- The fields of the gauge section. -/
def gaugeFields : List (String × FieldReader) :=
  [("stitches_per_four_inches", fun part settings =>
      part.number?.map fun value =>
        { settings with gauge := { settings.gauge with stitches := value } }),
    ("rows_per_four_inches", fun part settings =>
      part.number?.map fun value =>
        { settings with gauge := { settings.gauge with rows := value } })]

/-- The fields of the generation section. -/
def generationFields : List (String × FieldReader) :=
  [("size_modifier", fun part settings =>
      part.number?.map fun value => { settings with size := value }),
    ("size_label", fun part settings =>
      part.label?.map fun value => { settings with sizeLabel := value })]

/-- The fields of the output section. -/
def outputFields (document : FileFormat) : List (String × FieldReader) :=
  [("format", fun part settings =>
      (part.format? document).map fun value => { settings with format := value }),
    ("numbered", fun part settings =>
      part.flag?.map fun value => { settings with numbered := value })]

/-- The fields of the logging section. -/
def loggingFields : List (String × FieldReader) :=
  [("level", fun part settings =>
      part.text?.map fun value => { settings with logLevel := value }),
    ("json", fun part settings =>
      part.flag?.map fun value => { settings with logJson := value })]

/-- The sections. -/
def sections (document : FileFormat) : List (String × FieldReader) :=
  [("gauge", readFields document gaugeFields),
    ("generation", readFields document generationFields),
    ("output", readFields document (outputFields document)),
    ("logging", readFields document loggingFields)]

/-- Reads settings from the tree of a document. -/
def ofTree (document : FileFormat) (tree : SettingsTree) : Option Settings :=
  readFields document (sections document) tree standard

end Settings

end FlatKnit
