import FlatKnit.Files.Path
import FlatKnit.Gauge

/-! Settings: what a run does when neither the command line nor a document says otherwise. -/

namespace FlatKnit

/-- What a run prints: lines for a knitter, or records for another program. -/
inductive OutputFormat where
  | text
  | json
  deriving Repr, DecidableEq, Inhabited

namespace OutputFormat

/-- The name of a format. -/
def name : OutputFormat → String
  | text => "text"
  | json => "json"

/-- The format of a name. -/
def ofName? (name : String) : Option OutputFormat :=
  -- Names are matched in their case.
  if name == text.name then some text else if name == json.name then some json else none

end OutputFormat

/-- The settings of all sections. -/
structure Settings where
  /-- The gauge of a document that has none. -/
  gauge : Gauge
  /-- The multiplier of a document that has none. -/
  size : Float
  /-- The size of a garment that is taken before the multiplier. -/
  sizeLabel : Option String
  format : OutputFormat
  /-- Lines are printed with their positions. -/
  numbered : Bool
  logLevel : String
  logJson : Bool
  deriving Repr, Inhabited

/-- The settings of a run without a settings file. -/
def Settings.standard : Settings where
  gauge := Gauge.standard
  size := 1.006
  sizeLabel := none
  format := .text
  numbered := false
  logLevel := "warn"
  logJson := false

/-- Why settings cannot be loaded or saved. -/
inductive SettingsError where
  | outOfRange (key : String) (value : Float)
  | unknownLevel (level : String)
  | unsupportedFormat (extension : Option String)
  | file (fault : FileFault)
  | notJson
  | notToml
  deriving Repr

/-- The levels of the log, from the most to the least talkative. -/
def logLevels : List String := ["trace", "debug", "info", "warn", "error"]

namespace SettingsError

/-- The words for what is wrong with a value or a path, if it is one of those. -/
def detail? : SettingsError → Option String
  | outOfRange key value =>
    some ("Value out of range for '" ++ key ++ "': " ++ plainText value)
  | unsupportedFormat extension =>
    some ("Unsupported config format: " ++ extension.getD "<none>")
  | _ => none

/-- The words for an error; a text that is not a document of its format has none of its own. -/
def message? : SettingsError → Option String
  | outOfRange key value => (outOfRange key value).detail?.map ("Config error: " ++ ·)
  | unsupportedFormat extension =>
    (unsupportedFormat extension).detail?.map ("Config error: " ++ ·)
  -- An unknown level is told without the prefix of the other values at fault.
  | unknownLevel level =>
    some ("Invalid setting 'logging.level': unknown level '" ++ level ++ "', expected one of " ++
      ", ".intercalate logLevels)
  | file fault => some ("I/O error: " ++ fault.message)
  | notJson => none
  | notToml => none

end SettingsError

namespace Settings

/-- The numbers that have to be usable, by key. -/
def multipliers (settings : Settings) : List (String × Float) :=
  [("gauge.stitches_per_four_inches", settings.gauge.stitches),
    ("gauge.rows_per_four_inches", settings.gauge.rows),
    ("generation.size_modifier", settings.size)]

/-- The first fault of the settings: an unusable number, or else an unknown level. -/
def fault? (settings : Settings) : Option SettingsError :=
  let number := settings.multipliers.findSome? fun (key, value) =>
    if isUsable value then none else some (.outOfRange key value)
  -- A level may be written in either case.
  let level := String.ofList (settings.logLevel.toList.map Char.toLower)
  number.or (if logLevels.contains level then none else some (.unknownLevel settings.logLevel))

/-- The settings without a fault, or their first one. -/
def checked (settings : Settings) : Except SettingsError Settings :=
  match settings.fault? with
  | none => .ok settings
  | some fault => .error fault

/-- Whether two settings are equal, numbers as numbers. -/
def same (left right : Settings) : Bool :=
  left.gauge.same right.gauge && left.size == right.size && left.sizeLabel == right.sizeLabel &&
    left.format == right.format && left.numbered == right.numbered &&
    left.logLevel == right.logLevel && left.logJson == right.logJson

end Settings

/-- The formats of a settings file. -/
inductive FileFormat where
  | json
  | toml
  deriving Repr, DecidableEq

/-- The format of a settings file, by the extension of its path. -/
def FileFormat.ofPath (path : String) : Except SettingsError FileFormat :=
  -- Extensions are matched in their case, and a path without one has no format.
  match pathExtension path with
  | some "json" => .ok .json
  | some "toml" => .ok .toml
  | other => .error (.unsupportedFormat other)

end FlatKnit
