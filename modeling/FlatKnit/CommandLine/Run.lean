import FlatKnit.CommandLine.Arguments
import FlatKnit.Garment
import FlatKnit.Plan.Table
import FlatKnit.Settings.Store

/-! Runs: from a command line and the files it reads to what is printed, or to what went wrong. -/

namespace FlatKnit

/-- One entry of the report of an error. -/
inductive Cause where
  | line (text : String)
  /-- A text is not a document of its format. -/
  | malformed
  deriving Repr, DecidableEq

/-- Why a run prints nothing. -/
inductive RunError where
  | settings (error : SettingsError)
  | input (path : String) (fault : FileFault)
  | inputJson (path : String)
  | panelGauge (path : String) (fault : GaugeFault)
  | panelShape (path : String) (fault : ShapeFault)
  | garmentFile (path : String) (fault : FileFault)
  | garment (path : String) (error : KnitError)
  | garmentShape (panel : String) (fault : ShapeFault)
  /-- The gauge, the size or the size label that the run would use. -/
  | fit (error : KnitError)
  /-- A number on the way to what would be printed leaves its word, which ends the run at once. -/
  | overflow
  deriving Repr

namespace SettingsError

/-- The report of an error of settings: its words, and the words of what it wraps. -/
def causes (error : SettingsError) : List Cause :=
  match error.message? with
  | none => [.malformed]
  | some message =>
    match error with
    -- A fault of a file is wrapped, and so it is told with its prefix and without.
    | file fault => [.line message, .line fault.message]
    | _ => .line message :: (error.detail?.map Cause.line).toList

end SettingsError

namespace KnitError

/-- The report of an error of a document: its words, and the words of what it wraps. -/
def causes (error : KnitError) : List Cause :=
  match error.message? with
  | none => [.malformed]
  | some message =>
    match error with
    | gaugeRecord fault => [.line message, .line fault.message]
    | _ => [.line message]

end KnitError

/-- A text in single quotes. -/
def inQuotes (text : String) : String :=
  "'" ++ text ++ "'"

namespace RunError

/-- The report of an error, from what the run was doing to the cause. -/
def causes : RunError → List Cause
  | settings error => .line "load config" :: error.causes
  | input path fault => [.line ("read " ++ inQuotes path), .line fault.message]
  | inputJson path => [.line ("parse JSON " ++ inQuotes path), .malformed]
  | panelGauge path fault =>
    .line ("load panel " ++ inQuotes path) :: (KnitError.gaugeRecord fault).causes
  | panelShape path fault =>
    [.line ("invalid shape in " ++ inQuotes path), .line fault.message]
  | garmentFile path fault =>
    [.line ("load garment " ++ inQuotes path), .line ("I/O error: " ++ fault.message),
      .line fault.message]
  | garment path error => .line ("load garment " ++ inQuotes path) :: error.causes
  | garmentShape panel fault =>
    [.line ("invalid shape in panel " ++ inQuotes panel), .line fault.message]
  | fit error => error.causes
  -- The program stops before it can report anything.
  | overflow => []

/-- The exit code of an error. -/
def exitCode : RunError → Nat
  | overflow => 101
  | _ => 1

/-- The error for what ended a check, where a fault is told in the words of the run. -/
def ofStop (told : ShapeFault → RunError) : CheckStop → RunError
  | .fault fault => told fault
  | .overflow => overflow

/-- What was computed, unless a number on the way left its word. -/
def computed {α : Type} : Option α → Except RunError α
  | some value => .ok value
  | none => .error overflow

end RunError

/-- What a run leaves behind. -/
structure Outcome where
  exit : Nat
  stdout : String
  causes : List Cause
  deriving Repr, DecidableEq

namespace Invocation

/-- The gauge of a run: each density from its option, else the document, else the settings. -/
def gauge (options : Options) (document : Option Gauge) (settings : Settings) :
    Except RunError Gauge :=
  let base := document.getD settings.gauge
  -- The two densities are chosen apart from each other, and checked together.
  let gauge : Gauge := ⟨options.stitches.getD base.stitches, options.rows.getD base.rows⟩
  gauge.checked.mapError .fit

/-- The size of a run on one panel: from its option, else the document, else the settings. -/
def panelSize (options : Options) (document : Option Float) (settings : Settings) :
    Except RunError Float :=
  (checkedSize (options.size.getD (document.getD settings.size))).mapError .fit

/-- The value that a panel document holds under a key; a bare shape and null hold none. -/
def documentValue? (document : Json) (key : String) : Option Json :=
  match document with
  | .object entries =>
    -- A record without shapes is a bare shape, whose keys are those of a segment.
    if (entries.lookup "shapes").isSome then
      (entries.lookup key).bind fun value =>
        match value with
        | .null => none
        | other => some other
    else none
  | _ => none

/-- Loads the panel of a run at the fit of the run, and checks it. -/
def loadPanel (tree : FileTree) (settings : Settings) (invocation : Invocation) :
    Except RunError Panel := do
  let path := invocation.input
  let text ← (tree.read path).mapError (.input path)
  let document ← match Json.read text with
    | some document => .ok document
    | none => .error (.inputJson path)
  let panel ← (Panel.ofJson document).mapError (.panelGauge path)
  -- The panel has standards of its own, which count only where the document has a value.
  let ownGauge := (documentValue? document "gauge").map fun _ => panel.fit.gauge
  let ownSize := (documentValue? document "sizeModifier").map fun _ => panel.fit.size
  let gauge ← gauge invocation.options ownGauge settings
  let size ← panelSize invocation.options ownSize settings
  let panel := (panel.withGauge gauge).withSize size
  -- The shape is checked last, at the fit that the run has settled on.
  panel.check.mapError (.ofStop (.panelShape path))
  return panel

/--
The size of a run on a garment: from its option, else by the label of the options or of the
settings, else the first of the garment, else from the settings.
-/
def garmentSize (options : Options) (garment : Garment) (settings : Settings) :
    Except RunError Float := do
  -- A label that is asked for is looked up, and nothing stands in for it.
  let size ← match options.size, options.sizeLabel.or settings.sizeLabel with
    | some size, _ => .ok size
    | none, some label => (garment.size label).mapError fun fault => .fit (.garment fault)
    | none, none => .ok ((garment.sizes.head?.map Prod.snd).getD settings.size)
  (checkedSize size).mapError .fit

/-- Checks every panel of a garment in its order. -/
def checkPanels (fit : Fit) : List (String × Shape) → Except RunError Unit
  | [] => .ok ()
  | (name, shape) :: rest => do
    (shape.check fit).mapError (.ofStop (.garmentShape name))
    checkPanels fit rest

/-- Loads the pattern of a run at the fit of the run, after all its panels are checked. -/
def loadPattern (tree : FileTree) (settings : Settings) (invocation : Invocation) :
    Except RunError Pattern := do
  let path := invocation.input
  let text ← (tree.read path).mapError (.garmentFile path)
  let garment ← (Garment.read text).mapError (.garment path)
  let gauge ← gauge invocation.options none settings
  let size ← garmentSize invocation.options garment settings
  checkPanels ⟨gauge, size⟩ garment.panels
  RunError.computed (garment.pattern? ⟨gauge, size⟩)

/-- How a run lists its lines: numbered if the options or the settings say so. -/
def listing (options : Options) (settings : Settings) : Listing :=
  if options.numbered || settings.numbered then .numbered else .plain

/-- What a run prints, before its last line break. -/
def output (tree : FileTree) (settings : Settings) (invocation : Invocation) :
    Except RunError String := do
  let options := invocation.options
  let format := options.format.getD settings.format
  -- Each subcommand has a text and a record, and only texts are numbered.
  match invocation.subcommand with
  | .generate =>
    let panel ← invocation.loadPanel tree settings
    let lines ← RunError.computed panel.instructions?
    match format with
    | .text => RunError.computed (instructionsText? (listing options settings) lines)
    | .json => return (instructionsJson lines).pretty
  | .rows =>
    let panel ← invocation.loadPanel tree settings
    let plans ← RunError.computed panel.plans?
    match format with
    | .text => RunError.computed (rowTable? plans)
    | .json => return (Json.list (plans.map StitchPlan.toJson)).pretty
  | .garment =>
    let pattern ← invocation.loadPattern tree settings
    match format with
    | .text => RunError.computed (pattern.text? (listing options settings))
    | .json => return pattern.toJson.pretty

/-- A text with a line break at its end, unless it is empty. -/
def endLine (text : String) : String :=
  if text.isEmpty || text.endsWith '\n' then text else text ++ "\n"

/-- Runs a command line that was understood. -/
def run (tree : FileTree) (folder : Option String) (invocation : Invocation) :
    Except RunError String := do
  let settings ← (Settings.loadOrStandard tree folder invocation.config).mapError .settings
  let text ← invocation.output tree settings
  return endLine text

end Invocation

/-- The line that names the program and its version. -/
def versionLine : String := "knitkit 0.4.0\n"

/-- The text that tells how the program is called. -/
def helpText : String :=
  "Compile knitting panel shapes into row-by-row instructions\n\n" ++
  "Usage: knitkit [--config <FILE>] [-v]... <generate|rows|garment> [OPTIONS] <INPUT>\n\n" ++
  "Options: --stitches <N> --rows <N> --size <N> --format <text|json> --numbered\n" ++
  "         --size-label <LABEL> (garment)\n"

namespace Request

/-- Answers a request; only a run without an error prints what was asked for. -/
def answer (tree : FileTree) (folder : Option String) : Request → Outcome
  | version => ⟨0, versionLine, []⟩
  | help => ⟨0, helpText, []⟩
  -- A command line that is not understood has an exit code of its own.
  | refused => ⟨2, "", []⟩
  | run invocation =>
    match invocation.run tree folder with
    | .ok text => ⟨0, text, []⟩
    | .error error => ⟨error.exitCode, "", error.causes⟩

end Request

/-- Runs a command line on a file tree, with the folder for settings files where there is one. -/
def runCommand (tree : FileTree) (folder : Option String) (words : List String) : Outcome :=
  (Request.read words).answer tree folder

end FlatKnit
