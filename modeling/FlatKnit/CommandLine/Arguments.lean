import FlatKnit.Decimal.Literal
import FlatKnit.Settings.Basic

/-! Command lines: a subcommand with its options and one input file. -/

namespace FlatKnit

/-- What a run prints. -/
inductive Subcommand where
  /-- The instructions of one panel. -/
  | generate
  /-- The row table of one panel. -/
  | rows
  /-- The pattern of a garment. -/
  | garment
  deriving Repr, DecidableEq, Inhabited

namespace Subcommand

/-- The subcommand of a word. -/
def ofWord? (word : String) : Option Subcommand :=
  match word with
  | "generate" => some generate
  | "rows" => some rows
  | "garment" => some garment
  | _ => none

end Subcommand

/-- What the options of a subcommand say. -/
structure Options where
  stitches : Option Float
  rows : Option Float
  size : Option Float
  format : Option OutputFormat
  numbered : Bool
  sizeLabel : Option String
  deriving Repr, Inhabited

/-- A command line that can be run. -/
structure Invocation where
  subcommand : Subcommand
  input : String
  config : Option String
  options : Options
  deriving Repr, Inhabited

/-- What a command line asks for. -/
inductive Request where
  | run (invocation : Invocation)
  | version
  | help
  | refused
  deriving Repr, Inhabited

/-- The arguments of a subcommand read so far. -/
structure Collected where
  config : Option String
  options : Options
  input : Option String
  deriving Repr, Inhabited

/-- Nothing is read yet. -/
def Collected.empty : Collected :=
  ⟨none, ⟨none, none, none, none, false, none⟩, none⟩

/-- An option that takes a value. -/
inductive ValueOption where
  | config
  | stitches
  | rows
  | size
  | format
  | sizeLabel
  deriving Repr, DecidableEq

namespace ValueOption

/-- The option of a name; a size label belongs to garments only. -/
def ofName? (subcommand : Subcommand) (name : String) : Option ValueOption :=
  match name with
  | "config" => some config
  | "stitches" => some stitches
  | "rows" => some rows
  | "size" => some size
  | "format" => some format
  | "size-label" => if subcommand == .garment then some sizeLabel else none
  | _ => none

end ValueOption

/-- A value for an option that is not set yet. -/
def setOnce {α : Type} (old : Option α) (value : Option α) : Option (Option α) :=
  match old, value with
  -- A value that cannot be read counts as unfit, and so does a second one.
  | none, some value => some (some value)
  | _, _ => none

/-- A path, which is not empty. -/
def pathValue (value : String) : Option String :=
  if value.isEmpty then none else some value

namespace Collected

/-- The arguments with one more option; a repeated option or an unfit value is refused. -/
def withValue (collected : Collected) (option : ValueOption) (value : String) : Option Collected :=
  let options := collected.options
  -- The value is read as a number in any case, and looked at only by the options for one.
  let number := readDecimal value.toList
  match option with
  | .config => (setOnce collected.config (pathValue value)).map fun config =>
      { collected with config := config }
  | .stitches => (setOnce options.stitches number).map fun stitches =>
      { collected with options := { options with stitches := stitches } }
  | .rows => (setOnce options.rows number).map fun rows =>
      { collected with options := { options with rows := rows } }
  | .size => (setOnce options.size number).map fun size =>
      { collected with options := { options with size := size } }
  | .format => (setOnce options.format (OutputFormat.ofName? value)).map fun format =>
      { collected with options := { options with format := format } }
  | .sizeLabel => (setOnce options.sizeLabel (some value)).map fun label =>
      { collected with options := { options with sizeLabel := label } }

/-- The arguments with the flag for positions, which may come once. -/
def withNumbered (collected : Collected) : Option Collected :=
  if collected.options.numbered then none
  else some { collected with options := { collected.options with numbered := true } }

/-- The arguments with an input file; there is only one. -/
def withInput (collected : Collected) (path : String) : Option Collected :=
  (setOnce collected.input (pathValue path)).map fun input => { collected with input := input }

/-- The arguments with one input file for every word. -/
def withInputs (collected : Collected) : List String → Option Collected
  | [] => some collected
  | word :: words => (collected.withInput word).bind (·.withInputs words)

end Collected

/-- A word of a command line by its form. -/
inductive Argument where
  /-- Two dashes: what follows is no option. -/
  | divider
  /-- Two dashes and a name, with a value if an equals sign follows. -/
  | long (name : String) (value : Option String)
  /-- One dash and letters. -/
  | letters (letters : List Char)
  | plain (word : String)
  deriving Repr, DecidableEq

/-- The name and the value of a long option. -/
def splitLong (text : List Char) : Argument :=
  let name := text.takeWhile (· != '=')
  match text.drop name.length with
  -- What follows the first equals sign is the value, even when it is empty.
  | _ :: value => .long (String.ofList name) (some (String.ofList value))
  | [] => .long (String.ofList name) none

/-- The form of a word. -/
def Argument.of (word : String) : Argument :=
  match word.toList with
  | ['-', '-'] => .divider
  | '-' :: '-' :: rest => splitLong rest
  -- A dash alone is a word like any other.
  | ['-'] => .plain word
  | '-' :: group => .letters group
  | _ => .plain word

/-- What a group of letters asks for: a longer log, the help, the version, or nothing known. -/
inductive LetterRequest where
  | verbose
  | help
  | version
  | unknown
  deriving Repr, DecidableEq

/-- What letters behind one dash ask for; the first that is not about the log decides. -/
def letterRequest : List Char → LetterRequest
  | [] => .verbose
  -- Each such letter makes the log longer, and those behind it still count.
  | 'v' :: letters => letterRequest letters
  | 'h' :: _ => .help
  | 'V' :: _ => .version
  | _ => .unknown

/-- The request of complete arguments; size and size label exclude each other. -/
def Collected.request (subcommand : Subcommand) (outer : Option String) (collected : Collected) :
    Request :=
  match collected.input with
  | none => .refused
  | some input =>
    if collected.options.size.isSome && collected.options.sizeLabel.isSome then .refused
    -- A settings file named behind the subcommand is taken before one named in front of it.
    else .run ⟨subcommand, input, collected.config.or outer, collected.options⟩

/-- Reads the words behind a subcommand. -/
def readOptions (subcommand : Subcommand) (outer : Option String) (collected : Collected) :
    List String → Request
  | [] => collected.request subcommand outer
  | word :: words =>
    match Argument.of word with
    -- Behind the divider every word is an input file, whatever it looks like.
    | .divider =>
      match collected.withInputs words with
      | some collected => collected.request subcommand outer
      | none => .refused
    | .plain path =>
      match collected.withInput path with
      | some collected => readOptions subcommand outer collected words
      | none => .refused
    | .letters group =>
      -- There is no version to ask for behind a subcommand.
      match letterRequest group with
      | .verbose => readOptions subcommand outer collected words
      | .help => .help
      | _ => .refused
    | .long "verbose" none => readOptions subcommand outer collected words
    | .long "help" none => .help
    | .long "numbered" none =>
      match collected.withNumbered with
      | some collected => readOptions subcommand outer collected words
      | none => .refused
    -- What is left are options with a value, which stands in the same word or in the next one.
    | .long name value =>
      match ValueOption.ofName? subcommand name, value, words with
      | none, _, _ => .refused
      | some option, some value, words =>
        match collected.withValue option value with
        | some collected => readOptions subcommand outer collected words
        | none => .refused
      | some _, none, [] => .refused
      | some option, none, value :: words =>
        -- A value of its own may not look like an option.
        match Argument.of value with
        | .plain value =>
          match collected.withValue option value with
          | some collected => readOptions subcommand outer collected words
          | none => .refused
        | _ => .refused

/-- The help for the program, or for one subcommand; the words behind it name nothing else. -/
def helpRequest : List String → Request
  | [] => .help
  | [word] => if word == "help" || (Subcommand.ofWord? word).isSome then .help else .refused
  | _ => .refused

/-- Reads a command line from its start; `config` is the settings file named so far. -/
def readCommand (config : Option String) : List String → Request
  | [] => .refused
  | word :: words =>
    match Argument.of word with
    | .divider => .refused
    -- The word for help is taken before any subcommand.
    | .plain "help" => helpRequest words
    | .plain word =>
      match Subcommand.ofWord? word with
      | some subcommand => readOptions subcommand config Collected.empty words
      | none => .refused
    | .letters group =>
      match letterRequest group with
      | .verbose => readCommand config words
      | .help => .help
      | .version => .version
      | .unknown => .refused
    | .long "verbose" none => readCommand config words
    | .long "help" none => .help
    | .long "version" none => .version
    -- The settings file is the one option with a value in front of the subcommand.
    | .long "config" (some path) =>
      match setOnce config (pathValue path) with
      | some config => readCommand config words
      | none => .refused
    | .long "config" none =>
      match words with
      | [] => .refused
      | path :: words =>
        match Argument.of path with
        | .plain path =>
          match setOnce config (pathValue path) with
          | some config => readCommand config words
          | none => .refused
        | _ => .refused
    | .long _ _ => .refused

/-- The request of a command line. -/
def Request.read (words : List String) : Request :=
  readCommand none words

end FlatKnit
