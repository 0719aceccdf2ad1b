import FlatKnit.Instruction

/-! Patterns: the instructions of all panels of a garment, as a text and as a record. -/

namespace FlatKnit

/-- How lines are listed: as they are, or with their positions in front. -/
inductive Listing where
  | plain
  | numbered
  deriving Repr, DecidableEq

namespace Listing

/-- The lines as they are listed; positions start at one. -/
def lines (listing : Listing) (lines : List String) : List String :=
  match listing with
  | plain => lines
  | numbered => (lines.zipIdx 1).map fun (line, position) => toString position ++ ". " ++ line

/-- The text of a list of lines, each with a line break after it. -/
def text (listing : Listing) (lines : List String) : String :=
  String.join ((listing.lines lines).map (· ++ "\n"))

end Listing

/-- The text of a list of instructions. -/
def instructionsText (listing : Listing) (instructions : List Instruction) : String :=
  listing.text (instructions.map Instruction.text)

/-- The text of a list of instructions, unless the text of one of them cannot be told. -/
def instructionsText? (listing : Listing) (instructions : List Instruction) : Option String :=
  if instructions.all fun line => line.text?.isSome then
    some (instructionsText listing instructions)
  else none

/-- The instructions of one panel under its name. -/
structure PanelLines where
  name : String
  instructions : List Instruction
  deriving Repr, Inhabited

/-- The record of a panel. -/
def PanelLines.toJson (panel : PanelLines) : Json :=
  .object [("name", .text panel.name), ("instructions", instructionsJson panel.instructions)]

/-- A garment at one size: the lines of its panels, and what is done after knitting. -/
structure Pattern where
  title : String
  size : Float
  panels : List PanelLines
  notes : List String
  deriving Repr, Inhabited

namespace Pattern

/-- The number of instruction lines of all panels. -/
def lineCount (pattern : Pattern) : Nat :=
  (pattern.panels.flatMap PanelLines.instructions).length

/-- A pattern on its own: each panel behind a blank line under its name, and the notes at the end. -/
def display (pattern : Pattern) : String :=
  let text := pattern.panels.foldl (fun text panel =>
    let text := text ++ "\n"
    let text := text ++ (panel.name ++ ":\n")
    panel.instructions.foldl (fun text line => text ++ (line.text ++ "\n")) text)
    (pattern.title ++ "\n")
  -- Without notes there is no heading for them either.
  if pattern.notes.isEmpty then text
  else
    let text := text ++ "\n"
    let text := text ++ "Finishing:\n"
    pattern.notes.foldl (fun text note => text ++ (note ++ "\n")) text

/-- A pattern with positions, which start anew in every panel and among the notes. -/
def numberedText (pattern : Pattern) : String :=
  let text := pattern.panels.foldl (fun text panel =>
    let text := text ++ ("\n" ++ panel.name ++ ":\n")
    text ++ instructionsText .numbered panel.instructions)
    (pattern.title ++ "\n")
  if pattern.notes.isEmpty then text
  else
    (pattern.notes.zipIdx 1).foldl (fun text (note, position) =>
      text ++ (toString position ++ ". " ++ note ++ "\n")) (text ++ "\nFinishing:\n")

/-- The text of a pattern; one without positions is that of the pattern on its own. -/
def text (listing : Listing) (pattern : Pattern) : String :=
  match listing with
  | .plain => pattern.display
  | .numbered => pattern.numberedText

/-- The text of a pattern, unless the text of one of its lines cannot be told. -/
def text? (listing : Listing) (pattern : Pattern) : Option String :=
  if pattern.panels.all fun panel => panel.instructions.all fun line => line.text?.isSome then
    some (pattern.text listing)
  else none

/-- The record of a pattern. -/
def toJson (pattern : Pattern) : Json :=
  .object [("title", .text pattern.title), ("sizeModifier", .ofFloat pattern.size),
    ("panels", .list (pattern.panels.map PanelLines.toJson)),
    ("finishingSteps", .ofTexts pattern.notes)]

end Pattern

end FlatKnit
