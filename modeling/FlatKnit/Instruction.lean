import FlatKnit.Json.Value
import FlatKnit.Word

/-! Instructions: the lines of a knitting pattern, with their texts and their records. -/

namespace FlatKnit

/-- One line of a knitting pattern; a row counter is the one reached after the line. -/
inductive Instruction where
  /-- The first stitches of a panel. -/
  | castOn (stitches : Int64)
  /-- Rows without shaping. -/
  | knitRows (rows counter : UInt32) (stitches : Int64)
  /-- Rows of which the last one shapes the edges. -/
  | shaping (left right : Int64) (rows counter : UInt32) (stitches : Int64)
  /-- A remark of the designer. -/
  | note (text : String)
  /-- The work is divided into sections, which are knitted one after another. -/
  | divide (sections : Nat)
  /-- A section that goes on with lines of its own. -/
  | startSection (index : Nat) (stitches : Int64)
  /-- A section that ends at once. -/
  | bindOffSection (index : Nat) (stitches : Int64)
  /-- The end of a piece. -/
  | bindOff (stitches : Int64)
  deriving Repr, DecidableEq, Inhabited

/-- A count of stitches with its noun. -/
def stitchesText (count : Int64) : String :=
  -- The noun goes by the size of the count, so that minus one is a single stitch.
  if count.abs == 1 then toString count ++ " stitch" else toString count ++ " stitches"

/-- A count of rows with its noun. -/
def rowsText (count : UInt32) : String :=
  if count == 1 then toString count ++ " row" else toString count ++ " rows"

/-- The clause for one edge of a shaping line; an edge that stays has none. -/
def shapingClause (change : Int64) (side : String) : String :=
  -- The verb tells the direction, and the count behind it is the size of the change.
  if 0 < change then "Increase " ++ stitchesText change ++ " on the " ++ side ++ ". "
  else if change < 0 then "Decrease " ++ stitchesText (-change) ++ " on the " ++ side ++ ". "
  else ""

/-- Where the knitter stands after a line: the row counter and the stitches in work. -/
def standing (counter : UInt32) (stitches : Int64) : String :=
  "(RC=" ++ toString counter ++ ", " ++ toString stitches ++ " sts in work)"

namespace Instruction

/-- The text that a knitter follows. -/
def text : Instruction → String
  | castOn stitches => "Cast on " ++ stitchesText stitches ++ "."
  | knitRows rows counter stitches =>
    "Knit " ++ rowsText rows ++ " " ++ standing counter stitches ++ "."
  | shaping left right rows counter stitches =>
    shapingClause left "left" ++ shapingClause right "right" ++
      "Knit " ++ rowsText rows ++ ". " ++ standing counter stitches
  | note text => text
  | divide sections => "Divide into " ++ toString sections ++ " sections:"
  | startSection index stitches => "Section " ++ toString index ++ ": " ++ stitchesText stitches
  | bindOffSection index stitches =>
    "Section " ++ toString index ++ ": bind off " ++ stitchesText stitches ++ "."
  | bindOff stitches => "Bind off " ++ stitchesText stitches ++ "."

/-- The counts whose sizes the text of a line looks at. -/
def sized : Instruction → List Int64
  | castOn stitches | startSection _ stitches | bindOffSection _ stitches | bindOff stitches =>
    [stitches]
  | shaping left right _ _ _ => [left, right]
  | _ => []

/-- The text that a knitter follows, unless it looks at a count whose size leaves its word. -/
def text? (instruction : Instruction) : Option String :=
  if instruction.sized.all fun count => (magnitude? count).isSome then some instruction.text
  else none

/-- Whether the line takes the stitches of a piece off the needles. -/
def endsPiece : Instruction → Bool
  | bindOff _ => true
  | bindOffSection _ _ => true
  | _ => false

/-- The number of rows that a line covers, if it covers rows. -/
def rows? : Instruction → Option UInt32
  | knitRows rows _ _ => some rows
  | shaping _ _ rows _ _ => some rows
  | _ => none

/-- The row counter after a line, if it covers rows. -/
def counter? : Instruction → Option UInt32
  | knitRows _ counter _ => some counter
  | shaping _ _ _ counter _ => some counter
  | _ => none

/-- The record of a line: its kind, then its numbers by name. -/
def toJson : Instruction → Json
  | castOn stitches =>
    .object [("kind", .text "cast_on"), ("stitches", .whole stitches.toInt)]
  | knitRows rows counter stitches =>
    .object [("kind", .text "knit_rows"), ("rows", .whole rows.toNat),
      ("row_counter", .whole counter.toNat), ("stitches", .whole stitches.toInt)]
  | shaping left right rows counter stitches =>
    .object [("kind", .text "shaping"), ("left", .whole left.toInt), ("right", .whole right.toInt),
      ("rows", .whole rows.toNat), ("row_counter", .whole counter.toNat),
      ("stitches", .whole stitches.toInt)]
  | note text => .object [("kind", .text "finishing"), ("text", .text text)]
  | divide sections => .object [("kind", .text "divide"), ("sections", .whole sections)]
  | startSection index stitches =>
    .object [("kind", .text "section"), ("index", .whole index),
      ("stitches", .whole stitches.toInt)]
  | bindOffSection index stitches =>
    .object [("kind", .text "section_bind_off"), ("index", .whole index),
      ("stitches", .whole stitches.toInt)]
  | bindOff stitches =>
    .object [("kind", .text "bind_off"), ("stitches", .whole stitches.toInt)]

end Instruction

/-- The record of a list of lines. -/
def instructionsJson (instructions : List Instruction) : Json :=
  .list (instructions.map Instruction.toJson)

end FlatKnit
