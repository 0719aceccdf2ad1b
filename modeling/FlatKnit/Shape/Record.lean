import FlatKnit.Record
import FlatKnit.Shape.Check

/-! Shape records: reading leaves out what is not a shape, and writing keeps every field. -/

namespace FlatKnit

namespace Segment

/-- The segment that the fields of a record describe. -/
def ofEntries (entries : List (String × Json)) : Segment where
  height := Record.inches entries "height"
  lower := Record.inches entries "baseA"
  upper := Record.inches entries "baseB"
  shift := Record.inches entries "baseBHorizontalOffset"
  notes := Record.texts entries "finishingSteps"
  label := Record.label? entries "label"
  isHem := Record.flag entries "isHem"

/-- The fields of a segment, with those of its successors between dimensions and remarks. -/
def toEntries (segment : Segment) (successors : List Json) : List (String × Json) :=
  -- A number that is not finite has no JSON number and becomes null.
  [("height", .ofFloat segment.height), ("baseA", .ofFloat segment.lower),
    ("baseB", .ofFloat segment.upper), ("baseBHorizontalOffset", .ofFloat segment.shift),
    ("successors", .list successors), ("finishingSteps", .ofTexts segment.notes),
    ("label", .ofTextOption segment.label), ("isHem", .flag segment.isHem)]

end Segment

namespace Shape

mutual

/-- The shape of a record; a value that is not an object is none. -/
def ofJson? : Json → Option Shape
  | .object entries => some (.node (Segment.ofEntries entries) (successorsIn entries))
  | _ => none

/-- The successors among the fields of a record. -/
def successorsIn : List (String × Json) → List Shape
  | [] => []
  -- The first entry under the key decides, whatever it holds.
  | (key, value) :: rest => if key == "successors" then shapesIn value else successorsIn rest

/-- The shapes in a list; another value holds none. -/
def shapesIn : Json → List Shape
  | .list items => shapesAmong items
  | _ => []

/-- The shapes among values. -/
def shapesAmong : List Json → List Shape
  | [] => []
  | item :: items =>
    match ofJson? item with
    | some shape => shape :: shapesAmong items
    -- What is no shape is passed over, and those behind it are kept.
    | none => shapesAmong items

end

/-- The shape of a record, or the fault that there is none. -/
def ofJson (value : Json) : Except ShapeFault Shape :=
  match ofJson? value with
  | some shape => .ok shape
  | none => .error .emptyRecord

mutual

/-- The record of a shape. -/
def toJson : Shape → Json
  | node segment successors => .object (segment.toEntries (toJsons successors))

/-- The records of a list of shapes. -/
def toJsons : List Shape → List Json
  | [] => []
  | shape :: shapes => toJson shape :: toJsons shapes

end

end Shape

end FlatKnit
