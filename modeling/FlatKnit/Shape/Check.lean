import FlatKnit.Shape.Basic

/-! Checks of a shape: its dimensions, and its stitches at a fit. -/

namespace FlatKnit

/-- Why a shape cannot be knitted. -/
inductive ShapeFault where
  | emptyRecord
  | dimension (field : String) (value : Float)
  | negativeStitches (segment : String) (left right : Int64)
  deriving Repr

/-- The words for a fault of a shape. -/
def ShapeFault.message : ShapeFault → String
  | emptyRecord => "Shape record is empty or not an object"
  | dimension field value => "Invalid dimension '" ++ field ++ "': " ++ plainText value
  | negativeStitches segment left right =>
    "Segment '" ++ segment ++ "' ends with " ++ toString left ++ " stitches left and " ++
      toString right ++ " right of center"

/-- What ends a check before its time: a fault that it finds, or a sum that leaves its word. -/
inductive CheckStop where
  | fault (fault : ShapeFault)
  | overflow
  deriving Repr

namespace Segment

/-- The dimensions by name, and whether each may be negative. -/
def dimensions (segment : Segment) : List (String × Float × Bool) :=
  [("height", segment.height, false), ("baseA", segment.lower, false),
    ("baseB", segment.upper, false), ("baseBHorizontalOffset", segment.shift, true)]

/-- Whether a dimension is finite, and not negative unless it may be. -/
def dimensionHolds (value : Float) (mayBeNegative : Bool) : Bool :=
  -- Minus zero is not below zero, and so it passes.
  value.isFinite && (mayBeNegative || !(value < 0.0))

/-- Whether the upper edge still reaches the centreline. -/
def straddlesCentre (segment : Segment) : Bool :=
  -- Written as a negation, since a shift that is no number was found before.
  !(segment.shift.abs > segment.upper / 2.0)

/-- The first dimension that is at fault. -/
def dimensionFault? (segment : Segment) : Option ShapeFault :=
  let single := segment.dimensions.findSome? fun (field, value, mayBeNegative) =>
    if dimensionHolds value mayBeNegative then none else some (.dimension field value)
  -- Only when each dimension holds alone are two of them compared.
  single.or (if segment.straddlesCentre then none
    else some (.dimension "baseBHorizontalOffset" segment.shift))

/-- The stitches of the last row, if one side of it is below zero or leaves its word. -/
def stitchStop? (fit : Fit) (segment : Segment) : Option CheckStop :=
  if 0 < segment.rowCount fit then
    -- Each edge moves in one direction only, so the last row has the least of a falling count.
    match sum? (segment.leftStart fit) (segment.leftChange fit),
      sum? (segment.rightStart fit) (segment.rightChange fit) with
    | some left, some right =>
      if left < 0 || right < 0 then some (.fault (.negativeStitches segment.text left right))
      else none
    | _, _ => some .overflow
  -- Without rows there is no last row to be at fault.
  else none

end Segment

namespace Shape

section Passes

variable {ε : Type} (stop? : Segment → Option ε)

mutual

/-- Passes when nothing stops at a segment; the first stop, parents first, is the error. -/
def passes : Shape → Except ε Unit
  | node segment successors =>
    match stop? segment with
    | some stop => .error stop
    | none => allPass successors

/-- Passes when every shape of a list does; the shapes behind one that stops are not looked at. -/
def allPass : List Shape → Except ε Unit
  | [] => .ok ()
  | shape :: shapes =>
    match passes shape with
    | .error stop => .error stop
    | .ok () => allPass shapes

end

end Passes

/--
Checks that every dimension is finite, that widths and heights are not negative,
and that no upper edge is shifted past the centreline.
-/
def checkDimensions (shape : Shape) : Except ShapeFault Unit :=
  shape.passes Segment.dimensionFault?

/-- Checks that no segment with rows ends below zero stitches on either side. -/
def checkStitches (shape : Shape) (fit : Fit) : Except CheckStop Unit :=
  shape.passes (Segment.stitchStop? fit)

/-- Both checks, dimensions first. -/
def check (shape : Shape) (fit : Fit) : Except CheckStop Unit := do
  shape.checkDimensions.mapError .fault
  shape.checkStitches fit

end Shape

end FlatKnit
