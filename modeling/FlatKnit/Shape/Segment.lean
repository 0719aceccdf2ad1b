import FlatKnit.Decimal.Whole
import FlatKnit.Gauge
import FlatKnit.Inches
import FlatKnit.Shape.Taper

/-! Segments: one stretch of a panel between two straight edges, measured in stitches and rows. -/

namespace FlatKnit

/-- A gauge with the multiplier that a size applies to every dimension. -/
structure Fit where
  gauge : Gauge
  size : Float
  deriving Repr, Inhabited

/-- One stretch of a flat panel: dimensions in inches, with the remarks of the designer. -/
structure Segment where
  height : Float
  /-- The width of the edge that is knitted first. -/
  lower : Float
  /-- The width of the edge that is knitted last. -/
  upper : Float
  /-- How far the middle of the upper edge lies to the right of the middle of the lower edge. -/
  shift : Float
  notes : List String
  label : Option String
  isHem : Bool
  deriving Repr, Inhabited

namespace Segment

/-- A segment with three dimensions and nothing else. -/
def plain (height lower upper : Float) : Segment where
  height := height
  lower := lower
  upper := upper
  shift := 0.0
  notes := []
  label := none
  isHem := false

/-- The height at a size. -/
def heightAt (segment : Segment) (size : Float) : Float :=
  segment.height * size

/-- The width of the lower edge at a size. -/
def lowerAt (segment : Segment) (size : Float) : Float :=
  segment.lower * size

/-- The width of the upper edge at a size. -/
def upperAt (segment : Segment) (size : Float) : Float :=
  segment.upper * size

/-- The shift of the upper edge at a size. -/
def shiftAt (segment : Segment) (size : Float) : Float :=
  segment.shift * size

/-- Stitches across the lower edge. -/
def lowerStitches (segment : Segment) (fit : Fit) : Int64 :=
  nearestWhole (segment.lowerAt fit.size * fit.gauge.stitchesPerInch)

/-- Stitches across the upper edge. -/
def upperStitches (segment : Segment) (fit : Fit) : Int64 :=
  nearestWhole (segment.upperAt fit.size * fit.gauge.stitchesPerInch)

/-- Rows from the lower to the upper edge. -/
def rowCount (segment : Segment) (fit : Fit) : Int64 :=
  nearestWhole (segment.heightAt fit.size * fit.gauge.rowsPerInch)

/-- The change of the left edge over the segment: half of the widening, less the shift. -/
def leftChange (segment : Segment) (fit : Fit) : Int64 :=
  let half := (segment.upperAt fit.size - segment.lowerAt fit.size) / 2.0
  -- A shift to the right takes the left edge along, and so takes stitches off it.
  nearestWhole ((half - segment.shiftAt fit.size) * fit.gauge.stitchesPerInch)

/-- The change of the right edge over the segment: half of the widening, and the shift. -/
def rightChange (segment : Segment) (fit : Fit) : Int64 :=
  let half := (segment.upperAt fit.size - segment.lowerAt fit.size) / 2.0
  -- A shift to the right adds its stitches at this edge.
  nearestWhole ((half + segment.shiftAt fit.size) * fit.gauge.stitchesPerInch)

/-- The taper of the segment. -/
def taper (segment : Segment) (fit : Fit) : Taper :=
  ⟨segment.leftChange fit, segment.rightChange fit, segment.rowCount fit⟩

/-- Stitches of the lower edge left of the centreline; an odd stitch is on the right. -/
def leftStart (segment : Segment) (fit : Fit) : Int64 :=
  -- The quotient is rounded down, also below zero.
  Int64.ofInt ((segment.lowerStitches fit).toInt / 2)

/-- Stitches of the lower edge right of the centreline. -/
def rightStart (segment : Segment) (fit : Fit) : Int64 :=
  -- A word less its own half is a word.
  segment.lowerStitches fit - segment.leftStart fit

/-- The rows of the segment alone, numbered from `start` on; a height that rounds away has none. -/
def plan (segment : Segment) (fit : Fit) (start : UInt32) : StitchPlan :=
  let rows := segment.rowCount fit
  -- Nothing is carried into the first row.
  let state : TaperState := ⟨segment.leftStart fit, segment.rightStart fit, 0, 0⟩
  ⟨(segment.taper fit).rowsFrom start state rows.toInt.toNat⟩

/-- The rows of the segment alone, unless a sum or a row number leaves its word. -/
def plan? (segment : Segment) (fit : Fit) (start : UInt32) : Option StitchPlan := do
  let rows := segment.rowCount fit
  let state : TaperState := ⟨segment.leftStart fit, segment.rightStart fit, 0, 0⟩
  let rows ← (segment.taper fit).rowsFrom? start state rows.toInt.toNat
  return ⟨rows⟩

/-- A length with the mark of an inch. -/
def lengthText (inches : Float) : String :=
  inchesText inches ++ inchMark

/-- The line that names a segment: its label, its dimensions, and its shift unless it is zero. -/
def text (segment : Segment) : String :=
  let label := match segment.label with
    | some label => label ++ ": "
    | none => ""
  -- The shift is compared as a number, so that minus zero is not shown either.
  let shift := if segment.shift != 0.0 then ", shifted " ++ lengthText segment.shift else ""
  label ++ lengthText segment.height ++ " tall, " ++ lengthText segment.lower ++ " to " ++
    lengthText segment.upper ++ shift

/-- Whether two segments are equal, dimensions as numbers. -/
def same (left right : Segment) : Bool :=
  left.height == right.height && left.lower == right.lower && left.upper == right.upper &&
    left.shift == right.shift && left.notes == right.notes && left.label == right.label &&
    left.isHem == right.isHem

end Segment

end FlatKnit
