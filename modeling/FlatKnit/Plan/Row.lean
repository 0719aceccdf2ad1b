import FlatKnit.Json.Value
import FlatKnit.Word

/-! Rows of a plan: stitches on either side of the centreline, and the shaping that led to them. -/

namespace FlatKnit

/-- One knitted row, counted on either side of the centreline of the panel. -/
structure Row where
  number : UInt32
  left : Int64
  right : Int64
  /-- The stitches that this row adds at its left edge. -/
  leftShaping : Int64
  /-- The stitches that this row adds at its right edge. -/
  rightShaping : Int64
  deriving Repr, DecidableEq, Inhabited

namespace Row

/-- The row that follows after shaping both edges. -/
def next (row : Row) (leftShaping rightShaping : Int64) : Row where
  number := row.number + 1
  left := row.left + leftShaping
  right := row.right + rightShaping
  leftShaping := leftShaping
  rightShaping := rightShaping

/-- The row that follows, unless its number or one of its counts leaves its word. -/
def next? (row : Row) (leftShaping rightShaping : Int64) : Option Row := do
  let number ← numberAfter? row.number
  let left ← sum? row.left leftShaping
  let right ← sum? row.right rightShaping
  return ⟨number, left, right, leftShaping, rightShaping⟩

/-- All stitches of the row. -/
def total (row : Row) : Int64 :=
  row.left + row.right

/-- All stitches of the row, unless they leave their word. -/
def total? (row : Row) : Option Int64 :=
  sum? row.left row.right

/-- Whether two rows have equal counts on both sides. -/
def sameCounts (row other : Row) : Bool :=
  row.left == other.left && row.right == other.right

/-- The record of a row. -/
def toJson (row : Row) : Json :=
  .object [("row_number", .whole row.number.toNat), ("left_stitches", .whole row.left.toInt),
    ("right_stitches", .whole row.right.toInt), ("left_shaping", .whole row.leftShaping.toInt),
    ("right_shaping", .whole row.rightShaping.toInt)]

end Row

end FlatKnit
