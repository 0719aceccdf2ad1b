import FlatKnit.Plan.Basic

/-! Tapers: the changes of two edges, spread evenly over rows. -/

namespace FlatKnit

/-- The sign of a word: one, zero or minus one. -/
def signOf (number : Int64) : Int64 :=
  if 0 < number then 1 else if number < 0 then -1 else 0

/-- One row of spreading a change over `rows` rows: the stitches due, and what is carried on. -/
def spreadStep (change rows carried : Int64) : Int64 × Int64 :=
  let due := carried + change.abs
  -- The quotient is a size, and the direction of the change is put back on it.
  (due / rows * signOf change, due % rows)

/-- One row of spreading a change, unless the size of the change or what is due leaves its word. -/
def spreadStep? (change rows carried : Int64) : Option (Int64 × Int64) := do
  let size ← magnitude? change
  let due ← sum? carried size
  -- What is due is not negative, so that no quotient of it by a number of rows leaves its word.
  return (due / rows * signOf change, due % rows)

/-- The changes of the two edges over a segment, and the number of rows they are spread over. -/
structure Taper where
  left : Int64
  right : Int64
  rows : Int64
  deriving Repr, DecidableEq

/-- Where a segment stands between two rows: counts, and what each edge carries on. -/
structure TaperState where
  left : Int64
  right : Int64
  leftCarried : Int64
  rightCarried : Int64
  deriving Repr, DecidableEq

namespace Taper

/-- The row with the next number, and the state after it. -/
def step (taper : Taper) (number : UInt32) (state : TaperState) : Row × TaperState :=
  let (leftShaping, leftCarried) := spreadStep taper.left taper.rows state.leftCarried
  let (rightShaping, rightCarried) := spreadStep taper.right taper.rows state.rightCarried
  -- The counts move with what each edge adds; the remainders go on to the next row.
  let left := state.left + leftShaping
  let right := state.right + rightShaping
  (⟨number, left, right, leftShaping, rightShaping⟩,
    ⟨left, right, leftCarried, rightCarried⟩)

/-- The row with the next number, and the state after it, unless a sum leaves its word. -/
def step? (taper : Taper) (number : UInt32) (state : TaperState) :
    Option (Row × TaperState) := do
  let (leftShaping, leftCarried) ← spreadStep? taper.left taper.rows state.leftCarried
  let (rightShaping, rightCarried) ← spreadStep? taper.right taper.rows state.rightCarried
  let left ← sum? state.left leftShaping
  let right ← sum? state.right rightShaping
  return (⟨number, left, right, leftShaping, rightShaping⟩,
    ⟨left, right, leftCarried, rightCarried⟩)

/-- The next `count` rows, numbered from `number` on. -/
def rowsFrom (taper : Taper) (number : UInt32) (state : TaperState) : Nat → List Row
  | 0 => []
  | count + 1 =>
    let (row, state) := taper.step number state
    -- The state is handed on, so that each row builds on the one before.
    row :: taper.rowsFrom (number + 1) state count

/-- The next `count` rows, unless a sum or a row number leaves its word. -/
def rowsFrom? (taper : Taper) (number : UInt32) (state : TaperState) : Nat → Option (List Row)
  | 0 => some []
  | count + 1 => do
    -- The range of row numbers moves on before it hands a number out, so it needs one more.
    let next ← numberAfter? number
    let (row, state) ← taper.step? number state
    let rows ← taper.rowsFrom? next state count
    return row :: rows

end Taper

end FlatKnit
