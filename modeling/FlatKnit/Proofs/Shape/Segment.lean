import FlatKnit.Proofs.Shape.Taper
import FlatKnit.Shape.Segment

/-! Plans in closed form: every row of a segment stands at its even share of both changes. -/

namespace FlatKnit

namespace Segment

/-- The number of rows that the segment adds; a row count that is not positive adds none. -/
def knittedRows (segment : Segment) (fit : Fit) : Nat :=
  (segment.rowCount fit).toInt.toNat

/-- The rows that are knitted are those that are counted, if there are any. -/
theorem rowCount_toInt {segment : Segment} {fit : Fit} (some : 0 < segment.knittedRows fit) :
    (segment.rowCount fit).toInt = segment.knittedRows fit := by
  -- A count below zero gives no rows, and any other is the number of rows.
  unfold knittedRows at some ⊢
  omega

/-- Rows are counted exactly when rows are knitted. -/
theorem rowCount_pos_iff {segment : Segment} {fit : Fit} :
    0 < segment.rowCount fit ↔ 0 < segment.knittedRows fit := by
  rw [Int64.lt_iff_toInt_lt, Int64.toInt_zero]
  unfold knittedRows
  omega

/-- The left edge. -/
def leftEdge (segment : Segment) (fit : Fit) : Edge :=
  ⟨segment.leftStart fit, segment.leftChange fit, segment.rowCount fit⟩

/-- The right edge. -/
def rightEdge (segment : Segment) (fit : Fit) : Edge :=
  ⟨segment.rightStart fit, segment.rightChange fit, segment.rowCount fit⟩

/-- The taper state after a number of rows, edge by edge. -/
def stateAfter (segment : Segment) (fit : Fit) (index : Nat) : TaperState :=
  ⟨(segment.leftEdge fit).count index, (segment.rightEdge fit).count index,
    (segment.leftEdge fit).carried index, (segment.rightEdge fit).carried index⟩

/-- The row that follows a number of rows, under a number of its own. -/
def rowAfter (segment : Segment) (fit : Fit) (number : UInt32) (index : Nat) : Row where
  number := number
  left := (segment.leftEdge fit).count (index + 1)
  right := (segment.rightEdge fit).count (index + 1)
  leftShaping := (segment.leftEdge fit).shaping index
  rightShaping := (segment.rightEdge fit).shaping index

/-- A step of the taper is a step of both edges. -/
theorem step_stateAfter (segment : Segment) (fit : Fit) (number : UInt32) (index : Nat) :
    (segment.taper fit).step number (segment.stateAfter fit index)
      = (segment.rowAfter fit number index, segment.stateAfter fit (index + 1)) :=
  rfl

/-- The rows after a number of rows, one by one. -/
theorem rowsFrom_stateAfter (segment : Segment) (fit : Fit) (count : Nat) :
    ∀ (number : UInt32) (index : Nat),
      (segment.taper fit).rowsFrom number (segment.stateAfter fit index) count
        = (List.range count).map fun further =>
            segment.rowAfter fit (number + UInt32.ofNat further) (index + further) := by
  -- Each row moves the number and both edges on by one.
  induction count with
  | zero => simp [Taper.rowsFrom]
  | succ count ih =>
    intro number index
    rw [Taper.rowsFrom, step_stateAfter]
    dsimp only
    rw [ih, List.range_succ_eq_map, List.map_cons, List.map_map]
    congr 1
    · simp
    · apply List.map_congr_left
      intro further _
      simp only [Function.comp, Nat.succ_eq_add_one, UInt32.ofNat_add]
      congr 1
      · rw [UInt32.add_assoc, UInt32.add_comm 1]
        rfl
      · omega

/-- The rows of a plan, one by one. -/
theorem plan_rows (segment : Segment) (fit : Fit) (start : UInt32) :
    (segment.plan fit start).rows = (List.range (segment.knittedRows fit)).map fun index =>
      segment.rowAfter fit (start + UInt32.ofNat index) index := by
  -- A plan starts from the state before all rows, with nothing carried on.
  have rows := segment.rowsFrom_stateAfter fit (segment.knittedRows fit) start 0
  simp only [Nat.zero_add] at rows
  exact rows

/-- A plan has as many rows as its segment adds. -/
@[simp] theorem plan_length (segment : Segment) (fit : Fit) (start : UInt32) :
    (segment.plan fit start).rows.length = segment.knittedRows fit := by
  -- There is one row for each position below the row count.
  rw [plan_rows, List.length_map, List.length_range]

/-- A row of a plan by its position. -/
theorem plan_getElem? (segment : Segment) (fit : Fit) (start : UInt32) {index : Nat}
    (within : index < segment.knittedRows fit) :
    (segment.plan fit start).rows[index]?
      = some (segment.rowAfter fit (start + UInt32.ofNat index) index) := by
  rw [plan_rows, List.getElem?_map, List.getElem?_range within, Option.map_some]

/-- A segment without rows has an empty plan, whatever its start. -/
theorem plan_eq_empty {segment : Segment} {fit : Fit} (start : UInt32)
    (rowless : segment.knittedRows fit = 0) : segment.plan fit start = StitchPlan.empty := by
  have rows : (segment.plan fit start).rows = [] := by
    rw [plan_rows, rowless, List.range_zero, List.map_nil]
  rw [StitchPlan.empty, ← rows]

/-- The last row of a plan with rows. -/
theorem plan_last? (segment : Segment) (fit : Fit) (start : UInt32) {rows : Nat}
    (counted : segment.knittedRows fit = rows + 1) :
    (segment.plan fit start).last?
      = some (segment.rowAfter fit (start + UInt32.ofNat rows) rows) := by
  -- Rows are counted from zero, so that the last one stands one below their number.
  rw [StitchPlan.last?, List.getLast?_eq_getElem?, plan_length, counted]
  exact segment.plan_getElem? fit start (by omega)

/-- The next row number is moved on by the rows of the plan. -/
theorem nextRow_plan (segment : Segment) (fit : Fit) (start : UInt32) :
    (segment.plan fit start).nextRow start = start + UInt32.ofNat (segment.knittedRows fit) := by
  -- The last row is one short of the row count, and the next number is one past it.
  cases counted : segment.knittedRows fit with
  | zero =>
    rw [plan_eq_empty start counted]
    simp [StitchPlan.nextRow, StitchPlan.empty, StitchPlan.last?]
  | succ rows =>
    rw [StitchPlan.nextRow, plan_last? segment fit start counted, UInt32.ofNat_add,
      ← UInt32.add_assoc]
    rfl

/-- A row number that is moved on is exact while the numbers last. -/
theorem toNat_add_ofNat {start : UInt32} {count : Nat} (inside : start.toNat + count < 2 ^ 32) :
    (start + UInt32.ofNat count).toNat = start.toNat + count := by
  -- The sum stays below the end of the word, and so nothing is cut off.
  have small : count < 2 ^ 32 := by omega
  rw [UInt32.toNat_add, UInt32.toNat_ofNat_of_lt' small, Nat.mod_eq_of_lt inside]

/-- The rows of a plan are numbered one after another. -/
theorem plan_numbers {segment : Segment} {fit : Fit} {start : UInt32}
    (inside : start.toNat + segment.knittedRows fit ≤ 2 ^ 32) :
    (segment.plan fit start).rows.map (fun row => row.number.toNat)
      = List.range' start.toNat (segment.knittedRows fit) := by
  -- Each row is numbered by its position, counted on from the start.
  rw [plan_rows, List.map_map, List.range'_eq_map_range]
  apply List.map_congr_left
  intro index within
  rw [List.mem_range] at within
  exact toNat_add_ofNat (by omega)

/-- The left half of the lower edge, rounded down. -/
theorem leftStart_toInt (segment : Segment) (fit : Fit) :
    (segment.leftStart fit).toInt = (segment.lowerStitches fit).toInt / 2 := by
  -- Half of a word is a word.
  have held := isWord_toInt (segment.lowerStitches fit)
  rw [leftStart, Int64.toInt_ofInt_of_le (by have := held.1; omega) (by have := held.2; omega)]

/-- The right half of the lower edge has the odd stitch. -/
theorem rightStart_toInt (segment : Segment) (fit : Fit) :
    (segment.rightStart fit).toInt
      = (segment.lowerStitches fit).toInt - (segment.lowerStitches fit).toInt / 2 := by
  -- What half of a word leaves over is again no larger than the word.
  have held := isWord_toInt (segment.lowerStitches fit)
  have left := segment.leftStart_toInt fit
  rw [rightStart, toInt_sub_of_isWord, left]
  rw [left]
  exact ⟨by have := held.1; omega, by have := held.2; omega⟩

end Segment

end FlatKnit
