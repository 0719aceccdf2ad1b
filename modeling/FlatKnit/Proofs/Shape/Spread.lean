import FlatKnit.Proofs.Shape.ClosedForm
import FlatKnit.Proofs.Shape.Peak
import FlatKnit.Shape.Check

/-! Even spreading: equally many rows in a row take equally many stitches of a change, up to one. -/

namespace FlatKnit

/-- Amounts that are spread evenly over a change. -/
structure SpreadEvenly (change : Int) (amounts : List Int) : Prop where
  /-- No amount goes against the change. -/
  direction : ∀ amount ∈ amounts, amount = 0 ∨ amount.sign = change.sign
  /-- Two windows of equally many amounts differ by at most one in all. -/
  balanced : ∀ first second : List Int, first <:+: amounts → second <:+: amounts →
    first.length = second.length → (first.sum - second.sum).natAbs ≤ 1

/-- The growths of a count add up to its growth over all of them. -/
theorem sum_growth (value : Nat → Int) (count : Nat) :
    ((List.range count).map fun index => value (index + 1) - value index).sum
      = value count - value 0 := by
  -- What is added in one step is taken off in the next.
  induction count with
  | zero => simp
  | succ count ih =>
    rw [List.range_succ, List.map_append, List.sum_append, ih, List.map_singleton,
      List.sum_singleton]
    omega

/-- A window of growths adds up to the growth of the count over the window. -/
theorem sum_window {value : Nat → Int} {count : Nat} {window : List Int}
    (within : window <:+: (List.range count).map fun index => value (index + 1) - value index) :
    ∃ before, window.sum = value (before + window.length) - value before := by
  -- The growths before the window, with and without it, are both the first ones.
  obtain ⟨before, after, split⟩ := within
  have first : ∀ part : List Int,
      part <+: (List.range count).map (fun index => value (index + 1) - value index) →
        part.sum = value part.length - value 0 := by
    intro part start
    have fits := start.length_le
    rw [List.length_map, List.length_range] at fits
    have taken := List.prefix_iff_eq_take.mp start
    rw [← List.map_take, List.take_range, Nat.min_eq_left fits] at taken
    calc part.sum
      _ = ((List.range part.length).map fun index => value (index + 1) - value index).sum := by
        rw [← taken]
      _ = value part.length - value 0 := sum_growth value part.length
  have without := first before ⟨window ++ after, by rw [← List.append_assoc, split]⟩
  have whole := first (before ++ window) ⟨after, split⟩
  rw [List.sum_append, List.length_append] at whole
  exact ⟨before.length, by omega⟩

/-- The whole part of a sum is that of its parts, or one more. -/
theorem ediv_add_within (first second : Int) {rows : Int} (positive : 0 < rows) :
    first / rows + second / rows ≤ (first + second) / rows ∧
      (first + second) / rows ≤ first / rows + second / rows + 1 := by
  -- The remainders together hold no row or one.
  have firstSplit := Int.mul_ediv_add_emod first rows
  have secondSplit := Int.mul_ediv_add_emod second rows
  have firstLow := Int.emod_nonneg first (by omega : rows ≠ 0)
  have secondLow := Int.emod_nonneg second (by omega : rows ≠ 0)
  have firstHigh := Int.emod_lt_of_pos first positive
  have secondHigh := Int.emod_lt_of_pos second positive
  have whole : (first + second) / rows
      = (first % rows + second % rows) / rows + (first / rows + second / rows) := by
    rw [← Int.add_mul_ediv_left _ _ (by omega : rows ≠ 0), Int.mul_add]
    congr 1
    omega
  have low := Int.ediv_nonneg (by omega : 0 ≤ first % rows + second % rows) (by omega : 0 ≤ rows)
  have high : (first % rows + second % rows) / rows < 2 :=
    Int.ediv_lt_of_lt_mul positive (by omega)
  omega

/-- What a window of rows takes of a change depends on its length, up to one stitch. -/
theorem evenShare_window (change : Int) {rows : Int} (before length : Nat) (positive : 0 < rows) :
    ∃ size, evenShare change rows (before + length) - evenShare change rows before
        = change.sign * size ∧
      (length * change.natAbs / rows ≤ size ∧ size ≤ length * change.natAbs / rows + 1) := by
  have within := ediv_add_within (before * change.natAbs) (length * change.natAbs) positive
  rw [← Int.add_mul] at within
  -- The share is a rounded quotient, and those of two sums differ by one at most.
  refine ⟨((before + length : Nat) : Int) * change.natAbs / rows - before * change.natAbs / rows,
    ?_, ?_⟩
  · rw [evenShare, evenShare, Int.mul_sub]
  · rw [Int.natCast_add]
    omega

namespace Edge

variable {edge : Edge}

/-- The stitches that the edge adds row by row. -/
def shapings (edge : Edge) : List Int :=
  (List.range edge.length).map fun index => (edge.shaping index).toInt

/-- The stitches that an edge with exact sums adds are the growth of its even share. -/
theorem Exact.shapings_eq (exact : edge.Exact) :
    edge.shapings = (List.range edge.length).map fun index =>
      evenShare edge.change.toInt edge.rows.toInt (index + 1)
        - evenShare edge.change.toInt edge.rows.toInt index := by
  -- The lists are compared row by row.
  apply List.map_congr_left
  intro index within
  exact exact.shaping_toInt (List.mem_range.mp within)

/-- An edge with exact sums spreads its change evenly. -/
theorem Exact.spreadEvenly (exact : edge.Exact) :
    SpreadEvenly edge.change.toInt edge.shapings := by
  by_cases rowless : edge.length = 0
  · -- Without rows there is nothing to spread.
    have empty : edge.shapings = [] := by
      rw [shapings, rowless, List.range_zero, List.map_nil]
    rw [empty]
    refine ⟨by simp, ?_⟩
    intro first second firstWithin secondWithin _
    rw [List.infix_nil.mp firstWithin, List.infix_nil.mp secondWithin]
    decide
  have positive : 0 < edge.rows.toInt := rows_positive (show 0 < edge.length by omega)
  rw [exact.shapings_eq]
  refine ⟨?_, ?_⟩
  · -- A single row takes what is not less than nothing of the size of the change.
    intro amount member
    obtain ⟨index, _, rfl⟩ := List.mem_map.mp member
    obtain ⟨size, grown, low, _⟩ := evenShare_window edge.change.toInt index 1 positive
    have nonneg : 0 ≤ size := by
      have quotient := Int.ediv_nonneg
        (by omega : 0 ≤ ((1 : Nat) : Int) * edge.change.toInt.natAbs)
        (by omega : 0 ≤ edge.rows.toInt)
      omega
    rw [grown]
    rcases Int.lt_or_eq_of_le nonneg with some | none
    · right
      rw [Int.sign_mul, Int.sign_sign, Int.sign_eq_one_of_pos some, Int.mul_one]
    · left
      rw [← none, Int.mul_zero]
  · -- Both windows take the whole part of the same share, or one stitch more.
    intro first second firstWithin secondWithin sameLength
    obtain ⟨before, firstSum⟩ := sum_window firstWithin
    obtain ⟨beforeSecond, secondSum⟩ := sum_window secondWithin
    obtain ⟨size, grown, sized⟩ :=
      evenShare_window edge.change.toInt before first.length positive
    obtain ⟨sizeSecond, grownSecond, sizedSecond⟩ :=
      evenShare_window edge.change.toInt beforeSecond second.length positive
    rw [← sameLength] at sizedSecond
    rw [firstSum, secondSum, grown, grownSecond, ← Int.mul_sub]
    have bound := natAbs_sign_mul_le edge.change.toInt (size - sizeSecond)
    omega

end Edge

namespace Segment

/-- The stitches that a plan records on the left are what the left edge adds. -/
theorem plan_leftShapings (segment : Segment) (fit : Fit) (start : UInt32) :
    (segment.plan fit start).rows.map (fun row => row.leftShaping.toInt)
      = (segment.leftEdge fit).shapings := by
  rw [plan_rows, List.map_map]
  rfl

/-- The stitches that a plan records on the right are what the right edge adds. -/
theorem plan_rightShapings (segment : Segment) (fit : Fit) (start : UInt32) :
    (segment.plan fit start).rows.map (fun row => row.rightShaping.toInt)
      = (segment.rightEdge fit).shapings := by
  rw [plan_rows, List.map_map]
  rfl

/--
Each side of a plan spreads its change evenly.

There is a plan exactly when words hold the most that is due on both edges and where these end, and
when one more row number than those of the plan is left. Otherwise knitting cannot even begin, since
the sum that leaves its word ends the run.
-/
theorem plan_spreadEvenly (segment : Segment) (fit : Fit) (start : UInt32) :
    (∀ plan, segment.plan? fit start = some plan →
      SpreadEvenly (segment.leftChange fit).toInt
          (plan.rows.map fun row => row.leftShaping.toInt) ∧
        SpreadEvenly (segment.rightChange fit).toInt
          (plan.rows.map fun row => row.rightShaping.toInt)) ∧
      ((∃ plan, segment.plan? fit start = some plan) ↔
        (0 < segment.knittedRows fit → segment.EdgesFit fit) ∧
          start.toNat + segment.knittedRows fit < 2 ^ 32) := by
  simp only [plan?_eq_some_iff]
  constructor
  · -- The rows of the plan record what its edges add.
    rintro plan ⟨⟨held, _⟩, rfl⟩
    rw [plan_leftShapings, plan_rightShapings]
    exact ⟨held.left.spreadEvenly, held.right.spreadEvenly⟩
  · rw [← sumsHeld_iff_edgesFit]
    simp

/-- Both sides of the leaning segment spread their changes evenly over seven rows. -/
theorem leaning_spreadEvenly :
    ∃ plan, leaning.plan? leaningFit 40 = some plan ∧ plan.rows.length = 7 ∧
      SpreadEvenly (-8) (plan.rows.map fun row => row.leftShaping.toInt) ∧
      SpreadEvenly 18 (plan.rows.map fun row => row.rightShaping.toInt) := by
  -- Its counts are exact, so that it has a plan.
  have held := (@leaning_inBounds 40 (by decide)).sumsHeld
  have there := plan?_eq_some_iff.mpr
    ⟨⟨held, show (40 : UInt32).toNat + leaning.knittedRows leaningFit < 2 ^ 32 by decide⟩, rfl⟩
  have spread := (plan_spreadEvenly leaning leaningFit 40).1 _ there
  have leftChange : leaning.leftChange leaningFit = -8 := congrArg Edge.change leaning_edges.1
  have rightChange : leaning.rightChange leaningFit = 18 := congrArg Edge.change leaning_edges.2
  rw [leftChange, rightChange] at spread
  exact ⟨_, there, by rw [plan_length]; decide, spread⟩

/-- A segment whose left edge gains as many stitches as a word can hold, over five rows. -/
def boundless : Segment :=
  { Segment.plain 5.0 0.0 1e19 with shift := -5e18 }

/-- One stitch and one row to the inch. -/
def boundlessFit : Fit :=
  ⟨⟨4.0, 4.0⟩, 1.0⟩

/-- No word holds what is due on the second row of the boundless segment, so it has no plan. -/
theorem plan?_boundless : boundless.plan? boundlessFit 1 = none := by
  decide +kernel

/--
The boundless segment has five rows to knit, and its dimensions and its stitches pass their checks,
but it has no plan that could spread its change evenly.
-/
theorem boundless_not_spreadEvenly :
    boundless.knittedRows boundlessFit = 5 ∧ boundless.dimensionFault? = none ∧
      (boundless.stitchStop? boundlessFit).isNone = true ∧
      ¬ ∃ plan, boundless.plan? boundlessFit 1 = some plan ∧
        SpreadEvenly (boundless.leftChange boundlessFit).toInt
          (plan.rows.map fun row => row.leftShaping.toInt) := by
  refine ⟨by decide +kernel, by decide +kernel, by decide +kernel, ?_⟩
  rintro ⟨plan, there, _⟩
  rw [plan?_boundless] at there
  cases there

end Segment

end FlatKnit
