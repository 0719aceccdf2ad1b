import FlatKnit.Proofs.Shape.Overflow

/-! Closed forms: every row of a plan has taken its even share, and the last one the whole change. -/

namespace FlatKnit

namespace Segment

/-- Both edges and the row numbers stay within their words. -/
structure InBounds (segment : Segment) (fit : Fit) (start : UInt32) : Prop where
  left : (segment.leftEdge fit).Bounded
  right : (segment.rightEdge fit).Bounded
  numbers : start.toNat + segment.knittedRows fit ≤ 2 ^ 32

/-- Within bounds, no sum along an edge of the segment leaves its word. -/
theorem InBounds.sumsHeld {segment : Segment} {fit : Fit} {start : UInt32}
    (inBounds : segment.InBounds fit start) : segment.SumsHeld fit :=
  ⟨inBounds.left.exact, inBounds.right.exact⟩

/-- The row at a position of a plan, counted from one, as the closed form has it. -/
structure StandsAt (segment : Segment) (fit : Fit) (start : UInt32) (index : Nat) (row : Row) :
    Prop where
  number : row.number.toNat = start.toNat + index - 1
  left : row.left.toInt = (segment.lowerStitches fit).toInt / 2
    + evenShare (segment.leftChange fit).toInt (segment.rowCount fit).toInt index
  right : row.right.toInt
    = (segment.lowerStitches fit).toInt - (segment.lowerStitches fit).toInt / 2
      + evenShare (segment.rightChange fit).toInt (segment.rowCount fit).toInt index
  leftShaping : row.leftShaping.toInt
    = evenShare (segment.leftChange fit).toInt (segment.rowCount fit).toInt index
      - evenShare (segment.leftChange fit).toInt (segment.rowCount fit).toInt (index - 1)
  rightShaping : row.rightShaping.toInt
    = evenShare (segment.rightChange fit).toInt (segment.rowCount fit).toInt index
      - evenShare (segment.rightChange fit).toInt (segment.rowCount fit).toInt (index - 1)
  /-- The left side is less than one stitch away from an exact spread. -/
  leftError : ((segment.rowCount fit).toInt
        * (row.left.toInt - (segment.lowerStitches fit).toInt / 2)
      - index * (segment.leftChange fit).toInt).natAbs < (segment.rowCount fit).toInt
  /-- The right side is less than one stitch away from an exact spread. -/
  rightError : ((segment.rowCount fit).toInt * (row.right.toInt
        - ((segment.lowerStitches fit).toInt - (segment.lowerStitches fit).toInt / 2))
      - index * (segment.rightChange fit).toInt).natAbs < (segment.rowCount fit).toInt

/-- Every row of a plan within bounds stands where the closed form has it. -/
theorem InBounds.standsAt {segment : Segment} {fit : Fit} {start : UInt32}
    (inBounds : segment.InBounds fit start) {index : Nat}
    (within : index < segment.knittedRows fit) :
    segment.StandsAt fit start (index + 1)
      (segment.rowAfter fit (start + UInt32.ofNat index) index) := by
  -- The edges are exact within bounds, so that their counts are the start and the even share.
  have positive : 0 < (segment.rowCount fit).toInt := by
    rw [rowCount_toInt (by omega)]
    omega
  have number : (start + UInt32.ofNat index).toNat = start.toNat + index :=
    toNat_add_ofNat (by have bound := inBounds.numbers; omega)
  have left := inBounds.left.exact.count_toInt (show index + 1 ≤ _ from within)
  have right := inBounds.right.exact.count_toInt (show index + 1 ≤ _ from within)
  simp only [leftEdge, rightEdge, leftStart_toInt, rightStart_toInt] at left right
  refine ⟨by simp only [rowAfter, number]; omega, left, right,
    inBounds.left.exact.shaping_toInt within, inBounds.right.exact.shaping_toInt within, ?_, ?_⟩
  · -- What a side has gained is its share, and a share is less than one stitch off.
    have gained := Int.sub_eq_iff_eq_add'.mpr left
    have error := evenShare_error (segment.leftChange fit).toInt (index + 1) positive
    simp only [rowAfter, leftEdge, gained]
    omega
  · have gained := Int.sub_eq_iff_eq_add'.mpr right
    have error := evenShare_error (segment.rightChange fit).toInt (index + 1) positive
    simp only [rowAfter, rightEdge, gained]
    omega

/--
A plan has no rows for a row count that is not positive, and else one row for each counted one.

Row by row, both sides have taken the even share of their change, and the last row has all of it.
With every step checked, the plan comes out as it is unless its last row has the last number there
is: the numbers are handed out by a range, which then cannot move on.
-/
theorem plan_closedForm (segment : Segment) (fit : Fit) (start : UInt32) :
    ((segment.rowCount fit).toInt ≤ 0 → (segment.plan fit start).rows = [] ∧
      segment.plan? fit start = some (segment.plan fit start)) ∧
    (0 < (segment.rowCount fit).toInt → segment.InBounds fit start →
      ((segment.plan fit start).rows.length : Int) = (segment.rowCount fit).toInt ∧
      (∀ index : Nat, 1 ≤ index → index ≤ (segment.rowCount fit).toInt →
        ∃ row, (segment.plan fit start).rows[index - 1]? = some row ∧
          segment.StandsAt fit start index row) ∧
      ∃ last, (segment.plan fit start).last? = some last ∧
        last.left.toInt
          = (segment.lowerStitches fit).toInt / 2 + (segment.leftChange fit).toInt ∧
        last.right.toInt = (segment.lowerStitches fit).toInt - (segment.lowerStitches fit).toInt / 2
          + (segment.rightChange fit).toInt ∧
        (segment.plan? fit start = some (segment.plan fit start) ↔
          last.number.toNat + 1 < 2 ^ 32)) := by
  constructor
  · -- Without a positive count there is no position below it, and nothing to add up.
    intro notPositive
    have rowless : segment.knittedRows fit = 0 := by
      unfold knittedRows
      omega
    have inside := start.toNat_lt
    refine ⟨by rw [plan_eq_empty start rowless, StitchPlan.empty], ?_⟩
    exact plan?_eq_some_iff.mpr ⟨⟨.of_rowless rowless, by omega⟩, rfl⟩
  intro positive inBounds
  have counted : (segment.knittedRows fit : Int) = (segment.rowCount fit).toInt := by
    unfold knittedRows
    omega
  refine ⟨by rw [plan_length, counted], ?_, ?_⟩
  · -- Positions are counted from one here and from zero in the list.
    intro index low high
    have within : index - 1 < segment.knittedRows fit := by omega
    have stands := inBounds.standsAt within
    rw [Nat.sub_add_cancel low] at stands
    exact ⟨_, segment.plan_getElem? fit start within, stands⟩
  · -- The last row is the one at which the share is the whole change.
    obtain ⟨before, rows⟩ : ∃ before, segment.knittedRows fit = before + 1 :=
      ⟨segment.knittedRows fit - 1, by omega⟩
    have stands := inBounds.standsAt (show before < segment.knittedRows fit by omega)
    refine ⟨_, segment.plan_last? fit start rows, ?_, ?_, ?_⟩
    · rw [stands.left, evenShare_all positive (by omega)]
    · rw [stands.right, evenShare_all positive (by omega)]
    · -- Within bounds no sum leaves its word, so that only the numbers can run out.
      have number := stands.number
      rw [plan?_eq_some_iff, number]
      simp only [inBounds.sumsHeld, true_and, and_true]
      omega

/-- A segment that leans to the right: its left edge falls and its right edge rises. -/
def leaning : Segment :=
  { Segment.plain 1.0 5.0 7.0 with shift := 2.5 }

/-- Seven rows and five stitches to the inch. -/
def leaningFit : Fit :=
  ⟨⟨20.0, 28.0⟩, 1.0⟩

/-- Eight stitches leave and eighteen come over seven rows, with up to three on one row. -/
theorem leaning_edges :
    leaning.leftEdge leaningFit = ⟨12, -8, 7⟩ ∧ leaning.rightEdge leaningFit = ⟨13, 18, 7⟩ := by
  decide

/-- The leaning segment stays within bounds wherever its row numbers last. -/
theorem leaning_inBounds {start : UInt32} (numbers : start.toNat + 7 ≤ 2 ^ 32) :
    leaning.InBounds leaningFit start where
  left := by
    rw [leaning_edges.1]
    exact Edge.bounded_of_end (by decide) (by decide)
  right := by
    rw [leaning_edges.2]
    exact Edge.bounded_of_end (by decide) (by decide)
  numbers := numbers

/-- From row forty on, the leaning segment takes all of both changes by row forty-six. -/
theorem leaning_closedForm :
    leaning.InBounds leaningFit 40 ∧
      (∃ row, (leaning.plan leaningFit 40).rows[2]? = some row ∧
        leaning.StandsAt leaningFit 40 3 row) ∧
      ∃ last, (leaning.plan leaningFit 40).last? = some last ∧
        last.left.toInt = 4 ∧ last.right.toInt = 31 := by
  -- The closed form gives every row; the third and the last one are those that are told.
  have inBounds := @leaning_inBounds 40 (by decide)
  have closed := (plan_closedForm leaning leaningFit 40).2 (by decide) inBounds
  obtain ⟨last, reached, left, right, _⟩ := closed.2.2
  exact ⟨inBounds, closed.2.1 3 (by decide) (by decide), last, reached,
    left.trans (by decide +kernel), right.trans (by decide +kernel)⟩

end Segment

end FlatKnit
