import FlatKnit.Proofs.Shape.StitchCheck
import FlatKnit.Proofs.Shape.Turns

/-! Room in words: when everything that is counted for the rows of a segment stays in its word. -/

namespace FlatKnit

section Shares

variable {rows : Int} {index : Nat}

/-- A greater change takes no more stitches by a row than the smaller one and all of the rest. -/
theorem shareSize_le_add {change other : Int} {extra : Nat} (positive : 0 < rows)
    (within : index ≤ rows) (close : change.natAbs ≤ other.natAbs + extra) :
    shareSize change rows index ≤ shareSize other rows index + extra := by
  -- As many rows as there are at most take the whole of the rest.
  have taken : (index : Int) * change.natAbs ≤ index * other.natAbs + rows * extra := by
    calc (index : Int) * change.natAbs
      _ ≤ index * (other.natAbs + extra) :=
        Int.mul_le_mul_of_nonneg_left (by omega) (by omega)
      _ = index * other.natAbs + index * extra := Int.mul_add _ _ _
      _ ≤ index * other.natAbs + rows * extra :=
        Int.add_le_add_left (Int.mul_le_mul_of_nonneg_right within (by omega)) _
  have divided := Int.ediv_le_ediv positive taken
  rwa [Int.add_mul_ediv_left _ _ (by omega : rows ≠ 0)] at divided

/-- A rising change and a falling one together add no more by any row than in all, or nothing. -/
theorem evenShare_add_le_of_falls {rising falling : Int} (rises : 0 ≤ rising) (falls : falling < 0)
    (positive : 0 < rows) (within : index ≤ rows) :
    evenShare rising rows index + evenShare falling rows index ≤ max 0 (rising + falling) := by
  -- What one adds is what the other takes off, and at most all that is left in the end.
  have sizes := @shareSize_le_add rows index rising falling (rising + falling).toNat positive
    within (by omega)
  have size := natAbs_sign_mul_le rising (shareSize rising rows index)
  have nonneg := shareSize_mono rising positive (Nat.zero_le index)
  rw [shareSize_zero] at nonneg
  rw [evenShare_eq, evenShare_eq, Int.sign_eq_neg_one_of_neg falls]
  omega

/-- Two changes together add no more by any row than they add in all, or than nothing. -/
theorem evenShare_add_le (left right : Int) (positive : 0 < rows) (within : index ≤ rows) :
    evenShare left rows index + evenShare right rows index ≤ max 0 (left + right) := by
  have leftWithin := evenShare_within left positive within
  have rightWithin := evenShare_within right positive within
  -- Changes of one direction add up by themselves; with two directions, the falling one is taken
  -- off the rising one.
  rcases Int.lt_or_le left 0 with leftFalls | leftRises
  · rcases Int.lt_or_le right 0 with rightFalls | rightRises
    · omega
    · rw [Int.add_comm (evenShare left rows index), Int.add_comm left]
      exact evenShare_add_le_of_falls rightRises leftFalls positive within
  · rcases Int.lt_or_le right 0 with rightFalls | rightRises
    · exact evenShare_add_le_of_falls leftRises rightFalls positive within
    · omega

end Shares

namespace Segment

/-- A segment has passed both checks, at a gauge and a size that can be used. -/
structure Accepted (segment : Segment) (fit : Fit) : Prop where
  dimensions : segment.dimensionFault? = none
  stitches : segment.stitchStop? fit = none
  gauge : fit.gauge.usable = true
  size : isUsable fit.size = true

/--
All that is added up for the rows of a segment stays within its word.

These are what is due along both edges, the counts of both sides, and the totals of the rows.
-/
structure WithinWords (segment : Segment) (fit : Fit) : Prop extends segment.SumsHeld fit where
  totals : ∀ start, ∀ row ∈ (segment.plan fit start).rows, row.TotalHeld

/-- Words have room for the most that is due on either edge, and for the total of the last row. -/
structure HasRoom (segment : Segment) (fit : Fit) : Prop where
  left : (segment.leftEdge fit).peak < 2 ^ 63
  right : (segment.rightEdge fit).peak < 2 ^ 63
  total : (segment.lowerStitches fit).toInt + (segment.leftChange fit).toInt
    + (segment.rightChange fit).toInt < 2 ^ 63

instance (segment : Segment) (fit : Fit) : Decidable (segment.HasRoom fit) :=
  decidable_of_iff ((segment.leftEdge fit).peak < 2 ^ 63 ∧ (segment.rightEdge fit).peak < 2 ^ 63 ∧
      (segment.lowerStitches fit).toInt + (segment.leftChange fit).toInt
        + (segment.rightChange fit).toInt < 2 ^ 63)
    ⟨fun ⟨left, right, total⟩ => ⟨left, right, total⟩,
      fun room => ⟨room.left, room.right, room.total⟩⟩

/-- After a number of rows, both sides stand in exact numbers at words that are not negative. -/
structure SidesHeld (segment : Segment) (fit : Fit) (index : Nat) : Prop where
  leftNonneg : 0 ≤ (segment.leftStart fit).toInt
    + evenShare (segment.leftChange fit).toInt (segment.rowCount fit).toInt index
  leftHeld : (segment.leftStart fit).toInt
    + evenShare (segment.leftChange fit).toInt (segment.rowCount fit).toInt index < 2 ^ 63
  rightNonneg : 0 ≤ (segment.rightStart fit).toInt
    + evenShare (segment.rightChange fit).toInt (segment.rowCount fit).toInt index
  rightHeld : (segment.rightStart fit).toInt
    + evenShare (segment.rightChange fit).toInt (segment.rowCount fit).toInt index < 2 ^ 63

variable {segment : Segment} {fit : Fit}

/-- Nothing is added up for a segment without rows. -/
theorem withinWords_of_rowless (rowless : segment.knittedRows fit = 0) :
    segment.WithinWords fit := by
  -- There is no row to count.
  refine ⟨.of_rowless rowless, ?_⟩
  intro start row member
  rw [plan_eq_empty start rowless] at member
  cases member

/-- A segment within words has lines for its plan, if they can be counted. -/
theorem WithinWords.isSome_compile? (within : segment.WithinWords fit) (start : UInt32)
    (countable : segment.knittedRows fit < 2 ^ 32) :
    (segment.plan fit start).compile?.isSome = true := by
  by_cases some : 0 < segment.knittedRows fit
  · refine (within.toSumsHeld.isSome_compile?_iff some countable).mpr ?_
    intro position low high _
    -- The position counts from one, and names a row whose stitches are a word.
    obtain ⟨index, rfl⟩ : ∃ index, position = index + 1 := ⟨position - 1, by omega⟩
    have total := within.totals start _
      (List.mem_of_getElem? (segment.plan_getElem? fit start (show index < _ from high)))
    rwa [Row.TotalHeld, within.toSumsHeld.total_eq _ high] at total
  · rw [plan_eq_empty start (by omega)]
    rfl

/-- A segment with rows has room in words when its sums and the total of its last row are held. -/
theorem SumsHeld.hasRoom_of_last (held : segment.SumsHeld fit) (some : 0 < segment.knittedRows fit)
    {start : UInt32}
    (total : ∀ row, (segment.plan fit start).last? = .some row → row.TotalHeld) :
    segment.HasRoom fit := by
  have fits := sumsHeld_iff_edgesFit.mp held some
  refine ⟨fits.left, fits.right, ?_⟩
  obtain ⟨before, counted⟩ : ∃ before, segment.knittedRows fit = before + 1 :=
    ⟨segment.knittedRows fit - 1, by omega⟩
  have rows := rowCount_toInt some
  have all : ((before + 1 : Nat) : Int) = (segment.rowCount fit).toInt := by omega
  -- The last row has both changes in full.
  have last := total _ (segment.plan_last? fit start counted)
  rw [Row.TotalHeld, held.total_eq _ (by omega), totalAt, evenShare_all (by omega) all,
    evenShare_all (by omega) all] at last
  exact last.2

/-- A segment with rows has room in words when its sums are held and its plan has lines. -/
theorem SumsHeld.hasRoom (held : segment.SumsHeld fit) (some : 0 < segment.knittedRows fit)
    {start : UInt32} (told : (segment.plan fit start).compile?.isSome = true) :
    segment.HasRoom fit := by
  -- The lines tell the total of the last row.
  obtain ⟨lines, there⟩ := Option.isSome_iff_exists.mp told
  exact held.hasRoom_of_last some fun row ends => StitchPlan.totalHeld_of_compile? there ends

namespace Accepted

/-- Both halves of the lower edge are not negative. -/
theorem starts (accepted : segment.Accepted fit) :
    0 ≤ (segment.leftStart fit).toInt ∧ 0 ≤ (segment.rightStart fit).toInt := by
  -- A half of a count that is not negative is not negative, rounded either way.
  have lower := lowerStitches_nonneg accepted.dimensions accepted.gauge accepted.size
  rw [nonneg_iff_toInt] at lower
  rw [leftStart_toInt, rightStart_toInt]
  omega

/-- Both sides of the last row are what they start from and their whole change, and not negative. -/
theorem ends (accepted : segment.Accepted fit) (some : 0 < segment.knittedRows fit) :
    (0 ≤ (segment.leftStart fit).toInt + (segment.leftChange fit).toInt ∧
        (segment.leftStart fit).toInt + (segment.leftChange fit).toInt < 2 ^ 63) ∧
      0 ≤ (segment.rightStart fit).toInt + (segment.rightChange fit).toInt ∧
        (segment.rightStart fit).toInt + (segment.rightChange fit).toInt < 2 ^ 63 := by
  obtain ⟨leftStarts, rightStarts⟩ := accepted.starts
  have positive := rowCount_pos_iff.mpr some
  -- The check adds both sums up, and lets neither leave its word nor be negative.
  have passed := accepted.stitches
  rw [stitchStop?, if_pos positive] at passed
  split at passed
  · rename_i left right leftSum rightSum
    obtain ⟨leftHeld, rfl⟩ := sum?_eq_some_iff.mp leftSum
    obtain ⟨rightHeld, rfl⟩ := sum?_eq_some_iff.mp rightSum
    simp only [ite_eq_right_iff, reduceCtorEq, imp_false, Bool.or_eq_true, decide_eq_true_eq,
      not_or, Int64.not_lt, nonneg_iff_toInt, toInt_add_of_isWord leftHeld,
      toInt_add_of_isWord rightHeld] at passed
    exact ⟨⟨passed.1, leftHeld.2⟩, passed.2, rightHeld.2⟩
  · cases passed

/-- Between the ends of its edges, an accepted segment has both sides at words not below zero. -/
theorem sidesHeld (accepted : segment.Accepted fit) {index : Nat}
    (some : 0 < segment.knittedRows fit) (within : index ≤ segment.knittedRows fit) :
    segment.SidesHeld fit index := by
  obtain ⟨leftStarts, rightStarts⟩ := accepted.starts
  obtain ⟨leftEnds, rightEnds⟩ := accepted.ends some
  have leftMost := (segment.leftStart fit).toInt_lt
  have rightMost := (segment.rightStart fit).toInt_lt
  have rows := rowCount_toInt some
  have positive : 0 < (segment.rowCount fit).toInt := by omega
  have counted : (index : Int) ≤ (segment.rowCount fit).toInt := by omega
  -- A share lies between nothing and the whole change.
  have left := evenShare_within (segment.leftChange fit).toInt positive counted
  have right := evenShare_within (segment.rightChange fit).toInt positive counted
  exact ⟨by omega, by omega, by omega, by omega⟩

/-- With room for what is due, no sum along an edge of an accepted segment leaves its word. -/
theorem sumsHeld (accepted : segment.Accepted fit) (room : segment.HasRoom fit) :
    segment.SumsHeld fit := by
  -- The checks have seen to it that both edges end in words.
  refine sumsHeld_iff_edgesFit.mpr fun some => ?_
  obtain ⟨leftEnds, rightEnds⟩ := accepted.ends some
  exact ⟨room.left, room.right, ⟨by omega, by omega⟩, ⟨by omega, by omega⟩⟩

/-- What is added up for an accepted segment with rows stays in words exactly when it has room. -/
theorem withinWords_iff (accepted : segment.Accepted fit) (some : 0 < segment.knittedRows fit) :
    segment.WithinWords fit ↔ segment.HasRoom fit := by
  have rows := rowCount_toInt some
  have positive : 0 < (segment.rowCount fit).toInt := by omega
  constructor
  · -- The last row is one of those whose totals are words.
    intro within
    exact within.toSumsHeld.hasRoom_of_last some fun row ends =>
      within.totals 0 row (List.mem_of_getLast? ends)
  · intro room
    have held := accepted.sumsHeld room
    refine ⟨held, ?_⟩
    intro start row member
    rw [plan_rows, List.mem_map] at member
    obtain ⟨index, listed, rfl⟩ := member
    have within : index < segment.knittedRows fit := List.mem_range.mp listed
    -- No row has a greater total than the last one or the lower edge, and none has a negative one.
    have counted : ((index + 1 : Nat) : Int) ≤ (segment.rowCount fit).toInt := by omega
    have most := evenShare_add_le (segment.leftChange fit).toInt (segment.rightChange fit).toInt
      positive counted
    have sides := accepted.sidesHeld some (show index + 1 ≤ _ from within)
    have lower := (segment.lowerStitches fit).toInt_lt
    have last := room.total
    have halves := segment.leftStart_toInt fit
    have otherHalves := segment.rightStart_toInt fit
    obtain ⟨leftNonneg, _, rightNonneg, _⟩ := sides
    rw [Row.TotalHeld, held.total_eq _ within, totalAt]
    exact ⟨by omega, by omega⟩

end Accepted

end Segment

end FlatKnit
