import FlatKnit.Proofs.Plan.Replay
import FlatKnit.Proofs.Shape.ClosedForm

/-! Lines of a segment: knitted again, they give every row of its plan back. -/

namespace FlatKnit

namespace Segment

/-- No sum that a plan takes leaves its word, and a row count fits into a line. -/
structure Exact (segment : Segment) (fit : Fit) : Prop where
  left : (segment.leftEdge fit).Exact
  right : (segment.rightEdge fit).Exact
  countable : segment.knittedRows fit < 2 ^ 32

/-- A row comes from the one before it by the shaping that it records. -/
theorem rowAfter_follows (segment : Segment) (fit : Fit) (number : UInt32) (index : Nat) :
    (segment.rowAfter fit number index).Follows
      (segment.rowAfter fit (number + 1) (index + 1)) :=
  rfl

/-- Each row of a plan comes from the one before it by the shaping that it records. -/
theorem plan_follows (segment : Segment) (fit : Fit) (start : UInt32) :
    (segment.plan fit start).rows.IsChain Row.Follows := by
  -- Neighbours in the plan are the rows after one number of rows and after the next.
  rw [List.isChain_iff_getElem]
  intro index within
  simp only [plan_rows, List.getElem_map, List.getElem_range, UInt32.ofNat_add]
  rw [← UInt32.add_assoc]
  exact segment.rowAfter_follows fit _ index

/-- The numbers of a plan tell its rows apart, as long as the rows can be counted. -/
theorem plan_number_injective {segment : Segment} {fit : Fit} {start : UInt32}
    (countable : segment.knittedRows fit < 2 ^ 32) {row other : Row}
    (member : row ∈ (segment.plan fit start).rows)
    (otherMember : other ∈ (segment.plan fit start).rows) (same : other.number = row.number) :
    other = row := by
  rw [plan_rows, List.mem_map] at member otherMember
  obtain ⟨index, within, rfl⟩ := member
  obtain ⟨otherIndex, otherWithin, rfl⟩ := otherMember
  rw [List.mem_range] at within otherWithin
  -- Offsets below the range of a number are equal when the numbers are.
  have offsets : UInt32.ofNat otherIndex = UInt32.ofNat index := by
    simpa [rowAfter] using same
  have values := congrArg UInt32.toNat offsets
  rw [UInt32.toNat_ofNat_of_lt' (show otherIndex < 2 ^ 32 by omega),
    UInt32.toNat_ofNat_of_lt' (show index < 2 ^ 32 by omega)] at values
  rw [values]

/-- A plan that ends with the counts of its first row has them on every row. -/
theorem Exact.sameCounts_of_ends {segment : Segment} {fit : Fit} (exact : segment.Exact fit)
    {number last other : UInt32} {rows index : Nat} (counted : segment.knittedRows fit = rows + 1)
    (within : index ≤ rows)
    (same : (segment.rowAfter fit number 0).sameCounts (segment.rowAfter fit last rows) = true) :
    (segment.rowAfter fit other index).sameCounts (segment.rowAfter fit number 0) = true := by
  -- Each side moves in one direction only, so that it cannot come back to a count it has left.
  rw [Row.sameCounts_iff] at same ⊢
  have low : 1 ≤ index + 1 := by omega
  have high : index + 1 ≤ rows + 1 := by omega
  exact ⟨exact.left.count_between low high (Nat.le_of_eq counted.symm) same.1,
    exact.right.count_between low high (Nat.le_of_eq counted.symm) same.2⟩

/-- The lines of a segment tell the rows of its plan. -/
theorem Exact.tells_compile {segment : Segment} {fit : Fit} (exact : segment.Exact fit)
    (start : UInt32) :
    Tells (segment.plan fit start).belowFirst (segment.plan fit start).compile
      (segment.plan fit start).rows := by
  -- Lines tell the rows of any plan that counts on and stays plain when it ends as it begins.
  cases counted : segment.knittedRows fit with
  | zero =>
    rw [plan_eq_empty start counted]
    exact Tells.done _
  | succ rows =>
    have listed := segment.plan_rows fit start
    rw [counted, List.range_succ_eq_map, List.map_cons, List.map_map] at listed
    have contiguous := (segment.plan_follows fit start).imp fun _ _ => Row.Follows.contiguous
    rw [listed] at contiguous
    have below : (segment.plan fit start).belowFirst
        = (segment.rowAfter fit (start + UInt32.ofNat 0) 0).tally.below := by
      rw [StitchPlan.belowFirst, StitchPlan.first?, listed]
      rfl
    rw [below]
    refine StitchPlan.tells_compile listed contiguous ?_ ?_
    · have bound := exact.countable
      rw [counted] at bound
      simpa using bound
    · intro same later member
      -- The last row of the plan is the last of the rows after the first, or else the first.
      have last := segment.plan_last? fit start counted
      rw [StitchPlan.last?, listed, List.getLast?_cons, ← List.getLastD_eq_getLast?,
        Option.some.injEq] at last
      rw [last] at same
      obtain ⟨index, within, rfl⟩ := List.mem_map.mp member
      rw [List.mem_range] at within
      exact exact.sameCounts_of_ends counted (by omega) same

/--
The lines of a plan, knitted again from below its first row, give the counts of all its rows.

After each line the knitter stands on the row that the line names, with the stitches that the line
names, and a shaping line has the shaping that this row records.
-/
theorem compile_retells (segment : Segment) (fit : Fit) (start : UInt32)
    (exact : segment.Exact fit) :
    (segment.plan fit start).belowFirst.replay (segment.plan fit start).compile
        = (segment.plan fit start).rows.map Row.tally ∧
      ∀ told line rest, (segment.plan fit start).compile = told ++ line :: rest →
        ∃ row ∈ (segment.plan fit start).rows,
          ((segment.plan fit start).belowFirst.replay (told ++ [line])).getLast?
              = some row.tally ∧
            line.counter? = some row.number ∧ line.inWork? = some row.total ∧
            (∀ other ∈ (segment.plan fit start).rows, other.number = row.number → other = row) ∧
            ∀ left right rows counter stitches,
              line = .shaping left right rows counter stitches →
                left = row.leftShaping ∧ right = row.rightShaping := by
  -- The lines tell the rows stretch by stretch, so that every line closes one of the stretches.
  have tells := exact.tells_compile start
  refine ⟨tells.replay_eq, ?_⟩
  intro told line rest split
  obtain ⟨row, member, stands, counter, inWork⟩ := tells.standing split
  refine ⟨row, member, stands, counter, inWork, ?_, ?_⟩
  · intro other otherMember same
    exact plan_number_injective exact.countable member otherMember same
  · rintro left right rows named stitches rfl
    -- The row that records the shaping has the number that the line names.
    have among : .shaping left right rows named stitches ∈ (segment.plan fit start).compile := by
      rw [split]
      simp
    obtain ⟨recorder, recorderMember, number, leftRecorded, rightRecorded⟩ :=
      StitchPlan.shaping_mem_compile (segment.plan_follows fit start) among
    have same : recorder.number = row.number := number.trans (Option.some.inj counter)
    obtain rfl := plan_number_injective exact.countable member recorderMember same
    exact ⟨leftRecorded.symm, rightRecorded.symm⟩

/-- The sums of the leaning segment stay within their words. -/
theorem leaning_exact : leaning.Exact leaningFit where
  left := (@leaning_inBounds 40 (by decide)).left.exact
  right := (@leaning_inBounds 40 (by decide)).right.exact
  countable := by decide

/-- The lines of the leaning segment give its seven rows back. -/
theorem leaning_retells :
    leaning.Exact leaningFit ∧
      (leaning.plan leaningFit 40).belowFirst.replay (leaning.plan leaningFit 40).compile
        = (leaning.plan leaningFit 40).rows.map Row.tally :=
  ⟨leaning_exact, (compile_retells leaning leaningFit 40 leaning_exact).1⟩

end Segment

end FlatKnit
