import FlatKnit.Proofs.Decimal.Sign
import FlatKnit.Proofs.Shape.ClosedForm
import FlatKnit.Shape.Check
import FlatKnit.Shape.Timeline

/-! Stitch checks: the ends of both edges tell whether any row of a shape falls below zero. -/

namespace FlatKnit

/-- Whether neither side of a row is below zero. -/
def Row.Nonnegative (row : Row) : Prop :=
  0 ≤ row.left ∧ 0 ≤ row.right

instance (row : Row) : Decidable row.Nonnegative :=
  inferInstanceAs (Decidable (_ ∧ _))

/-- A side of a row is below zero unless neither is. -/
theorem Row.below_iff (row : Row) :
    (decide (row.left < 0) || decide (row.right < 0)) = true ↔ ¬ row.Nonnegative := by
  rw [Bool.or_eq_true, decide_eq_true_iff, decide_eq_true_iff, Nonnegative, not_and_or,
    Int64.not_le, Int64.not_le]

/-- A word is not negative when its value is not. -/
theorem nonneg_iff_toInt (word : Int64) : 0 ≤ word ↔ 0 ≤ word.toInt := by
  rw [Int64.le_iff_toInt_le, Int64.toInt_zero]

namespace Edge

variable {edge : Edge}

/-- An edge with exact sums that starts and ends at zero or above never falls below it. -/
theorem Exact.count_nonneg (exact : edge.Exact) (starts : 0 ≤ edge.start)
    (ends : 0 ≤ edge.start + edge.change) {index : Nat} (within : index < edge.length) :
    0 ≤ edge.count (index + 1) := by
  have positive := rows_positive within
  have counted : ((index + 1 : Nat) : Int) ≤ edge.rows.toInt := by
    unfold length at within
    omega
  have final := exact.count_toInt (Nat.le_refl edge.length)
  rw [exact.count_length positive, evenShare_all positive (by unfold length; omega)] at final
  rw [nonneg_iff_toInt] at starts ends ⊢
  rw [exact.count_toInt (show index + 1 ≤ edge.length from within)]
  -- A share lies between nothing and the whole change.
  rcases evenShare_within edge.change.toInt positive counted with rising | falling
  · omega
  · omega

end Edge

namespace Segment

/-- All sums are held, and a segment with rows starts from zero or more stitches. -/
structure Checkable (segment : Segment) (fit : Fit) : Prop extends segment.SumsHeld fit where
  lower : 0 < segment.knittedRows fit → 0 ≤ segment.lowerStitches fit

variable {segment : Segment} {fit : Fit}

/-- The last row of a plan has the whole change of both edges. -/
theorem Checkable.last_counts (checkable : segment.Checkable fit) {start : UInt32} {last : Row}
    (ends : (segment.plan fit start).last? = some last) :
    last.left = segment.leftStart fit + segment.leftChange fit ∧
      last.right = segment.rightStart fit + segment.rightChange fit := by
  cases counted : segment.knittedRows fit with
  | zero =>
    rw [plan_eq_empty start counted] at ends
    cases ends
  | succ rows =>
    -- The last row follows all rows but one, and so it is where both edges end.
    rw [segment.plan_last? fit start counted] at ends
    obtain rfl := Option.some.inj ends
    have positive : 0 < (segment.rowCount fit).toInt := by
      rw [rowCount_toInt (by omega)]
      omega
    have left := checkable.left.count_length positive
    have right := checkable.right.count_length positive
    rw [show (segment.leftEdge fit).length = rows + 1 from counted] at left
    rw [show (segment.rightEdge fit).length = rows + 1 from counted] at right
    exact ⟨left, right⟩

/-- A plan whose last row is not below zero has no row that is. -/
theorem Checkable.nonnegative_of_last (checkable : segment.Checkable fit) {start : UInt32}
    {last : Row} (ends : (segment.plan fit start).last? = some last) (holds : last.Nonnegative) :
    ∀ row ∈ (segment.plan fit start).rows, row.Nonnegative := by
  intro row member
  obtain ⟨left, right⟩ := checkable.last_counts ends
  obtain ⟨leftEnds, rightEnds⟩ := holds
  rw [left] at leftEnds
  rw [right] at rightEnds
  rw [plan_rows, List.mem_map] at member
  obtain ⟨index, within, rfl⟩ := member
  rw [List.mem_range] at within
  -- Both halves of stitches that are not negative are not negative.
  have lower := checkable.lower (by omega)
  rw [nonneg_iff_toInt] at lower
  have leftStarts : 0 ≤ segment.leftStart fit := by
    rw [nonneg_iff_toInt, leftStart_toInt]
    omega
  have rightStarts : 0 ≤ segment.rightStart fit := by
    rw [nonneg_iff_toInt, rightStart_toInt]
    omega
  exact ⟨checkable.left.count_nonneg leftStarts leftEnds within,
    checkable.right.count_nonneg rightStarts rightEnds within⟩

/-- The check stops at a segment with what its last row has, when a side of it is below zero. -/
theorem Checkable.stitchStop?_eq (checkable : segment.Checkable fit) (start : UInt32) :
    segment.stitchStop? fit = (segment.plan fit start).last?.bind fun last =>
      if last.Nonnegative then none
      else some (.fault (.negativeStitches segment.text last.left last.right)) := by
  cases counted : segment.knittedRows fit with
  | zero =>
    -- Without rows there is nothing to check.
    have rowless : ¬ 0 < segment.rowCount fit := by
      rw [rowCount_pos_iff, counted]
      exact Nat.lt_irrefl 0
    rw [stitchStop?, if_neg rowless, plan_eq_empty start counted]
    rfl
  | succ rows =>
    -- With rows, the check adds both changes to where the edges start, which is the last row.
    have positive : 0 < segment.rowCount fit := rowCount_pos_iff.mpr (by omega)
    have ends := segment.plan_last? fit start counted
    obtain ⟨left, right⟩ := checkable.last_counts ends
    have some : 0 < (segment.rowCount fit).toInt := by
      rw [rowCount_toInt (by omega)]
      omega
    have leftSum := sum?_eq_some_iff.mpr ⟨checkable.left.isWord_end some, left.symm⟩
    have rightSum := sum?_eq_some_iff.mpr ⟨checkable.right.isWord_end some, right.symm⟩
    simp only [leftEdge, rightEdge] at leftSum rightSum
    rw [stitchStop?, if_pos positive, ends, Option.bind_some, leftSum, rightSum]
    simp only [Row.below_iff, ite_not]

/-- The check passes a segment exactly when no row of its plan has a side below zero. -/
theorem Checkable.stitchStop?_eq_none_iff (checkable : segment.Checkable fit) (start : UInt32) :
    segment.stitchStop? fit = none ↔
      ∀ row ∈ (segment.plan fit start).rows, row.Nonnegative := by
  rw [checkable.stitchStop?_eq start]
  cases ends : (segment.plan fit start).last? with
  | none =>
    -- A plan without a last row has no rows at all.
    have rowless : (segment.plan fit start).rows = [] := List.getLast?_eq_none_iff.mp ends
    simp [rowless]
  | some last =>
    rw [Option.bind_some]
    constructor
    · -- A last row that is not at fault speaks for all rows before it.
      intro none
      apply checkable.nonnegative_of_last ends
      by_contra below
      rw [if_neg below] at none
      cases none
    · intro holds
      rw [if_pos (holds last (List.mem_of_getLast? ends))]

/-- No row of the segment has a side below zero, wherever its rows start. -/
def StaysNonnegative (segment : Segment) (fit : Fit) : Prop :=
  ∀ start, ∀ row ∈ (segment.plan fit start).rows, row.Nonnegative

/-- The fault tells both sides of the last row of the segment, and one of them is below zero. -/
def EndsBelowZero (segment : Segment) (fit : Fit) (fault : ShapeFault) : Prop :=
  ∀ start, ∃ last, (segment.plan fit start).last? = some last ∧ ¬ last.Nonnegative ∧
    fault = .negativeStitches segment.text last.left last.right

/-- No row of a segment that the check passes has a side below zero. -/
theorem Checkable.staysNonnegative (checkable : segment.Checkable fit)
    (passed : segment.stitchStop? fit = none) : segment.StaysNonnegative fit :=
  fun start => (checkable.stitchStop?_eq_none_iff start).mp passed

/-- The check stops at a segment with held sums only for a fault, and that tells the last row. -/
theorem Checkable.endsBelowZero (checkable : segment.Checkable fit) {stop : CheckStop}
    (failed : segment.stitchStop? fit = some stop) :
    ∃ fault, stop = .fault fault ∧ segment.EndsBelowZero fit fault := by
  -- The check looks at the last row only, wherever the plan starts.
  have told (start : UInt32) : ∃ last, (segment.plan fit start).last? = some last ∧
      ¬ last.Nonnegative ∧
        stop = .fault (.negativeStitches segment.text last.left last.right) := by
    rw [checkable.stitchStop?_eq start, Option.bind_eq_some_iff] at failed
    obtain ⟨last, ends, told⟩ := failed
    split at told
    · cases told
    · rename_i below
      exact ⟨last, ends, below, (Option.some.inj told).symm⟩
  obtain ⟨last, _, _, rfl⟩ := told 0
  refine ⟨_, rfl, ?_⟩
  intro start
  obtain ⟨other, ends, below, same⟩ := told start
  exact ⟨other, ends, below, CheckStop.fault.inj same⟩

/-- A density or a multiplier that can be used is above zero. -/
theorem positive_of_isUsable {value : Float} (usable : isUsable value = true) : 0.0 < value := by
  rw [isUsable, Bool.and_eq_true, decide_eq_true_iff] at usable
  exact usable.2

/-- A segment whose dimensions are not at fault has a lower edge that is not below zero. -/
theorem lower_not_lt_zero (valid : segment.dimensionFault? = none) : ¬ segment.lower < 0.0 := by
  -- The lower edge is the second dimension that is tested, and it may not be negative.
  rw [dimensionFault?, Option.or_eq_none_iff, List.findSome?_eq_none_iff] at valid
  have holds := valid.1 ("baseA", segment.lower, false) (by simp [dimensions])
  simp only [dimensionHolds, Bool.false_or, ite_eq_left_iff, reduceCtorEq, imp_false,
    Decidable.not_not, Bool.and_eq_true, Bool.not_eq_true', decide_eq_false_iff_not] at holds
  exact holds.2

/-- Valid dimensions have no stitches below zero at a gauge and a size that can be used. -/
theorem lowerStitches_nonneg (valid : segment.dimensionFault? = none)
    (gauge : fit.gauge.usable = true) (size : isUsable fit.size = true) :
    0 ≤ segment.lowerStitches fit := by
  rw [Gauge.usable, Bool.and_eq_true] at gauge
  -- The lower edge is multiplied by the size and by the density, none of which is below zero.
  have scale := not_lt_zero_of_zero_lt (positive_of_isUsable size)
  have stitches := not_lt_zero_of_zero_lt (positive_of_isUsable gauge.1)
  have perInch : ¬ fit.gauge.stitchesPerInch < 0.0 := div_not_lt_zero stitches (by decide +kernel)
  have width : ¬ segment.lowerAt fit.size < 0.0 := mul_not_lt_zero (lower_not_lt_zero valid) scale
  rw [nonneg_iff_toInt]
  exact nearestWhole_nonneg (mul_not_lt_zero width perInch)

end Segment

namespace Shape

variable {fit : Fit} {shape : Shape}

section Passes

variable {ε : Type} (stop? : Segment → Option ε)

mutual

/-- A shape is stopped by the first of its segments that stops it, a parent before its successors. -/
theorem passes_eq : ∀ shape : Shape, shape.passes stop? =
    match shape.segments.findSome? stop? with
    | some stop => .error stop
    | none => .ok ()
  | .node segment successors => by
    rw [passes, segments, List.findSome?_cons, allPass_eq successors]
    cases stop? segment <;> rfl

/-- A list of shapes is stopped by the first of their segments that stops them. -/
theorem allPass_eq : ∀ shapes : List Shape, allPass stop? shapes =
    match (segmentsOf shapes).findSome? stop? with
    | some stop => .error stop
    | none => .ok ()
  | [] => by
    rw [allPass, segmentsOf]
    rfl
  | shape :: shapes => by
    rw [allPass, segmentsOf, List.findSome?_append, passes_eq shape, allPass_eq shapes]
    cases shape.segments.findSome? stop? <;> rfl

end

/-- A shape passes when none of its segments stops it. -/
theorem passes_eq_ok_iff :
    shape.passes stop? = .ok () ↔ ∀ segment ∈ shape.segments, stop? segment = none := by
  rw [← List.findSome?_eq_none_iff, passes_eq]
  cases shape.segments.findSome? stop? <;> simp

/-- The error of a shape that does not pass is from the first segment that stops it. -/
theorem passes_eq_error_iff (stop : ε) :
    shape.passes stop? = .error stop ↔ ∃ before segment after,
      shape.segments = before ++ segment :: after ∧ stop? segment = some stop ∧
        ∀ earlier ∈ before, stop? earlier = none := by
  rw [← List.findSome?_eq_some_iff, passes_eq]
  cases shape.segments.findSome? stop? <;> simp

end Passes

mutual

/-- Every plan of a timeline is that of one of its segments. -/
theorem mem_plans {plan : StitchPlan} : ∀ {start : UInt32} {shape : Shape},
    plan ∈ shape.plans fit start →
      ∃ segment ∈ shape.segments, ∃ begins, plan = segment.plan fit begins
  | start, .node segment successors, member => by
    rw [plans, List.mem_cons] at member
    -- The first plan is that of the root, and all others are those of successors.
    rcases member with rfl | later
    · exact ⟨segment, by rw [segments]; exact List.mem_cons_self, start, rfl⟩
    · obtain ⟨found, among, begins, same⟩ := mem_successorPlans later
      exact ⟨found, by rw [segments]; exact List.mem_cons_of_mem _ among, begins, same⟩

/-- Every plan of the successors on a timeline is that of one of their segments. -/
theorem mem_successorPlans {plan : StitchPlan} : ∀ {start : UInt32} {shapes : List Shape},
    plan ∈ successorPlans fit start shapes →
      ∃ segment ∈ segmentsOf shapes, ∃ begins, plan = segment.plan fit begins
  | _, [], member => by
    rw [successorPlans] at member
    cases member
  | start, shape :: shapes, member => by
    rw [successorPlans, List.mem_append] at member
    rcases member with here | later
    · -- A successor without rows has no plan, and nothing behind it has one.
      split at here
      · obtain ⟨found, among, begins, same⟩ := mem_plans here
        exact ⟨found, by rw [segmentsOf]; exact List.mem_append_left _ among, begins, same⟩
      · cases here
    · obtain ⟨found, among, begins, same⟩ := mem_successorPlans later
      exact ⟨found, by rw [segmentsOf]; exact List.mem_append_right _ among, begins, same⟩

end

/-- Every segment of the shape can be checked by the ends of its edges. -/
def Checkable (shape : Shape) (fit : Fit) : Prop :=
  ∀ segment ∈ shape.segments, segment.Checkable fit

/--
The fault tells the last row of the first segment with a row below zero.

A parent comes before its successors, and a successor before those that follow it.
-/
def FirstBelowZero (shape : Shape) (fit : Fit) (fault : ShapeFault) : Prop :=
  ∃ before segment after, shape.segments = before ++ segment :: after ∧
    (∀ earlier ∈ before, earlier.StaysNonnegative fit) ∧ segment.EndsBelowZero fit fault

/-- Valid dimensions leave only the sums to be held, at a gauge and a size that can be used. -/
theorem checkable_of_valid (valid : shape.checkDimensions = .ok ())
    (gauge : fit.gauge.usable = true) (size : isUsable fit.size = true)
    (held : ∀ segment ∈ shape.segments, segment.SumsHeld fit) : shape.Checkable fit := by
  rw [checkDimensions, passes_eq_ok_iff] at valid
  intro segment member
  refine ⟨held segment member, fun _ => ?_⟩
  exact Segment.lowerStitches_nonneg (valid segment member) gauge size

/-- The stitch check passes exactly the shapes without a row below zero, wherever rows start. -/
theorem checkStitches_eq_ok_iff (checkable : shape.Checkable fit) :
    shape.checkStitches fit = .ok () ↔
      ∀ segment ∈ shape.segments, segment.StaysNonnegative fit := by
  rw [checkStitches, passes_eq_ok_iff]
  constructor
  · intro passed segment member
    exact (checkable segment member).staysNonnegative (passed segment member)
  · -- One start speaks for all of them.
    intro holds segment member
    exact ((checkable segment member).stitchStop?_eq_none_iff 0).mpr (holds segment member 0)

/-- Where the row numbers can last, only starts from which they do last need to be looked at. -/
theorem checkStitches_eq_ok_iff_numbered (checkable : shape.Checkable fit)
    (countable : ∀ segment ∈ shape.segments, segment.knittedRows fit ≤ 2 ^ 32) :
    shape.checkStitches fit = .ok () ↔
      ∀ segment ∈ shape.segments, ∀ start : UInt32,
        start.toNat + segment.knittedRows fit ≤ 2 ^ 32 →
          ∀ row ∈ (segment.plan fit start).rows, row.Nonnegative := by
  constructor
  · intro passed segment member start _
    exact (checkStitches_eq_ok_iff checkable).mp passed segment member start
  · -- Numbers that start at zero last as long as any.
    intro holds
    rw [checkStitches, passes_eq_ok_iff]
    intro segment member
    have lasts : (0 : UInt32).toNat + segment.knittedRows fit ≤ 2 ^ 32 := by
      have room := countable segment member
      rw [UInt32.toNat_zero]
      omega
    exact ((checkable segment member).stitchStop?_eq_none_iff 0).mpr
      (holds segment member 0 lasts)

/--
The stitch check fails with the last row of the first segment that falls below zero, and with
nothing else.
-/
theorem firstBelowZero (checkable : shape.Checkable fit) {stop : CheckStop}
    (failed : shape.checkStitches fit = .error stop) :
    ∃ fault, stop = .fault fault ∧ shape.FirstBelowZero fit fault := by
  rw [checkStitches, passes_eq_error_iff] at failed
  -- What comes before the first fault has none, and so stays at zero or above.
  obtain ⟨before, segment, after, listed, fails, passes⟩ := failed
  have member : segment ∈ shape.segments := by
    rw [listed]
    exact List.mem_append_right _ List.mem_cons_self
  obtain ⟨fault, rfl, ends⟩ := (checkable segment member).endsBelowZero fails
  refine ⟨fault, rfl, before, segment, after, listed, ?_, ends⟩
  intro earlier among
  have listedEarlier : earlier ∈ shape.segments := by
    rw [listed]
    exact List.mem_append_left _ among
  exact (checkable earlier listedEarlier).staysNonnegative (passes earlier among)

/-- After the stitch check has passed, no row of a timeline has a side below zero. -/
theorem plans_nonnegative (checkable : shape.Checkable fit)
    (passed : shape.checkStitches fit = .ok ()) (start : UInt32) :
    ∀ plan ∈ shape.plans fit start, ∀ row ∈ plan.rows, row.Nonnegative := by
  -- A plan may start anywhere, and the check says the same of every start.
  intro plan member
  obtain ⟨segment, among, begins, rfl⟩ := mem_plans member
  exact (checkStitches_eq_ok_iff checkable).mp passed segment among begins

end Shape

end FlatKnit
