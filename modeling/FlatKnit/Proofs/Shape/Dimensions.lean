import FlatKnit.Proofs.Decimal.Order
import FlatKnit.Proofs.Shape.Record
import FlatKnit.Proofs.Shape.StitchCheck

/-! Dimension checks: they pass the well-measured shapes, and tell the first fault of the others. -/

namespace FlatKnit

/-- A length is finite and not below zero. -/
def IsLength (value : Float) : Prop :=
  value.isFinite = true ∧ 0.0 ≤ value

instance (value : Float) : Decidable (IsLength value) :=
  inferInstanceAs (Decidable (_ ∧ _))

/-- A dimension that may not be negative has to be a length. -/
theorem dimensionHolds_iff_isLength (value : Float) :
    Segment.dimensionHolds value false = true ↔ IsLength value := by
  rw [Segment.dimensionHolds, Bool.false_or, Bool.and_eq_true, Bool.not_eq_true',
    decide_eq_false_iff_not, IsLength]
  -- A finite value is a number, and so it is at least zero or below it.
  exact and_congr_right fun finite =>
    (le_iff_not_lt (by decide) (isNaN_of_isFinite finite)).symm

namespace Segment

variable {segment : Segment}

/-- A finite upper edge reaches the centreline when the size of the shift is half of it at most. -/
theorem straddlesCentre_iff (shift : segment.shift.isFinite = true)
    (upper : segment.upper.isFinite = true) :
    segment.straddlesCentre = true ↔ segment.shift.abs ≤ segment.upper / 2.0 := by
  rw [straddlesCentre, Bool.not_eq_true', decide_eq_false_iff_not, gt_iff_lt]
  -- Neither the size of the shift nor half of the edge is without a place in the order.
  exact (le_iff_not_lt (isNaN_abs (isNaN_of_isFinite shift))
    (isNaN_half (isNaN_of_isFinite upper))).symm

/--
All four dimensions are finite, height and widths are not negative, and the middle of the upper
edge is shifted by half of its width at most.
-/
structure WellMeasured (segment : Segment) : Prop extends segment.FiniteDimensions where
  heightHolds : 0.0 ≤ segment.height
  lowerHolds : 0.0 ≤ segment.lower
  upperHolds : 0.0 ≤ segment.upper
  straddles : segment.shift.abs ≤ segment.upper / 2.0

/-- The first dimension in the order of the tests that fails its test, by name and value. -/
inductive FirstFault (segment : Segment) : String → Float → Prop where
  | height (fails : ¬ IsLength segment.height) : FirstFault segment "height" segment.height
  | lower (height : IsLength segment.height) (fails : ¬ IsLength segment.lower) :
      FirstFault segment "baseA" segment.lower
  | upper (height : IsLength segment.height) (lower : IsLength segment.lower)
      (fails : ¬ IsLength segment.upper) : FirstFault segment "baseB" segment.upper
  | shift (height : IsLength segment.height) (lower : IsLength segment.lower)
      (upper : IsLength segment.upper) (fails : segment.shift.isFinite = false) :
      FirstFault segment "baseBHorizontalOffset" segment.shift
  | overhang (height : IsLength segment.height) (lower : IsLength segment.lower)
      (upper : IsLength segment.upper) (finite : segment.shift.isFinite = true)
      (fails : ¬ segment.shift.abs ≤ segment.upper / 2.0) :
      FirstFault segment "baseBHorizontalOffset" segment.shift

/-- A dimension that may be negative has to be finite. -/
theorem dimensionHolds_free (value : Float) : dimensionHolds value true = value.isFinite := by
  rw [dimensionHolds, Bool.true_or, Bool.and_true]

/-- A well-measured segment has no fault. -/
theorem WellMeasured.dimensionFault?_eq_none (measured : segment.WellMeasured) :
    segment.dimensionFault? = none := by
  have height := (dimensionHolds_iff_isLength _).mpr ⟨measured.height, measured.heightHolds⟩
  have lower := (dimensionHolds_iff_isLength _).mpr ⟨measured.lower, measured.lowerHolds⟩
  have upper := (dimensionHolds_iff_isLength _).mpr ⟨measured.upper, measured.upperHolds⟩
  have straddles := (straddlesCentre_iff measured.shift measured.upper).mpr measured.straddles
  -- All four dimensions pass alone, and the shift passes against the upper edge.
  simp [dimensionFault?, dimensions, dimensionHolds_free, height, lower, upper, measured.shift,
    straddles]

/-- The fault of a segment is that of the first test that fails. -/
theorem FirstFault.dimensionFault?_eq_some {field : String} {value : Float}
    (first : segment.FirstFault field value) :
    segment.dimensionFault? = some (.dimension field value) := by
  -- The tests before the one that fails are passed over.
  cases first with
  | height fails => simp [dimensionFault?, dimensions, dimensionHolds_iff_isLength, fails]
  | lower height fails =>
    simp [dimensionFault?, dimensions, dimensionHolds_iff_isLength, height, fails]
  | upper height lower fails =>
    simp [dimensionFault?, dimensions, dimensionHolds_iff_isLength, height, lower, fails]
  | shift height lower upper fails =>
    simp [dimensionFault?, dimensions, dimensionHolds_iff_isLength, dimensionHolds_free, height,
      lower, upper, fails]
  | overhang height lower upper finite fails =>
    -- The shift is finite, and so is the edge, so that the last test is one of the order.
    have past : segment.straddlesCentre = false := by
      rw [← Bool.not_eq_true, straddlesCentre_iff finite upper.1]
      exact fails
    simp [dimensionFault?, dimensions, dimensionHolds_iff_isLength, dimensionHolds_free, height,
      lower, upper, finite, past]

/-- A segment is well measured unless one of the tests is the first to fail. -/
theorem wellMeasured_or_firstFault (segment : Segment) :
    segment.WellMeasured ∨ ∃ field value, segment.FirstFault field value := by
  -- Each test is reached only when those before it have passed.
  by_cases height : IsLength segment.height
  · by_cases lower : IsLength segment.lower
    · by_cases upper : IsLength segment.upper
      · cases finite : segment.shift.isFinite with
        | false => exact Or.inr ⟨_, _, .shift height lower upper finite⟩
        | true =>
          by_cases straddles : segment.shift.abs ≤ segment.upper / 2.0
          · have allFinite : segment.FiniteDimensions := ⟨height.1, lower.1, upper.1, finite⟩
            exact Or.inl ⟨allFinite, height.2, lower.2, upper.2, straddles⟩
          · exact Or.inr ⟨_, _, .overhang height lower upper finite straddles⟩
      · exact Or.inr ⟨_, _, .upper height lower upper⟩
    · exact Or.inr ⟨_, _, .lower height lower⟩
  · exact Or.inr ⟨_, _, .height height⟩

/-- A segment has no fault exactly when it is well measured. -/
theorem dimensionFault?_eq_none_iff : segment.dimensionFault? = none ↔ segment.WellMeasured := by
  refine ⟨fun passed => ?_, WellMeasured.dimensionFault?_eq_none⟩
  rcases segment.wellMeasured_or_firstFault with measured | ⟨field, value, first⟩
  · exact measured
  · -- A first fault would have been told.
    rw [first.dimensionFault?_eq_some] at passed
    cases passed

/-- The fault of a segment names the dimension of the first test that fails, with its value. -/
theorem dimensionFault?_eq_some_iff {fault : ShapeFault} :
    segment.dimensionFault? = some fault
      ↔ ∃ field value, segment.FirstFault field value ∧ fault = .dimension field value := by
  constructor
  · intro failed
    -- A segment is well measured or has a first fault, and only the latter fails.
    rcases segment.wellMeasured_or_firstFault with measured | ⟨field, value, first⟩
    · rw [measured.dimensionFault?_eq_none] at failed
      cases failed
    · rw [first.dimensionFault?_eq_some] at failed
      exact ⟨field, value, first, (Option.some.inj failed).symm⟩
  · rintro ⟨field, value, first, rfl⟩
    exact first.dimensionFault?_eq_some

end Segment

namespace Shape

/-- The segments of a shape are those at the ends of its ways. -/
theorem mem_segments {segment : Segment} (shape : Shape) :
    segment ∈ shape.segments ↔ ∃ way found, shape.nodeAt? way = some found ∧
      found.segment = segment := by
  induction shape using induction with
  | node root successors ih =>
    rw [segments_node, List.mem_cons, List.mem_flatMap]
    constructor
    · rintro (rfl | ⟨child, among, within⟩)
      · exact ⟨[], _, rfl, rfl⟩
      · -- A way in a successor is a way that starts with the place of the successor.
        obtain ⟨index, taken⟩ := List.mem_iff_getElem?.mp among
        obtain ⟨way, found, reached, same⟩ := (ih child among).mp within
        exact ⟨index :: way, found, (nodeAt?_cons taken way).trans reached, same⟩
    · rintro ⟨_ | ⟨index, way⟩, found, reached, same⟩
      · obtain rfl := Option.some.inj reached
        exact Or.inl same.symm
      · obtain ⟨child, taken, within⟩ := Option.bind_eq_some_iff.mp reached
        have among := List.mem_of_getElem? taken
        exact Or.inr ⟨child, among, (ih child among).mpr ⟨way, found, within, same⟩⟩

variable {shape : Shape} {fault? : Segment → Option ShapeFault} {fault : ShapeFault}

/-- A shape passes when no node has a fault, whichever way leads there. -/
theorem passes_eq_ok_iff_ways :
    shape.passes fault? = .ok ()
      ↔ ∀ way found, shape.nodeAt? way = some found → fault? found.segment = none := by
  rw [passes_eq_ok_iff]
  -- Every node is at the end of some way, so going through all nodes is going along all ways.
  constructor
  · intro passed way found reached
    exact passed _ ((mem_segments shape).mpr ⟨way, found, reached, rfl⟩)
  · intro passed segment member
    obtain ⟨way, found, reached, rfl⟩ := (mem_segments shape).mp member
    exact passed way found reached

/--
The way leads to a node with the fault, and no way before it leads to a node with any.

Ways are in the order of their steps, so that a node comes before its successors and a successor
before those that follow it.
-/
structure FirstFaultAt (fault? : Segment → Option ShapeFault) (fault : ShapeFault) (shape : Shape)
    (way : List Nat) (found : Shape) : Prop where
  reached : shape.nodeAt? way = some found
  fails : fault? found.segment = some fault
  before : ∀ earlier < way, ∀ node, shape.nodeAt? earlier = some node →
    fault? node.segment = none

/-- A first fault of a successor is one of the node when nothing that stands before it has any. -/
theorem FirstFaultAt.cons {segment : Segment} {before after : List Shape} {child found : Shape}
    {way : List Nat} (first : FirstFaultAt fault? fault child way found)
    (root : fault? segment = none) (passed : ∀ sibling ∈ before, sibling.passes fault? = .ok ()) :
    FirstFaultAt fault? fault (.node segment (before ++ child :: after)) (before.length :: way)
      found := by
  have taken : (before ++ child :: after)[before.length]? = some child := by simp
  refine ⟨(nodeAt?_cons taken way).trans first.reached, first.fails, ?_⟩
  rintro (_ | ⟨index, rest⟩) precedes node reached
  · -- The way that comes before all others leads to the root.
    obtain rfl := Option.some.inj reached
    exact root
  · -- Any other leads into a successor that passes, or goes an earlier way in the same one.
    obtain ⟨sibling, among, within⟩ := Option.bind_eq_some_iff.mp reached
    rcases List.cons_lt_cons_iff.mp precedes with below | ⟨rfl, earlier⟩
    · have member : sibling ∈ before := by
        rw [successors, List.getElem?_append_left below] at among
        exact List.mem_of_getElem? among
      exact passes_eq_ok_iff_ways.mp (passed sibling member) rest node within
    · obtain rfl := Option.some.inj (taken.symm.trans among)
      exact first.before rest earlier node within

/-- A list of shapes fails with the error of the first of them that fails. -/
theorem allPass_eq_error_iff {shapes : List Shape} :
    allPass fault? shapes = .error fault ↔ ∃ before child after,
      shapes = before ++ child :: after ∧ child.passes fault? = .error fault ∧
        ∀ sibling ∈ before, sibling.passes fault? = .ok () := by
  induction shapes with
  | nil => simp [allPass]
  | cons shape shapes ih =>
    rw [allPass]
    cases outcome : shape.passes fault? with
    | error told =>
      constructor
      · intro same
        exact ⟨[], shape, shapes, rfl, outcome.trans same, by simp⟩
      · -- A shape that fails is not among those that pass before the first one that does not.
        rintro ⟨_ | ⟨first, before⟩, child, after, split, fails, passed⟩
        · obtain ⟨rfl, _⟩ := List.cons.inj split
          exact outcome.symm.trans fails
        · obtain ⟨rfl, _⟩ := List.cons.inj split
          exact absurd (outcome.symm.trans (passed shape List.mem_cons_self)) (by simp)
    | ok =>
      refine ih.trans ⟨?_, ?_⟩
      · rintro ⟨before, child, after, rfl, fails, passed⟩
        exact ⟨shape :: before, child, after, rfl, fails,
          List.forall_mem_cons.mpr ⟨outcome, passed⟩⟩
      · rintro ⟨_ | ⟨first, before⟩, child, after, split, fails, passed⟩
        · obtain ⟨rfl, _⟩ := List.cons.inj split
          exact absurd (outcome.symm.trans fails) (by simp)
        · obtain ⟨rfl, rfl⟩ := List.cons.inj split
          exact ⟨before, child, after, rfl, fails, (List.forall_mem_cons.mp passed).2⟩

/-- A node fails with the fault of its root, or with that of the first successor that fails. -/
theorem passes_node_eq_error_iff {segment : Segment} {successors : List Shape} :
    (node segment successors).passes fault? = .error fault ↔
      fault? segment = some fault ∨ fault? segment = none ∧ ∃ before child after,
        successors = before ++ child :: after ∧ child.passes fault? = .error fault ∧
          ∀ sibling ∈ before, sibling.passes fault? = .ok () := by
  rw [passes, ← allPass_eq_error_iff]
  cases fault? segment <;> simp

/-- A shape that does not pass has a way to its first fault. -/
theorem exists_firstFaultAt (shape : Shape) (failed : shape.passes fault? = .error fault) :
    ∃ way found, FirstFaultAt fault? fault shape way found := by
  induction shape using induction with
  | node segment successors ih =>
    rcases passes_node_eq_error_iff.mp failed with root | ⟨root, before, child, after, split⟩
    · -- Nothing comes before the way to the root.
      exact ⟨[], _, rfl, root, fun earlier precedes => absurd precedes (List.not_lt_nil earlier)⟩
    · -- What comes before the successor passes, and so the first fault in it is the first of all.
      obtain ⟨rfl, fails, passed⟩ := split
      obtain ⟨way, found, first⟩ := ih child (by simp) fails
      exact ⟨before.length :: way, found, first.cons root passed⟩

/-- The error of a shape that does not pass is the first fault on its ways. -/
theorem passes_eq_error_iff_ways :
    shape.passes fault? = .error fault
      ↔ ∃ way found, FirstFaultAt fault? fault shape way found := by
  refine ⟨exists_firstFaultAt shape, ?_⟩
  rintro ⟨way, found, first⟩
  cases passed : shape.passes fault? with
  | ok =>
    -- What passes has no fault at the end of any way.
    have none := passes_eq_ok_iff_ways.mp passed way found first.reached
    rw [first.fails] at none
    cases none
  | error told =>
    obtain ⟨other, node, toldFirst⟩ := exists_firstFaultAt shape passed
    -- Of two ways one comes before the other, and its node has no fault, unless they are the same.
    rcases lt_trichotomy way other with before | rfl | after
    · have none := toldFirst.before way before found first.reached
      rw [first.fails] at none
      cases none
    · obtain rfl := Option.some.inj (first.reached.symm.trans toldFirst.reached)
      rw [Option.some.inj (first.fails.symm.trans toldFirst.fails)]
    · have none := first.before other after node toldFirst.reached
      rw [toldFirst.fails] at none
      cases none

/--
The dimension check passes exactly when the segment at the end of every way is well measured, and
otherwise tells the first test that fails in the first segment that is not.
-/
theorem checkDimensions_exact (shape : Shape) :
    (shape.checkDimensions = .ok () ↔
      ∀ way found, shape.nodeAt? way = some found → found.segment.WellMeasured) ∧
    ∀ fault, shape.checkDimensions = .error fault ↔
      ∃ way found field value, shape.nodeAt? way = some found ∧
        (∀ earlier < way, ∀ node, shape.nodeAt? earlier = some node →
          node.segment.WellMeasured) ∧
        found.segment.FirstFault field value ∧ fault = .dimension field value := by
  constructor
  · simp only [checkDimensions, passes_eq_ok_iff_ways, Segment.dimensionFault?_eq_none_iff]
  · intro fault
    rw [checkDimensions, passes_eq_error_iff_ways]
    -- The first node that fails is the first that is not well measured, for these are the same
    -- tests.
    constructor
    · rintro ⟨way, found, reached, fails, before⟩
      obtain ⟨field, value, first, same⟩ := Segment.dimensionFault?_eq_some_iff.mp fails
      refine ⟨way, found, field, value, reached, ?_, first, same⟩
      intro earlier precedes node among
      exact Segment.dimensionFault?_eq_none_iff.mp (before earlier precedes node among)
    · rintro ⟨way, found, field, value, reached, before, first, same⟩
      have fails := Segment.dimensionFault?_eq_some_iff.mpr ⟨field, value, first, same⟩
      refine ⟨way, found, reached, fails, ?_⟩
      intro earlier precedes node among
      exact Segment.dimensionFault?_eq_none_iff.mpr (before earlier precedes node among)

/-- A shape with a shift past the edge behind a stretch too low for a row, and a later fault. -/
def mismeasured : Shape :=
  .node Segment.leaning [
    .node (Segment.plain 0.0 2.0 2.0) [
      .node { Segment.plain 1.0 5.0 5.0 with shift := 2.75 } []],
    .node (Segment.plain (-1.0) 5.0 5.0) []]

/-- The shift is told, because it comes before the height below zero. -/
theorem mismeasured_fault :
    mismeasured.checkDimensions = .error (.dimension "baseBHorizontalOffset" 2.75) := by
  have overhang : Segment.FirstFault { Segment.plain 1.0 5.0 5.0 with shift := 2.75 }
      "baseBHorizontalOffset" 2.75 :=
    .overhang (by decide +kernel) (by decide +kernel) (by decide +kernel) (by decide +kernel)
      (by decide +kernel)
  refine ((checkDimensions_exact mismeasured).2 _).mpr
    ⟨[0, 0], _, _, _, rfl, ?_, overhang, rfl⟩
  -- Only the root and the low stretch come before, and neither is at fault.
  intro earlier precedes node reached
  have before : earlier = [] ∨ earlier = [0] := by
    rcases earlier with _ | ⟨_ | _, _ | _⟩ <;> simp_all [List.cons_lt_cons_iff]
  rcases before with rfl | rfl
  · obtain rfl := Option.some.inj reached
    exact Segment.dimensionFault?_eq_none_iff.mp (by decide +kernel)
  · obtain rfl := Option.some.inj reached
    exact Segment.dimensionFault?_eq_none_iff.mp (by decide +kernel)

end Shape

end FlatKnit
