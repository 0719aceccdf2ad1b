import FlatKnit.Proofs.Shape.CastOn
import FlatKnit.Proofs.Shape.Dimensions
import FlatKnit.Proofs.Shape.Room
import FlatKnit.Proofs.Shape.Spread

/-! Counts of a timeline: where words have room, those that are told are exact and not negative. -/

namespace FlatKnit

/-- The stitches that a line counts: cast on, in work, in a section, or bound off. -/
def Instruction.stitches? : Instruction → Option Int64
  | castOn stitches => some stitches
  | startSection _ stitches => some stitches
  | bindOffSection _ stitches => some stitches
  | bindOff stitches => some stitches
  | line => line.inWork?

namespace StitchPlan

variable {line : Instruction} {stitches : Int64}

/-- The stitches of a line of the loop are the total of one of its rows. -/
theorem stitches_linesAfter {rest : List Row} :
    ∀ {previous : Row} {run : UInt32}, line ∈ linesAfter previous run rest →
      line.stitches? = some stitches → ∃ row ∈ previous :: rest, row.total = stitches := by
  -- A line is given by the row that closes it, or at the end by the row that was last.
  induction rest with
  | nil =>
    intro previous run member counts
    rw [linesAfter] at member
    split at member
    · rw [List.mem_singleton.mp member] at counts
      exact ⟨previous, List.mem_cons_self, Option.some.inj counts⟩
    · cases member
  | cons row rest ih =>
    intro previous run member counts
    rw [linesAfter] at member
    split at member
    · obtain ⟨found, among, total⟩ := ih member counts
      exact ⟨found, List.mem_cons_of_mem _ among, total⟩
    · rcases List.mem_cons.mp member with rfl | member
      · exact ⟨row, List.mem_cons_of_mem _ List.mem_cons_self, Option.some.inj counts⟩
      · obtain ⟨found, among, total⟩ := ih member counts
        exact ⟨found, List.mem_cons_of_mem _ among, total⟩

/-- The stitches of a line of a plan are the total of one of its rows. -/
theorem stitches_compile {plan : StitchPlan} (member : line ∈ plan.compile)
    (counts : line.stitches? = some stitches) : ∃ row ∈ plan.rows, row.total = stitches := by
  unfold compile at member
  split at member
  · cases member
  · rename_i first rest rows
    rw [rows]
    dsimp only at member
    split at member
    · -- The last row is the first one when there is no other.
      rw [List.mem_singleton.mp member] at counts
      exact ⟨rest.getLastD first, List.getLastD_mem_cons, Option.some.inj counts⟩
    · exact stitches_linesAfter member counts

end StitchPlan

namespace Shape

/-- The segment of the root is among the segments of its shape. -/
theorem segment_mem_segments (shape : Shape) : shape.segment ∈ shape.segments := by
  obtain ⟨segment, successors⟩ := shape
  rw [segments]
  exact List.mem_cons_self

/-- The stitches are the total of a row of the plans, or the lower edge of one of the segments. -/
def Counted (fit : Fit) (plans : List StitchPlan) (segments : List Segment)
    (stitches : Int64) : Prop :=
  (∃ plan ∈ plans, ∃ row ∈ plan.rows, row.total = stitches) ∨
    ∃ segment ∈ segments, segment.lowerStitches fit = stitches

section Sources

variable {fit : Fit} {line : Instruction} {stitches : Int64}

/-- What is counted in a part is counted in the whole. -/
theorem Counted.mono {plans allPlans : List StitchPlan} {segments allSegments : List Segment}
    (counted : Counted fit plans segments stitches) (withPlans : plans ⊆ allPlans)
    (withSegments : segments ⊆ allSegments) : Counted fit allPlans allSegments stitches := by
  rcases counted with ⟨plan, among, row⟩ | ⟨segment, among, lower⟩
  · exact .inl ⟨plan, withPlans among, row⟩
  · exact .inr ⟨segment, withSegments among, lower⟩

/-- The own lines of a root count the rows of its plan. -/
theorem counted_ownLines {segment : Segment} {start : UInt32} {plans : List StitchPlan}
    {segments : List Segment}
    (member : line ∈ segment.ownLines (segment.plan fit start))
    (counts : line.stitches? = some stitches) :
    Counted fit (segment.plan fit start :: plans) (segment :: segments) stitches := by
  rw [Segment.ownLines, List.mem_append] at member
  rcases member with own | note
  · obtain ⟨row, among, total⟩ := StitchPlan.stitches_compile own counts
    exact .inl ⟨_, List.mem_cons_self, row, among, total⟩
  · -- A note counts no stitches.
    obtain ⟨text, _, rfl⟩ := List.mem_map.mp note
    cases counts

/-- A piece is bound off with the stitches of its last row, or else of its lower edge. -/
theorem counted_finalStitches (segment : Segment) (fit : Fit) (plan : StitchPlan)
    (plans : List StitchPlan) (segments : List Segment) :
    Counted fit (plan :: plans) (segment :: segments) (segment.finalStitches fit plan) := by
  -- A piece ends with the last row of its plan; without rows, its lower edge is what is bound off.
  unfold Segment.finalStitches
  split
  · rename_i row ends
    exact .inl ⟨plan, List.mem_cons_self, row, List.mem_of_getLast? ends, rfl⟩
  · exact .inr ⟨segment, List.mem_cons_self, rfl⟩

mutual

/-- Every count of a shape is that of a row of its plans, or of a lower edge. -/
theorem counted_lines :
    ∀ {start : UInt32} {shape : Shape}, line ∈ shape.lines fit start →
      line.stitches? = some stitches →
      Counted fit (shape.plans fit start) shape.segments stitches
  | start, .node segment [], member, counts => by
    rw [lines, List.mem_append] at member
    rw [plans, segments]
    rcases member with own | ending
    · exact counted_ownLines own counts
    · rw [List.mem_singleton.mp ending] at counts
      obtain rfl := Option.some.inj counts
      -- A leaf ends with the stitches that its own plan leaves.
      exact counted_finalStitches segment fit _ _ _
  | start, .node segment [only], member, counts => by
    rw [lines, List.mem_append] at member
    rw [plans, segments]
    rcases member with own | continued
    · exact counted_ownLines own counts
    · split at continued
      · -- A single successor that is knitted adds its plans and its segments.
        rename_i knitted
        refine (counted_lines continued counts).mono ?_ ?_
        · rw [successorPlans, if_pos knitted]
          exact List.subset_cons_of_subset _ (List.subset_append_left _ _)
        · rw [segmentsOf]
          exact List.subset_cons_of_subset _ (List.subset_append_left _ _)
      · -- One that is not knitted has one line, with the stitches that its segment starts on.
        rw [List.mem_singleton.mp continued] at counts
        obtain rfl := Option.some.inj counts
        refine .inr ⟨only.segment, List.mem_cons_of_mem _ ?_, rfl⟩
        rw [segmentsOf]
        exact List.mem_append_left _ only.segment_mem_segments
  | start, .node segment (first :: second :: rest), member, counts => by
    rw [lines, List.mem_append, List.mem_cons] at member
    rw [plans, segments]
    rcases member with own | rfl | sections
    · exact counted_ownLines own counts
    · -- A division carries no count of stitches.
      cases counts
    · exact (counted_sectionLines sections counts).mono (List.subset_cons_self _ _)
        (List.subset_cons_self _ _)

/-- Every count of sections is that of a row of their plans, or of a lower edge. -/
theorem counted_sectionLines :
    ∀ {start : UInt32} {index : Nat} {shapes : List Shape},
      line ∈ sectionLines fit start index shapes → line.stitches? = some stitches →
      Counted fit (successorPlans fit start shapes) (segmentsOf shapes) stitches
  | _, _, [], member, _ => by simp [sectionLines] at member
  | start, index, shape :: shapes, member, counts => by
    have root : shape.segment ∈ shape.segments ++ segmentsOf shapes :=
      List.mem_append_left _ shape.segment_mem_segments
    rw [sectionLines, List.mem_append] at member
    rw [successorPlans, segmentsOf]
    rcases member with head | later
    · split at head
      · rename_i knitted
        rcases List.mem_cons.mp head with rfl | within
        · -- A section is announced with the stitches of its lower edge.
          obtain rfl := Option.some.inj counts
          exact .inr ⟨_, root, rfl⟩
        · rw [if_pos knitted]
          exact (counted_lines within counts).mono (List.subset_append_left _ _)
            (List.subset_append_left _ _)
      · rw [List.mem_singleton.mp head] at counts
        obtain rfl := Option.some.inj counts
        exact .inr ⟨_, root, rfl⟩
    · exact (counted_sectionLines later counts).mono (List.subset_append_right _ _)
        (List.subset_append_right _ _)

end

/-- Every count of a timeline is that of a row of its plans, or of a lower edge. -/
theorem counted_instructions {start : UInt32} {isRoot : Bool} {shape : Shape}
    (member : line ∈ shape.instructions fit start isRoot)
    (counts : line.stitches? = some stitches) :
    Counted fit (shape.plans fit start) shape.segments stitches := by
  rw [instructions, List.mem_append] at member
  rcases member with first | within
  · split at first
    · unfold castOn at first
      split at first
      · -- What is cast on is knitted on the first row of the root.
        rename_i row begins
        rw [List.mem_singleton.mp first] at counts
        exact .inl ⟨_, shape.plan_mem_plans fit start, row, List.mem_of_head? begins,
          Option.some.inj counts⟩
      · cases first
    · cases first
  · exact counted_lines within counts

end Sources

/-- Every plan of a timeline is that of a visited node. -/
theorem exists_visited_of_mem_plans {fit : Fit} {start : UInt32} {shape : Shape} {plan : StitchPlan}
    (member : plan ∈ shape.plans fit start) :
    ∃ way found begins, Visited fit shape way ∧ shape.nodeAt? way = some found ∧
      plan = found.segment.plan fit begins := by
  -- The plans are listed by the ways to their nodes.
  rw [plans_eq_map, List.mem_map] at member
  obtain ⟨way, listed, rfl⟩ := member
  have visited := mem_visitedWays.mp listed
  obtain ⟨found, reached⟩ := visited.nodeAt?_eq_some
  exact ⟨way, found, shape.startAt fit start way, visited, reached, by rw [planAt, reached]⟩

/-- All that is added up for the plans of a timeline stays within its word. -/
def WithinWords (shape : Shape) (fit : Fit) : Prop :=
  ∀ way found, Visited fit shape way → shape.nodeAt? way = some found →
    found.segment.WithinWords fit

/-- Words have room for every node of a timeline that has rows. -/
def HasRoom (shape : Shape) (fit : Fit) : Prop :=
  ∀ way found, Visited fit shape way → shape.nodeAt? way = some found →
    0 < found.segment.knittedRows fit → found.segment.HasRoom fit

/--
A count in exact numbers: that of a lower edge, to which every row adds the even shares of both
changes of its segment.
-/
inductive ExactCount (fit : Fit) (shape : Shape) : Int → Prop where
  | row {way : List Nat} {found : Shape} {index : Nat} (visited : Visited fit shape way)
      (reached : shape.nodeAt? way = some found) (within : index < found.segment.knittedRows fit) :
      ExactCount fit shape ((found.segment.lowerStitches fit).toInt
        + evenShare (found.segment.leftChange fit).toInt (found.segment.rowCount fit).toInt
          (index + 1)
        + evenShare (found.segment.rightChange fit).toInt (found.segment.rowCount fit).toInt
          (index + 1))
  | lower {segment : Segment} (among : segment ∈ shape.segments) :
      ExactCount fit shape (segment.lowerStitches fit).toInt

section Room

variable {fit : Fit} {shape : Shape}

/-- Every node of a shape that has passed both checks has passed them on its own. -/
theorem accepted_of_passed (dimensions : shape.checkDimensions = .ok ())
    (stitches : shape.checkStitches fit = .ok ()) (gauge : fit.gauge.usable = true)
    (size : isUsable fit.size = true) : ∀ segment ∈ shape.segments, segment.Accepted fit := by
  -- Both checks go through all nodes, so that each of them has passed on its own.
  rw [checkDimensions, passes_eq_ok_iff] at dimensions
  rw [checkStitches, passes_eq_ok_iff] at stitches
  intro segment among
  exact ⟨dimensions segment among, stitches segment among, gauge, size⟩

/-- Accepted segments stay within words on a timeline exactly when words have room for them. -/
theorem withinWords_iff_hasRoom (accepted : ∀ segment ∈ shape.segments, segment.Accepted fit) :
    shape.WithinWords fit ↔ shape.HasRoom fit := by
  constructor
  · intro within way found visited reached some
    have passed := accepted _ ((mem_segments shape).mpr ⟨way, found, reached, rfl⟩)
    exact (passed.withinWords_iff some).mp (within way found visited reached)
  · intro room way found visited reached
    by_cases some : 0 < found.segment.knittedRows fit
    · have passed := accepted _ ((mem_segments shape).mpr ⟨way, found, reached, rfl⟩)
      exact (passed.withinWords_iff some).mpr (room way found visited reached some)
    · -- Without rows nothing is added up.
      exact Segment.withinWords_of_rowless (by omega)

/-- Where all sums stay within words, a count of a timeline is exact. -/
theorem WithinWords.exactCount (within : shape.WithinWords fit) {start : UInt32}
    {stitches : Int64} (counted : Counted fit (shape.plans fit start) shape.segments stitches) :
    shape.ExactCount fit stitches.toInt := by
  rcases counted with ⟨plan, member, row, listed, rfl⟩ | ⟨segment, among, rfl⟩
  · obtain ⟨way, found, begins, visited, reached, rfl⟩ := exists_visited_of_mem_plans member
    have held := within way found visited reached
    -- The total of a row is a sum that a word holds.
    rw [Row.total, toInt_add_of_isWord (held.totals begins row listed)]
    rw [Segment.plan_rows, List.mem_map] at listed
    obtain ⟨index, counted, rfl⟩ := listed
    rw [List.mem_range] at counted
    rw [held.toSumsHeld.total_eq _ counted, Segment.totalAt]
    exact .row visited reached counted
  · exact .lower among

/-- No exact count of accepted segments is negative. -/
theorem ExactCount.nonneg (accepted : ∀ segment ∈ shape.segments, segment.Accepted fit)
    {count : Int} (exact : shape.ExactCount fit count) : 0 ≤ count := by
  cases exact with
  | @row way found index visited reached within =>
    have passed := accepted _ ((mem_segments shape).mpr ⟨way, found, reached, rfl⟩)
    obtain ⟨left, _, right, _⟩ := passed.sidesHeld (by omega) (show index + 1 ≤ _ from within)
    -- Both sides together have the stitches of the lower edge and both shares.
    rw [Segment.leftStart_toInt] at left
    rw [Segment.rightStart_toInt] at right
    omega
  | lower among =>
    have passed := accepted _ among
    exact (nonneg_iff_toInt _).mp
      (Segment.lowerStitches_nonneg passed.dimensions passed.gauge passed.size)

/-- Words have room for a timeline when they have room for all segments with rows. -/
theorem hasRoom_of_segments (room : ∀ segment ∈ shape.segments,
    0 < segment.knittedRows fit → segment.HasRoom fit) : shape.HasRoom fit :=
  fun way found _ reached => room _ ((mem_segments shape).mpr ⟨way, found, reached, rfl⟩)

/-- All plans of a shape within words have lines, as long as the row numbers last. -/
theorem WithinWords.isTold (within : shape.WithinWords fit) {start : UInt32}
    (numbers : shape.NumbersLast fit start) : shape.IsTold fit start := by
  have held : shape.PlansHeld fit start :=
    ⟨fun way found visited reached => (within way found visited reached).toSumsHeld, numbers⟩
  refine ⟨_, plans?_eq_some_iff.mpr ⟨held, rfl⟩, ?_⟩
  intro plan member
  obtain ⟨way, found, begins, visited, reached, rfl⟩ := exists_visited_of_mem_plans member
  have last := numbers way visited
  rw [rowsAt, reached] at last
  exact (within way found visited reached).isSome_compile? begins (by dsimp only at last; omega)

/-- A shape whose plans all have lines has room in words for its nodes with rows. -/
theorem IsTold.hasRoom {start : UInt32} (told : shape.IsTold fit start) :
    shape.HasRoom fit ∧ shape.NumbersLast fit start := by
  obtain ⟨plans, there, lines⟩ := told
  obtain ⟨held, rfl⟩ := plans?_eq_some_iff.mp there
  refine ⟨?_, held.numbers⟩
  intro way found visited reached some
  have planned : found.segment.plan fit (shape.startAt fit start way) ∈ shape.plans fit start := by
    rw [plans_eq_map, List.mem_map]
    exact ⟨way, mem_visitedWays.mpr visited, by rw [planAt, reached]⟩
  exact (held.sums way found visited reached).hasRoom some (lines _ planned)

/--
The sums for the plans of a shape that has passed both checks stay within words exactly when words
have room for the most that is due on each edge, and for the total of each last row.

What they are to come to is never the hindrance on a side: after any number of rows, both sides
have in exact numbers a count that a word holds. There are instructions exactly when there is room,
and the row numbers last; every count that one of their lines tells is exact, and so it is not
negative.
-/
theorem withinWords_of_checked (dimensions : shape.checkDimensions = .ok ())
    (stitches : shape.checkStitches fit = .ok ()) (gauge : fit.gauge.usable = true)
    (size : isUsable fit.size = true) :
    (shape.WithinWords fit ↔ shape.HasRoom fit) ∧
      (∀ segment ∈ shape.segments, 0 < segment.knittedRows fit →
        ∀ index ≤ segment.knittedRows fit, segment.SidesHeld fit index) ∧
      (∀ start isRoot, (∃ lines, shape.instructions? fit start isRoot = some lines) ↔
        shape.HasRoom fit ∧ shape.NumbersLast fit start) ∧
      ∀ start isRoot lines, shape.instructions? fit start isRoot = some lines →
        ∀ line ∈ lines, ∀ count, line.stitches? = some count →
          0 ≤ count ∧ shape.ExactCount fit count.toInt := by
  have accepted := accepted_of_passed dimensions stitches gauge size
  have exactly := withinWords_iff_hasRoom accepted
  refine ⟨exactly, ?_, ?_, ?_⟩
  · intro segment among some index within
    exact (accepted segment among).sidesHeld some within
  · intro start isRoot
    simp only [instructions?_eq_some_iff, exists_and_left, exists_eq', and_true]
    constructor
    · rintro ⟨told, _⟩
      exact told.hasRoom
    · rintro ⟨room, numbers⟩
      have within := exactly.mpr room
      refine ⟨within.isTold numbers, fun _ row begins => ?_⟩
      exact (within [] shape .root rfl).totals start row (List.mem_of_head? begins)
  · intro start isRoot lines there line member count counts
    obtain ⟨⟨told, _⟩, rfl⟩ := instructions?_eq_some_iff.mp there
    -- A line counts a row of the plans or a lower edge, and neither has left its word.
    have exact := (exactly.mpr told.hasRoom.1).exactCount (counted_instructions member counts)
    exact ⟨(nonneg_iff_toInt count).mpr (exact.nonneg accepted), exact⟩

/-- There is room for the forked shape, and its sections are told in exact numbers. -/
theorem forked_withinWords :
    (forked.checkDimensions = .ok () ∧ forked.checkStitches Segment.leaningFit = .ok () ∧
        Segment.leaningFit.gauge.usable = true ∧ isUsable Segment.leaningFit.size = true ∧
        forked.HasRoom Segment.leaningFit) ∧
      forked.WithinWords Segment.leaningFit ∧
      ∃ lines, forked.instructions? Segment.leaningFit 1 true = some lines ∧
        ∀ line ∈ lines, ∀ count, line.stitches? = some count →
          0 ≤ count ∧ forked.ExactCount Segment.leaningFit count.toInt := by
  -- Checks go through the nodes in turn, and a list of nodes is what can be decided.
  have dimensions : forked.checkDimensions = .ok () := by
    rw [checkDimensions, passes_eq_ok_iff]
    decide +kernel
  have stitches : forked.checkStitches Segment.leaningFit = .ok () := by
    rw [checkStitches, passes_eq_ok_iff]
    decide +kernel
  have gauge : Segment.leaningFit.gauge.usable = true := by decide +kernel
  have size : isUsable Segment.leaningFit.size = true := by decide +kernel
  have room : forked.HasRoom Segment.leaningFit := hasRoom_of_segments (by decide +kernel)
  obtain ⟨exactly, _, there, counts⟩ := withinWords_of_checked dimensions stitches gauge size
  have told : (forked.instructions? Segment.leaningFit 1 true).isSome = true := by decide +kernel
  obtain ⟨lines, told⟩ := Option.isSome_iff_exists.mp told
  exact ⟨⟨dimensions, stitches, gauge, size, room⟩, exactly.mpr room, lines, told,
    counts 1 true lines told⟩

end Room

/-- A shape whose left edge gains as many stitches as a word can hold, over two rows. -/
def lopsided : Shape :=
  .node { Segment.plain 2.0 0.0 1e19 with shift := -5e18 } []

/--
The lopsided shape passes both checks, and both sides of both rows are to have counts that a word
holds, but more is due on its second row than a word holds, which ends the run before any line.
-/
theorem lopsided_overflows :
    lopsided.checkDimensions = .ok () ∧ lopsided.checkStitches Segment.boundlessFit = .ok () ∧
      Segment.boundlessFit.gauge.usable = true ∧ isUsable Segment.boundlessFit.size = true ∧
      ¬ lopsided.WithinWords Segment.boundlessFit ∧
      lopsided.instructions? Segment.boundlessFit 1 true = none := by
  have dimensions : lopsided.checkDimensions = .ok () := by
    rw [checkDimensions, passes_eq_ok_iff]
    decide +kernel
  have stitches : lopsided.checkStitches Segment.boundlessFit = .ok () := by
    rw [checkStitches, passes_eq_ok_iff]
    decide +kernel
  refine ⟨dimensions, stitches, by decide +kernel, by decide +kernel, ?_, by decide +kernel⟩
  -- The root is visited, and words have no room for what is due on its left edge.
  intro within
  have accepted := accepted_of_passed dimensions stitches (by decide +kernel) (by decide +kernel)
  have room := (withinWords_iff_hasRoom accepted).mp within [] lopsided .root rfl
    (by decide +kernel)
  have full : ¬ lopsided.segment.HasRoom Segment.boundlessFit := by decide +kernel
  exact full room

/-- Each side of its one row fits into a word, but not both of them together. -/
example : (Shape.node (Segment.plain 1.0 0.0 2e19) []).instructions? Segment.boundlessFit 1 true
    = none := by decide +kernel

end Shape

end FlatKnit
