import FlatKnit.Proofs.Plan.Replay
import FlatKnit.Proofs.Shape.Nesting
import FlatKnit.Proofs.Shape.Numbering

/-! Section headers: what they announce, and the stitches on which the line after them builds. -/

namespace FlatKnit

namespace Instruction

/-- The stitches that a line adds on both edges together. -/
def shaped : Instruction → Int64
  | shaping left right _ _ _ => left + right
  | _ => 0

/-- A line builds on a count when its own shaping leads from there to its stitches in work. -/
def BuildsOn (line : Instruction) (stitches : Int64) : Prop :=
  ∃ inWork, line.inWork? = some inWork ∧ inWork - line.shaped = stitches

/-- A line builds on one count only. -/
theorem BuildsOn.unique {line : Instruction} {stitches other : Int64}
    (builds : line.BuildsOn stitches) (buildsOther : line.BuildsOn other) : stitches = other := by
  obtain ⟨inWork, told, rfl⟩ := builds
  obtain ⟨inWorkOther, toldOther, rfl⟩ := buildsOther
  rw [Option.some.inj (told.symm.trans toldOther)]

end Instruction

/-- Rows with the same counts have the same stitches in all. -/
theorem Row.total_eq_of_sameCounts {row other : Row} (same : row.sameCounts other = true) :
    row.total = other.total := by
  obtain ⟨left, right⟩ := (row.sameCounts_iff other).mp same
  rw [total, left, right, total]

/-- Rows with the same counts compare with any other row in the same way. -/
theorem Row.sameCounts_congr {row other : Row} (same : row.sameCounts other = true) (third : Row) :
    row.sameCounts third = other.sameCounts third := by
  obtain ⟨left, right⟩ := (row.sameCounts_iff other).mp same
  rw [sameCounts, left, right, sameCounts]

namespace StitchPlan

/-- The first line of the loop builds on the row before it, if some later row differs from it. -/
theorem linesAfter_first {rest : List Row} :
    ∀ {previous : Row} {run : UInt32}, previous.sameCounts (rest.getLastD previous) = false →
      ∃ line lines, linesAfter previous run rest = line :: lines ∧
        line.BuildsOn previous.total := by
  -- Rows that repeat the counts before them only lengthen the run, so the induction skips them.
  induction rest with
  | nil =>
    intro previous run differs
    simp [Row.sameCounts] at differs
  | cons row rest ih =>
    intro previous run differs
    rw [linesAfter]
    split
    · -- The row stands for the one before it, and gives no line of its own.
      rename_i same
      rw [List.getLastD_cons, ← Row.sameCounts_congr same] at differs
      rw [← Row.total_eq_of_sameCounts same]
      exact ih differs
    · -- The line tells what the counts have grown by since the row before it.
      refine ⟨_, _, rfl, _, rfl, ?_⟩
      simp only [Instruction.shaped, Row.total]
      grind

/-- The first line of a plan builds on its first row, whose own shaping it does not tell. -/
theorem compile_first {plan : StitchPlan} {first : Row} (begins : plan.first? = some first) :
    ∃ line lines, plan.compile = line :: lines ∧ line.BuildsOn first.total := by
  obtain ⟨rest, rows⟩ := List.head?_eq_some_iff.mp begins
  rw [compile, rows]
  dsimp only
  split
  · -- A plan that ends as it begins is one line without shaping.
    rename_i same
    refine ⟨_, _, rfl, _, rfl, ?_⟩
    rw [Row.total_eq_of_sameCounts same]
    simp [Instruction.shaped]
  · rename_i differs
    exact linesAfter_first (by simpa using differs)

end StitchPlan

/-- The first row of a segment has the stitches of its lower edge and its own shaping. -/
theorem Segment.total_first {segment : Segment} {fit : Fit} {start : UInt32} {first : Row}
    (begins : (segment.plan fit start).first? = some first) :
    first.total = segment.lowerStitches fit + (first.leftShaping + first.rightShaping) := by
  rw [StitchPlan.first?, List.head?_eq_getElem?] at begins
  have within : 0 < segment.knittedRows fit := by
    rw [← plan_length segment fit start]
    exact (List.getElem?_eq_some_iff.mp begins).1
  rw [plan_getElem? segment fit start within, Option.some.injEq] at begins
  -- The two halves that the edges start from are the whole lower edge.
  rw [← begins]
  simp only [Row.total, rowAfter, Edge.count, leftEdge, rightEdge, rightStart]
  grind

namespace Shape

/--
A header and the lines after it announce the node at the end of a way: the header has the stitches
of its lower edge, and its own lines come next, from the row on at which it starts.
-/
structure Announces (fit : Fit) (start : UInt32) (shape : Shape) (way : List Nat)
    (stitches : Int64) (rest : List Instruction) (child : Shape) : Prop where
  visited : Visited fit shape way
  reached : shape.nodeAt? way = some child
  lower : stitches = child.segment.lowerStitches fit
  follows : child.lines fit (shape.startAt fit start way) <+: rest

/-- The list of lines from a header on lies in one of two stretches, or starts in the first. -/
theorem suffix_append_cases {line : Instruction} {rest lines later : List Instruction}
    (tail : line :: rest <:+ lines ++ later) :
    line :: rest <:+ later ∨ ∃ inner, line :: inner <:+ lines ∧ rest = inner ++ later := by
  -- The lines of the first stretch are taken off until the list begins, or none are left.
  induction lines with
  | nil => exact Or.inl tail
  | cons first lines ih =>
    rcases List.suffix_cons_iff.mp tail with whole | tail
    · obtain ⟨rfl, rfl⟩ := List.cons.inj whole
      exact Or.inr ⟨lines, List.suffix_refl _, rfl⟩
    · rcases ih tail with later | ⟨inner, within, split⟩
      · exact Or.inl later
      · exact Or.inr ⟨inner, List.suffix_cons_iff.mpr (Or.inr within), split⟩

/-- The start of a node is that of the same node in the successor on the way to it. -/
theorem startAt_cons {fit : Fit} {start : UInt32} {segment : Segment} {successors : List Shape}
    {child : Shape} {index : Nat} (taken : successors[index]? = some child) (way : List Nat) :
    (node segment successors).startAt fit start (index :: way)
      = child.startAt fit ((segment.plan fit start).nextRow start) way := by
  -- The rows of the root come first among those on the way.
  rw [startAt, startAt, rowsBefore_cons taken, Segment.nextRow_plan, UInt32.ofNat_add,
    UInt32.add_assoc]
  rfl

/-- What is announced within a knitted successor is announced within the whole shape. -/
theorem Announces.within {fit : Fit} {start : UInt32} {segment : Segment}
    {successors : List Shape} {child found : Shape} {index : Nat} {way : List Nat}
    {stitches : Int64} {inner : List Instruction}
    (taken : successors[index]? = some child) (knitted : child.segment.isKnitted fit = true)
    (announces : child.Announces fit ((segment.plan fit start).nextRow start) way stitches inner
      found) (after : List Instruction) :
    (node segment successors).Announces fit start (index :: way) stitches (inner ++ after)
      found where
  visited := visited_cons.mpr ⟨child, taken, knitted, announces.visited⟩
  reached := (nodeAt?_cons taken way).trans announces.reached
  lower := announces.lower
  follows := by
    rw [startAt_cons taken]
    exact announces.follows.trans (List.prefix_append inner after)

/-- A node announces itself by its own lines, right after the header with its lower edge. -/
theorem announces_self {fit : Fit} {start : UInt32} {segment : Segment} {successors : List Shape}
    {child : Shape} {index : Nat} (taken : successors[index]? = some child)
    (knitted : child.segment.isKnitted fit = true) (after : List Instruction) :
    (node segment successors).Announces fit start [index] (child.segment.lowerStitches fit)
      (child.lines fit ((segment.plan fit start).nextRow start) ++ after) child where
  visited := visited_cons.mpr ⟨child, taken, knitted, Visited.root⟩
  reached := nodeAt?_cons taken []
  lower := rfl
  follows := by
    -- No rows of the child itself lie before it.
    have begins : child.startAt fit ((segment.plan fit start).nextRow start) []
        = (segment.plan fit start).nextRow start := by
      simp [startAt, rowsBefore]
    rw [startAt_cons taken, begins]
    exact List.prefix_append _ _

/-- A header is not among the lines of a segment alone. -/
theorem suffix_of_ownLines {segment : Segment} {plan : StitchPlan} {index : Nat}
    {stitches : Int64} {rest later : List Instruction}
    (header : .startSection index stitches :: rest <:+ segment.ownLines plan ++ later) :
    .startSection index stitches :: rest <:+ later := by
  -- A header marks a piece, and the lines of a segment alone mark none.
  rcases suffix_append_cases header with later | ⟨inner, within, _⟩
  · exact later
  · have plain := marksPiece_ownLines (within.mem List.mem_cons_self)
    cases plain

mutual

/-- Every header among the lines of a shape announces the successor that it numbers. -/
theorem announces_lines (fit : Fit) :
    ∀ (start : UInt32) (shape : Shape) {index : Nat} {stitches : Int64} {rest : List Instruction},
      .startSection index stitches :: rest <:+ shape.lines fit start →
      ∃ way position child, index = position + 1 ∧
        shape.Announces fit start (way ++ [position]) stitches rest child
  | start, .node segment [], index, stitches, rest, header => by
    rw [lines] at header
    -- A leaf has one line behind its own, and that is no header.
    have ending := suffix_of_ownLines header
    simp [List.suffix_cons_iff] at ending
  | start, .node segment [only], index, stitches, rest, header => by
    rw [lines] at header
    have continued := suffix_of_ownLines header
    -- What a single successor announces is announced here, one step further down.
    cases knitted : only.segment.isKnitted fit with
    | true =>
      rw [if_pos knitted] at continued
      obtain ⟨way, position, child, counted, announces⟩ := announces_lines fit _ only continued
      have taken : [only][0]? = some only := rfl
      have within := announces.within taken knitted []
      rw [List.append_nil] at within
      exact ⟨0 :: way, position, child, counted, within⟩
    | false => simp [knitted, List.suffix_cons_iff] at continued
  | start, .node segment (first :: second :: others), index, stitches, rest, header => by
    rw [lines] at header
    have division := suffix_of_ownLines header
    rcases List.suffix_cons_iff.mp division with whole | sections
    · -- The division itself is no header, so that the header stands among the sections.
      simp at whole
    · exact announces_sectionLines fit start segment (first :: second :: others) 0
        (first :: second :: others) (fun position => by rw [Nat.zero_add]) sections

/-- Every header among the lines of sections announces the successor that it numbers. -/
theorem announces_sectionLines (fit : Fit) :
    ∀ (start : UInt32) (segment : Segment) (successors : List Shape) (offset : Nat)
      (shapes : List Shape) {index : Nat} {stitches : Int64} {rest : List Instruction},
      (∀ position : Nat, successors[offset + position]? = shapes[position]?) →
      .startSection index stitches :: rest
        <:+ sectionLines fit ((segment.plan fit start).nextRow start) (offset + 1) shapes →
      ∃ way position child, index = position + 1 ∧
        (node segment successors).Announces fit start (way ++ [position]) stitches rest child
  | _, _, _, _, [], _, _, _, _, header => by
    simp [sectionLines] at header
  | start, segment, successors, offset, shape :: shapes, index, stitches, rest, listed, header => by
    have taken : successors[offset]? = some shape := listed 0
    rw [sectionLines] at header
    rcases suffix_append_cases header with later | ⟨inner, within, rfl⟩
    · -- The header is one of a later section.
      exact announces_sectionLines fit start segment successors (offset + 1) shapes
        (fun position => by
          rw [Nat.add_right_comm, Nat.add_assoc, listed (position + 1), List.getElem?_cons_succ])
        later
    · cases knitted : shape.segment.isKnitted fit with
      | false => simp [knitted, List.suffix_cons_iff] at within
      | true =>
        rw [if_pos knitted] at within
        rcases List.suffix_cons_iff.mp within with whole | deeper
        · -- The header is the one of this section.
          obtain ⟨same, rfl⟩ := List.cons.inj whole
          rw [Instruction.startSection.injEq] at same
          obtain ⟨rfl, rfl⟩ := same
          exact ⟨[], offset, shape, rfl, announces_self taken knitted _⟩
        · -- The header lies within this section.
          obtain ⟨way, position, child, counted, announces⟩ := announces_lines fit _ shape deeper
          exact ⟨offset :: way, position, child, counted, announces.within taken knitted _⟩

end

/-- The lines of a shape begin with those of its root alone. -/
theorem ownLines_prefix_lines (fit : Fit) (start : UInt32) (shape : Shape) :
    shape.segment.ownLines (shape.segment.plan fit start) <+: shape.lines fit start := by
  -- Whatever the successors are, the root comes first.
  obtain ⟨segment, successors⟩ := shape
  rw [lines.eq_def]
  exact List.prefix_append _ _

/-- The lines of a shape with rows of its own begin with a line that builds on its first row. -/
theorem lines_first {fit : Fit} {start : UInt32} {shape : Shape} {first : Row}
    (begins : (shape.segment.plan fit start).first? = some first) :
    ∃ line after, shape.lines fit start = line :: after ∧ line.coversRows = true ∧
      line.BuildsOn first.total := by
  -- The lines of a shape start with those of its plan, and these with the first row.
  obtain ⟨line, others, compiled, builds⟩ := StitchPlan.compile_first begins
  have covers : line.coversRows = true :=
    StitchPlan.coversRows_compile (by rw [compiled]; exact List.mem_cons_self)
  obtain ⟨after, whole⟩ := ownLines_prefix_lines fit start shape
  rw [Segment.ownLines, compiled] at whole
  exact ⟨line, _, whole.symm, covers, builds⟩

/--
Every section header announces the successor that it numbers, with the stitches of its lower edge.

The first line of a section with rows builds on the stitches of the header and on the shaping of
the first row, and so on the header alone exactly when that shaping adds up to nothing.
-/
theorem section_buildsOn {fit : Fit} {start : UInt32} {isRoot : Bool} {shape : Shape}
    {told rest : List Instruction} {index : Nat} {stitches : Int64}
    (header : shape.instructions fit start isRoot = told ++ .startSection index stitches :: rest) :
    ∃ way position child, index = position + 1 ∧
      shape.Announces fit start (way ++ [position]) stitches rest child ∧
      ∀ first, (child.segment.plan fit (shape.startAt fit start (way ++ [position]))).first?
          = some first →
        ∃ line, rest.find? Instruction.coversRows = some line ∧
          (child.lines fit (shape.startAt fit start (way ++ [position]))).head? = some line ∧
          line.BuildsOn (stitches + (first.leftShaping + first.rightShaping)) ∧
          (line.BuildsOn stitches ↔ first.leftShaping + first.rightShaping = 0) := by
  -- A cast-on is no header, so that the header is among the lines of the shape.
  have among : .startSection index stitches :: rest <:+ shape.lines fit start := by
    have tail : .startSection index stitches :: rest <:+ shape.instructions fit start isRoot :=
      ⟨told, header.symm⟩
    rcases suffix_append_cases tail with among | ⟨inner, within, _⟩
    · exact among
    · have plain := marksPiece_castOn (within.mem List.mem_cons_self)
      cases plain
  obtain ⟨way, position, child, counted, announces⟩ := announces_lines fit start shape among
  refine ⟨way, position, child, counted, announces, ?_⟩
  intro first begins
  -- The first row of the child is told by the first line behind the header.
  obtain ⟨line, after, lines, covers, builds⟩ := lines_first begins
  obtain ⟨later, split⟩ := announces.follows
  rw [Segment.total_first begins, ← announces.lower] at builds
  refine ⟨line, ?_, by rw [lines]; rfl, builds, ?_⟩
  · rw [← split, lines, List.cons_append, List.find?_cons_of_pos covers]
  · constructor
    · intro buildsOnHeader
      -- A line builds on one count only, so that the row must have changed nothing.
      have same := buildsOnHeader.unique builds
      grind
    · intro none
      rwa [none, Int64.add_zero] at builds

/-- A shape with a section that more than doubles its width from its first row on. -/
def widening : Shape :=
  .node (Segment.plain 1.0 4.0 4.0)
    [.node (Segment.plain 2.0 2.0 30.0) [], .node (Segment.plain 0.0 2.0 2.0) []]

/-- Seven and a half rows and four and three quarters stitches to the inch. -/
def wideningFit : Fit :=
  ⟨Gauge.standard, 1.0⟩

/-- The lines of the widening shape up to the header of its first section, and from there on. -/
theorem widening_header : widening.instructions wideningFit 1 true
    = [.castOn 19, .knitRows 8 8 19, .divide 2] ++ .startSection 1 10 ::
      (widening.instructions wideningFit 1 true).drop 4 := by
  decide +kernel

/-- The first line of the widening section builds on eight stitches more than its header has. -/
theorem widening_buildsOn :
    widening.instructions wideningFit 1 true = [.castOn 19, .knitRows 8 8 19, .divide 2] ++
        .startSection 1 10 :: (widening.instructions wideningFit 1 true).drop 4 ∧
      ∃ line, ((widening.instructions wideningFit 1 true).drop 4).find? Instruction.coversRows
        = some line ∧ line.BuildsOn (10 + (4 + 4)) := by
  refine ⟨widening_header, ?_⟩
  obtain ⟨way, position, child, counted, announces, builds⟩ := section_buildsOn widening_header
  -- The first section is the only node that is visited after the root.
  have among := mem_visitedWays.mpr announces.visited
  rw [show visitedWays wideningFit widening = [[], [0]] by decide] at among
  obtain ⟨rfl, rfl⟩ : way = [] ∧ position = 0 := by
    simpa [List.append_eq_singleton_iff] using among
  have reached := announces.reached
  obtain rfl : _ = child := Option.some.inj reached
  obtain ⟨line, found, _, buildsOn, _⟩ := builds ⟨9, 9, 9, 4, 4⟩ (by decide +kernel)
  exact ⟨line, found, buildsOn⟩

/-- The widening section cannot be followed: the line after its header does not build on it. -/
theorem widening_not_buildsOn :
    ∃ later, widening.instructions wideningFit 1 true = [.castOn 19, .knitRows 8 8 19, .divide 2] ++
        .startSection 1 10 :: .shaping 4 4 2 10 26 :: later ∧
      ¬ (Instruction.shaping 4 4 2 10 26).BuildsOn 10 := by
  -- A line builds on one count of stitches only, and here it is eighteen.
  refine ⟨(widening.instructions wideningFit 1 true).drop 5, by decide +kernel, ?_⟩
  intro builds
  have first : (Instruction.shaping 4 4 2 10 26).BuildsOn 18 := ⟨26, rfl, by decide⟩
  exact absurd (builds.unique first) (by decide)

end Shape

end FlatKnit
