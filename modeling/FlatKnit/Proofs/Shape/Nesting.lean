import FlatKnit.Proofs.Shape.Timeline

/-! Pieces of a timeline: a scan of the flat lines of a shape gives its tree of sections back. -/

namespace FlatKnit

/-- A piece is bound off, or divided into sections, each with the stitches it is announced with. -/
inductive Piece where
  | boundOff
  | divided (sections : List (Int64 × Piece))
  deriving Repr

/-- A division in progress: the number of its sections, and those that are complete. -/
structure Division where
  size : Nat
  sections : List (Int64 × Piece)
  deriving Repr

/-- A section in progress: the division that it belongs to, and the stitches it began with. -/
structure OpenSection where
  division : Division
  stitches : Int64
  deriving Repr

/-- Where a scan of lines stands; the sections around it are listed innermost first. -/
inductive Scan where
  /-- A piece is being knitted. -/
  | inWork (outer : List OpenSection)
  /-- The next section of a division is to be announced. -/
  | between (division : Division) (outer : List OpenSection)
  /-- The whole piece is complete. -/
  | complete (piece : Piece)
  deriving Repr

namespace Instruction

/-- Whether the line divides the work. -/
def divides : Instruction → Bool
  | divide _ => true
  | _ => false

/-- Whether the line divides, announces or ends a piece. -/
def marksPiece : Instruction → Bool
  | divide _ => true
  | startSection _ _ => true
  | bindOffSection _ _ => true
  | bindOff _ => true
  | _ => false

/-- A line that ends a piece marks it. -/
theorem marksPiece_of_endsPiece {line : Instruction} (ends : line.endsPiece = true) :
    line.marksPiece = true := by
  cases line <;> simp_all [endsPiece, marksPiece]

/-- A line that divides the work marks a piece. -/
theorem marksPiece_of_divides {line : Instruction} (divided : line.divides = true) :
    line.marksPiece = true := by
  cases line <;> simp_all [divides, marksPiece]

end Instruction

/-- The lines of a segment alone are row lines and notes. -/
theorem Segment.ownLines_cases {segment : Segment} {plan : StitchPlan} {line : Instruction}
    (member : line ∈ segment.ownLines plan) :
    line.coversRows = true ∨ ∃ text, line = .note text := by
  -- A segment tells the lines of its plan first, and its notes behind them.
  rcases List.mem_append.mp member with row | note
  · exact Or.inl (StitchPlan.coversRows_compile row)
  · obtain ⟨text, _, rfl⟩ := List.mem_map.mp note
    exact Or.inr ⟨text, rfl⟩

namespace Scan

/-- A complete piece completes the section it lies in, and the last section its division. -/
def close (piece : Piece) : List OpenSection → Scan
  | [] => complete piece
  | ⟨division, stitches⟩ :: outer =>
    let sections := division.sections ++ [(stitches, piece)]
    if sections.length < division.size then between ⟨division.size, sections⟩ outer
    else close (.divided sections) outer

/-- One line of a scan: sections are announced one by one, and nothing follows a whole piece. -/
def step : Scan → Instruction → Option Scan
  | inWork outer, .bindOff _ => some (close .boundOff outer)
  | inWork outer, .divide size => if 2 ≤ size then some (between ⟨size, []⟩ outer) else none
  | between division outer, .startSection index stitches =>
    if index = division.sections.length + 1 then some (inWork (⟨division, stitches⟩ :: outer))
    else none
  | between division outer, .bindOffSection index stitches =>
    if index = division.sections.length + 1 then
      some (close .boundOff (⟨division, stitches⟩ :: outer))
    else none
  | scan, line => if line.marksPiece then none else some scan

/-- A scan of lines, which stops at the first one that does not fit. -/
def run (scan : Scan) (lines : List Instruction) : Option Scan :=
  lines.foldlM step scan

/-- The scan of a piece that has no lines yet. -/
def start : Scan :=
  inWork []

/-- A scan goes on with one line at a time. -/
theorem run_cons (scan : Scan) (line : Instruction) (lines : List Instruction) :
    scan.run (line :: lines) = (scan.step line).bind fun next => next.run lines :=
  List.foldlM_cons

/-- A scan can stop between two stretches of lines. -/
theorem run_append (scan : Scan) (lines later : List Instruction) :
    scan.run (lines ++ later) = (scan.run lines).bind fun next => next.run later :=
  List.foldlM_append

/-- A line that marks no piece leaves the scan where it stands. -/
theorem step_of_not_marksPiece {line : Instruction} (plain : line.marksPiece = false)
    (scan : Scan) : scan.step line = some scan := by
  unfold step
  split
  -- All lines that a step looks at by name mark a piece.
  case h_5 => rw [plain, if_neg Bool.false_ne_true]
  all_goals simp [Instruction.marksPiece] at plain

/-- Lines that mark no piece leave the scan where it stands. -/
theorem run_of_not_marksPiece {lines : List Instruction}
    (plain : ∀ line ∈ lines, line.marksPiece = false) (scan : Scan) :
    scan.run lines = some scan := by
  -- The induction is on the lines, and each of them leaves the scan to the next.
  induction lines with
  | nil => rfl
  | cons line lines ih =>
    rw [run_cons, step_of_not_marksPiece (plain line (by simp)), Option.bind_some]
    exact ih fun later member => plain later (List.mem_cons_of_mem _ member)

/-- No line that marks a piece fits behind a whole piece. -/
theorem step_complete {line : Instruction} (marks : line.marksPiece = true) (piece : Piece) :
    (complete piece).step line = none := by
  unfold step
  split
  case h_5 => rw [if_pos marks]
  -- The other steps start in a piece in work, or between sections.
  all_goals contradiction

/-- Behind a whole piece, a scan up to a line that marks a piece does not come to an end. -/
theorem run_complete {line : Instruction} (marks : line.marksPiece = true) (piece : Piece)
    (lines : List Instruction) : (complete piece).run (lines ++ [line]) = none := by
  -- The first marking line already fails, and all others stay at the whole piece.
  induction lines with
  | nil => rw [List.nil_append, run_cons, step_complete marks, Option.bind_none]
  | cons first lines ih =>
    rw [List.cons_append, run_cons]
    cases marksFirst : first.marksPiece with
    | true => rw [step_complete marksFirst, Option.bind_none]
    | false => rw [step_of_not_marksPiece marksFirst, Option.bind_some, ih]

/-- A section that is not the last one leaves its division open. -/
theorem close_of_lt {piece : Piece} {division : Division} {stitches : Int64}
    (open_ : division.sections.length + 1 < division.size) (outer : List OpenSection) :
    close piece (⟨division, stitches⟩ :: outer)
      = between ⟨division.size, division.sections ++ [(stitches, piece)]⟩ outer := by
  rw [close, if_pos (by simpa using open_)]

/-- The last section completes the piece that was divided. -/
theorem close_of_eq {piece : Piece} {division : Division} {stitches : Int64}
    (last : division.sections.length + 1 = division.size) (outer : List OpenSection) :
    close piece (⟨division, stitches⟩ :: outer)
      = close (.divided (division.sections ++ [(stitches, piece)])) outer := by
  rw [close, if_neg (by simp [last])]

end Scan

namespace Shape

mutual

/-- The tree cut off below every node after the root that is not knitted. -/
def cut (fit : Fit) : Shape → Shape
  | node segment successors => node segment (cutAll fit successors)

/-- A successor in the cut tree. -/
def cutSuccessor (fit : Fit) : Shape → Shape
  | node segment successors =>
    if segment.isKnitted fit then node segment (cutAll fit successors) else node segment []

/-- The successors of a node in the cut tree. -/
def cutAll (fit : Fit) : List Shape → List Shape
  | [] => []
  | shape :: shapes =>
    cutSuccessor fit shape :: cutAll fit shapes

end

mutual

/-- The piece that a tree describes; a single successor goes on with the piece of its parent. -/
def outline (fit : Fit) : Shape → Piece
  | node _ [] => .boundOff
  | node _ [only] => outline fit only
  | node _ (first :: second :: rest) => .divided (outlines fit (first :: second :: rest))

/-- The pieces of sections, each with the stitches of its own lower edge. -/
def outlines (fit : Fit) : List Shape → List (Int64 × Piece)
  | [] => []
  | shape :: shapes => (shape.segment.lowerStitches fit, outline fit shape) :: outlines fit shapes

end

mutual

/-- The number of nodes without successors. -/
def leafCount : Shape → Nat
  | node _ [] => 1
  | node _ (first :: rest) => leafCounts (first :: rest)

/-- The number of nodes without successors in a list of shapes. -/
def leafCounts : List Shape → Nat
  | [] => 0
  | shape :: shapes => leafCount shape + leafCounts shapes

end

mutual

/-- The number of nodes with several successors. -/
def branchCount : Shape → Nat
  | node _ successors => (if 2 ≤ successors.length then 1 else 0) + branchCounts successors

/-- The number of nodes with several successors in a list of shapes. -/
def branchCounts : List Shape → Nat
  | [] => 0
  | shape :: shapes => branchCount shape + branchCounts shapes

end

/-- A knitted successor goes on in the cut tree as it does as a root. -/
theorem cutSuccessor_of_knitted {fit : Fit} {shape : Shape}
    (knitted : shape.segment.isKnitted fit = true) : cutSuccessor fit shape = cut fit shape := by
  obtain ⟨segment, successors⟩ := shape
  rw [Shape.segment] at knitted
  rw [cutSuccessor, if_pos knitted, cut]

/-- A successor that is not knitted is a leaf of the cut tree. -/
theorem cutSuccessor_of_not_knitted {fit : Fit} {shape : Shape}
    (bound : shape.segment.isKnitted fit = false) :
    cutSuccessor fit shape = node shape.segment [] := by
  obtain ⟨segment, successors⟩ := shape
  rw [Shape.segment] at bound
  rw [cutSuccessor, bound, if_neg Bool.false_ne_true, Shape.segment]

/-- Cutting keeps the segment of a successor. -/
@[simp] theorem segment_cutSuccessor (fit : Fit) (shape : Shape) :
    (cutSuccessor fit shape).segment = shape.segment := by
  -- Cutting takes away only what is behind a stretch without rows, never the stretch.
  cases knitted : shape.segment.isKnitted fit with
  | true =>
    rw [cutSuccessor_of_knitted knitted]
    obtain ⟨segment, successors⟩ := shape
    rfl
  | false =>
    rw [cutSuccessor_of_not_knitted knitted]
    rfl

section Scanned

variable {fit : Fit}

/-- The lines of a segment alone mark no piece. -/
theorem marksPiece_ownLines {segment : Segment} {plan : StitchPlan} {line : Instruction}
    (member : line ∈ segment.ownLines plan) : line.marksPiece = false := by
  -- Lines that cover rows and notes neither divide nor end a piece.
  rcases Segment.ownLines_cases member with covers | ⟨text, rfl⟩
  · cases line <;> simp_all [Instruction.coversRows, Instruction.rows?, Instruction.marksPiece]
  · rfl

/-- A scan passes over the lines of a segment alone. -/
theorem run_ownLines (segment : Segment) (plan : StitchPlan) (scan : Scan) :
    scan.run (segment.ownLines plan) = some scan :=
  scan.run_of_not_marksPiece (fun _ => marksPiece_ownLines)

/-- The lines of one section complete its own piece, or bind the section off at once. -/
theorem run_section {start : UInt32} {shape : Shape} {division : Division}
    {outer : List OpenSection}
    (entered : ∀ outer, (Scan.inWork outer).run (shape.lines fit start)
      = some (Scan.close ((shape.cut fit).outline fit) outer)) :
    (Scan.between division outer).run
        (if shape.segment.isKnitted fit then
          .startSection (division.sections.length + 1) (shape.segment.lowerStitches fit) ::
            lines fit start shape
        else [.bindOffSection (division.sections.length + 1) (shape.segment.lowerStitches fit)])
      = some (Scan.close ((cutSuccessor fit shape).outline fit)
          (⟨division, shape.segment.lowerStitches fit⟩ :: outer)) := by
  cases knitted : shape.segment.isKnitted fit with
  | true =>
    -- The header opens the section, and its own lines close it again.
    rw [if_pos rfl, Scan.run_cons, cutSuccessor_of_knitted knitted, Scan.step, if_pos rfl,
      Option.bind_some, entered]
  | false =>
    rw [cutSuccessor_of_not_knitted knitted, if_neg Bool.false_ne_true, Scan.run_cons, Scan.step,
      if_pos rfl]
    rfl

mutual

/-- The lines of a shape complete the piece that the cut tree describes. -/
theorem run_lines (fit : Fit) :
    ∀ (start : UInt32) (shape : Shape) (outer : List OpenSection),
      (Scan.inWork outer).run (shape.lines fit start)
        = some (Scan.close ((shape.cut fit).outline fit) outer)
  | start, .node segment [], outer => by
    -- The segment's own lines are passed over, and the bind-off completes the piece.
    rw [lines, Scan.run_append, run_ownLines, Option.bind_some]
    rfl
  | start, .node segment [only], outer => by
    rw [lines, Scan.run_append, run_ownLines, Option.bind_some]
    -- A knitted successor goes on with the same piece, and another one binds it off.
    have continued := run_lines fit ((segment.plan fit start).nextRow start) only outer
    rw [cut, cutAll, cutAll, outline]
    cases knitted : only.segment.isKnitted fit with
    | true => rw [if_pos rfl, continued, cutSuccessor_of_knitted knitted]
    | false =>
      rw [cutSuccessor_of_not_knitted knitted]
      rfl
  | start, .node segment (first :: second :: rest), outer => by
    rw [lines, Scan.run_append, run_ownLines, Option.bind_some, Scan.run_cons]
    -- The division lacks all its sections yet.
    have sections := run_sectionLines fit ((segment.plan fit start).nextRow start)
      (first :: second :: rest) ⟨rest.length + 2, []⟩ outer (by simp) (by simp)
    simpa [Scan.step, cut, cutAll, outline] using sections

/-- The lines of the sections that a division still lacks complete the piece that was divided. -/
theorem run_sectionLines (fit : Fit) :
    ∀ (start : UInt32) (shapes : List Shape) (division : Division) (outer : List OpenSection),
      shapes ≠ [] → division.sections.length + shapes.length = division.size →
      (Scan.between division outer).run
          (sectionLines fit start (division.sections.length + 1) shapes)
        = some (Scan.close (.divided (division.sections ++ outlines fit (cutAll fit shapes))) outer)
  | start, shape :: shapes, division, outer, _, sized => by
    rw [List.length_cons] at sized
    rw [sectionLines, Scan.run_append, run_section (run_lines fit start shape), Option.bind_some,
      cutAll, outlines, segment_cutSuccessor]
    cases shapes with
    | nil =>
      -- The last section completes the division.
      rw [Scan.close_of_eq (by simpa using sized)]
      rfl
    | cons next rest =>
      -- Any other section leaves the division with one section less to come.
      rw [List.length_cons] at sized
      have later := run_sectionLines fit start (next :: rest) ⟨division.size, division.sections ++
        [(shape.segment.lowerStitches fit, outline fit (cutSuccessor fit shape))]⟩ outer (by simp)
        (by simp only [List.length_append, List.length_cons, List.length_nil]; omega)
      rw [List.length_append, List.length_singleton] at later
      rw [Scan.close_of_lt (by omega), later, List.append_assoc, List.singleton_append]

end

/-- Lines that end a piece still do so behind other lines. -/
theorem ends_append (lines : List Instruction) {later : List Instruction}
    (ends : ∃ told line, later = told ++ [line] ∧ line.endsPiece = true) :
    ∃ told line, lines ++ later = told ++ [line] ∧ line.endsPiece = true := by
  obtain ⟨told, line, rfl, last⟩ := ends
  exact ⟨lines ++ told, line, by rw [List.append_assoc], last⟩

mutual

/-- The last line of a shape ends a piece. -/
theorem lines_end (fit : Fit) :
    ∀ (start : UInt32) (shape : Shape),
      ∃ told line, shape.lines fit start = told ++ [line] ∧ line.endsPiece = true
  | start, .node segment [] => by
    rw [lines]
    exact ⟨_, _, rfl, rfl⟩
  | start, .node segment [only] => by
    -- What follows the only successor is its own end, or a bind-off in its place.
    have continued := lines_end fit ((segment.plan fit start).nextRow start) only
    rw [lines]
    apply ends_append
    split
    · exact continued
    · exact ⟨[], _, rfl, rfl⟩
  | start, .node segment (first :: second :: rest) => by
    have sections := sectionLines_end fit ((segment.plan fit start).nextRow start) 1
      (first :: second :: rest) (by simp)
    rw [lines]
    exact ends_append _ (ends_append [_] sections)

/-- The last line of sections ends a piece. -/
theorem sectionLines_end (fit : Fit) :
    ∀ (start : UInt32) (index : Nat) (shapes : List Shape), shapes ≠ [] →
      ∃ told line, sectionLines fit start index shapes = told ++ [line] ∧ line.endsPiece = true
  | start, index, [shape], _ => by
    have section_ := lines_end fit start shape
    rw [sectionLines, sectionLines, List.append_nil]
    split
    · exact ends_append [_] section_
    · exact ⟨[], _, rfl, rfl⟩
  | start, index, shape :: next :: rest, _ => by
    -- Only the last of the sections matters for how they end.
    have later := sectionLines_end fit start (index + 1) (next :: rest) (by simp)
    rw [sectionLines]
    exact ends_append _ later

end

/-- The bind-offs and the divisions of lines are as many as the leaves and branchings of a shape. -/
structure CountedBy (lines : List Instruction) (shape : Shape) : Prop where
  leaves : lines.countP Instruction.endsPiece = shape.leafCount
  branchings : lines.countP Instruction.divides = shape.branchCount

/-- Lines that mark no piece count for nothing. -/
theorem CountedBy.append {lines later : List Instruction} {shape : Shape}
    (counted : CountedBy later shape) (plain : ∀ line ∈ lines, line.marksPiece = false) :
    CountedBy (lines ++ later) shape := by
  -- A line that ends a piece or divides the work marks a piece.
  have noEnd : lines.countP Instruction.endsPiece = 0 := by
    rw [List.countP_eq_zero]
    intro line member ends
    exact Bool.eq_false_iff.mp (plain line member) (Instruction.marksPiece_of_endsPiece ends)
  have noDivision : lines.countP Instruction.divides = 0 := by
    rw [List.countP_eq_zero]
    intro line member divided
    exact Bool.eq_false_iff.mp (plain line member) (Instruction.marksPiece_of_divides divided)
  constructor
  · rw [List.countP_append, noEnd, counted.leaves, Nat.zero_add]
  · rw [List.countP_append, noDivision, counted.branchings, Nat.zero_add]

/-- A single successor leaves both counts as they are. -/
theorem CountedBy.continued {lines : List Instruction} {segment : Segment} {shape : Shape}
    (counted : CountedBy lines shape) : CountedBy lines (node segment [shape]) :=
  ⟨by simp [leafCount, leafCounts, counted.leaves],
    by simp [branchCount, branchCounts, counted.branchings]⟩

mutual

/-- There is a bind-off for every leaf of the cut tree, and a division for every branching. -/
theorem countedBy_lines (fit : Fit) :
    ∀ (start : UInt32) (shape : Shape), CountedBy (shape.lines fit start) (shape.cut fit)
  | start, .node segment [] => by
    rw [lines]
    exact CountedBy.append ⟨rfl, rfl⟩ fun _ => marksPiece_ownLines
  | start, .node segment [only] => by
    rw [lines, cut, cutAll, cutAll]
    refine CountedBy.append (CountedBy.continued ?_) fun _ => marksPiece_ownLines
    cases knitted : only.segment.isKnitted fit with
    | true =>
      rw [if_pos rfl, cutSuccessor_of_knitted knitted]
      exact countedBy_lines fit ((segment.plan fit start).nextRow start) only
    | false =>
      rw [if_neg Bool.false_ne_true, cutSuccessor_of_not_knitted knitted]
      exact ⟨rfl, rfl⟩
  | start, .node segment (first :: second :: rest) => by
    have sections := counts_sectionLines fit ((segment.plan fit start).nextRow start) 1
      (first :: second :: rest)
    rw [lines, cut]
    refine CountedBy.append ⟨?_, ?_⟩ fun _ => marksPiece_ownLines
    · -- A division ends no piece.
      rw [List.countP_cons_of_neg (by simp [Instruction.endsPiece]), sections.1]
      rfl
    · -- The division opens one piece for each section.
      rw [List.countP_cons_of_pos rfl, sections.2, branchCount, if_pos (by simp [cutAll]),
        Nat.add_comm]

/-- There is a bind-off for every leaf of sections, and a division for every branching. -/
theorem counts_sectionLines (fit : Fit) :
    ∀ (start : UInt32) (index : Nat) (shapes : List Shape),
      (sectionLines fit start index shapes).countP Instruction.endsPiece
          = leafCounts (cutAll fit shapes) ∧
        (sectionLines fit start index shapes).countP Instruction.divides
          = branchCounts (cutAll fit shapes)
  | _, _, [] => ⟨rfl, rfl⟩
  | start, index, shape :: shapes => by
    have later := counts_sectionLines fit start (index + 1) shapes
    have entered := countedBy_lines fit start shape
    rw [sectionLines, cutAll, leafCounts, branchCounts, List.countP_append, List.countP_append,
      later.1, later.2]
    -- A section without rows is a leaf once it is cut, and its one line is a bind-off.
    cases knitted : shape.segment.isKnitted fit with
    | true =>
      rw [if_pos rfl, cutSuccessor_of_knitted knitted, ← entered.leaves, ← entered.branchings]
      exact ⟨rfl, rfl⟩
    | false =>
      rw [if_neg Bool.false_ne_true, cutSuccessor_of_not_knitted knitted]
      exact ⟨rfl, rfl⟩

end

/-- What stands before the lines of a shape, a cast-on or nothing, marks no piece. -/
theorem marksPiece_castOn {start : UInt32} {isRoot : Bool} {shape : Shape} {line : Instruction}
    (member : line ∈ if isRoot then shape.castOn fit start else []) :
    line.marksPiece = false := by
  -- A cast-on does not divide, and ends no piece.
  unfold castOn at member
  repeat' split at member
  · rw [List.mem_singleton.mp member]
    rfl
  all_goals simp at member

end Scanned

/--
A scan of the instructions of a shape recognises one piece, the outline of the cut tree, and no
shorter stretch from the first line on is a whole piece.

The last line is the bind-off that completes the piece, the bind-offs are as many as the leaves of
the cut tree, and the divisions as many as its branching nodes.
-/
theorem instructions_nested (fit : Fit) (start : UInt32) (isRoot : Bool) (shape : Shape) :
    Scan.start.run (shape.instructions fit start isRoot)
        = some (.complete ((shape.cut fit).outline fit)) ∧
      (∃ told line, shape.instructions fit start isRoot = told ++ [line] ∧
        line.endsPiece = true) ∧
      (∀ told line rest, shape.instructions fit start isRoot = told ++ line :: rest →
        ∃ scan, Scan.start.run told = some scan ∧ ∀ piece, scan ≠ .complete piece) ∧
      CountedBy (shape.instructions fit start isRoot) (shape.cut fit) := by
  -- The line for the cast on marks no piece, so that the scan starts behind it.
  have scanned : Scan.start.run (shape.instructions fit start isRoot)
      = some (.complete ((shape.cut fit).outline fit)) := by
    rw [instructions, Scan.run_append,
      Scan.run_of_not_marksPiece (fun _ => marksPiece_castOn) Scan.start, Option.bind_some,
      Scan.start, run_lines]
    rfl
  have ends : ∃ told line, shape.instructions fit start isRoot = told ++ [line] ∧
      line.endsPiece = true :=
    ends_append _ (lines_end fit start shape)
  refine ⟨scanned, ends, ?_, ?_⟩
  · -- A whole piece before the last line would make the scan fail at that line.
    intro told line rest split
    rw [split, Scan.run_append] at scanned
    obtain ⟨scan, reached, goesOn⟩ := Option.bind_eq_some_iff.mp scanned
    refine ⟨scan, reached, ?_⟩
    rintro piece rfl
    obtain ⟨before, last, whole, lastEnds⟩ := ends
    obtain ⟨between, tail⟩ : ∃ between, line :: rest = between ++ [last] := by
      have reached := congrArg List.getLast? (split.symm.trans whole)
      rw [List.getLast?_append, List.getLast?_cons, Option.some_or, ← List.getLast?_cons,
        List.getLast?_concat] at reached
      exact List.getLast?_eq_some_iff.mp reached
    -- The last line ends a piece, and none is open any more.
    rw [tail, Scan.run_complete (Instruction.marksPiece_of_endsPiece lastEnds)] at goesOn
    cases goesOn
  · rw [instructions]
    -- The line for the cast on ends no piece and opens none, so that it counts for neither.
    exact (countedBy_lines fit start shape).append fun _ => marksPiece_castOn

end Shape

end FlatKnit
