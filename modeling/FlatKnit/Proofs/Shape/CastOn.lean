import FlatKnit.Panel
import FlatKnit.Proofs.Shape.Nesting
import FlatKnit.Proofs.Shape.Numbering

/-! Cast-ons: a panel starts with the stitches of its lowest row exactly when its root has rows. -/

namespace FlatKnit

/-- Whether the line casts on. -/
def Instruction.castsOn : Instruction → Bool
  | castOn _ => true
  | _ => false

/-- The lines of a segment alone cast nothing on. -/
theorem Segment.castsOn_ownLines {segment : Segment} {plan : StitchPlan} {line : Instruction}
    (member : line ∈ segment.ownLines plan) : line.castsOn = false := by
  -- They cover rows or are notes, and a cast-on does neither.
  rcases Segment.ownLines_cases member with covers | ⟨text, rfl⟩
  · cases line <;> simp_all [Instruction.coversRows, Instruction.rows?, Instruction.castsOn]
  · rfl

namespace Shape

mutual

/-- The lines of a shape cast nothing on, since a cast-on is put before them. -/
theorem castsOn_lines (fit : Fit) :
    ∀ (start : UInt32) (shape : Shape) {line : Instruction},
      line ∈ shape.lines fit start → line.castsOn = false
  | start, .node segment [], line, member => by
    rw [lines, List.mem_append] at member
    -- Behind its own lines, a leaf has only the line that binds off.
    rcases member with own | ending
    · exact Segment.castsOn_ownLines own
    · rw [List.mem_singleton.mp ending]
      rfl
  | start, .node segment [only], line, member => by
    rw [lines, List.mem_append] at member
    rcases member with own | continued
    · exact Segment.castsOn_ownLines own
    · split at continued
      · exact castsOn_lines fit _ only continued
      · rw [List.mem_singleton.mp continued]
        rfl
  | start, .node segment (first :: second :: rest), line, member => by
    rw [lines, List.mem_append, List.mem_cons] at member
    -- A branching node has the line that divides, and then the lines of its sections.
    rcases member with own | rfl | sections
    · exact Segment.castsOn_ownLines own
    · rfl
    · exact castsOn_sectionLines fit _ 1 (first :: second :: rest) sections

/-- The lines of sections cast nothing on. -/
theorem castsOn_sectionLines (fit : Fit) :
    ∀ (start : UInt32) (index : Nat) (shapes : List Shape) {line : Instruction},
      line ∈ sectionLines fit start index shapes → line.castsOn = false
  | _, _, [], _, member => by simp [sectionLines] at member
  | start, index, shape :: shapes, line, member => by
    rw [sectionLines, List.mem_append] at member
    rcases member with head | later
    · -- A knitted section starts with its header; one without rows is bound off at once.
      split at head
      · rcases List.mem_cons.mp head with rfl | within
        · rfl
        · exact castsOn_lines fit start shape within
      · rw [List.mem_singleton.mp head]
        rfl
    · exact castsOn_sectionLines fit start (index + 1) shapes later

end

/--
The row numbers on every way from the first row on stay within their word; the last of them may be
the last number there is, behind which no further one is left.
-/
def NumbersHeld (fit : Fit) (start : UInt32) (shape : Shape) : Prop :=
  ∀ way, Visited fit shape way →
    start.toNat + (shape.rowsBefore fit way + shape.rowsAt fit way) ≤ 2 ^ 32

/-- Row numbers behind which one more is left stay within their word. -/
theorem NumbersLast.numbersHeld {fit : Fit} {start : UInt32} {shape : Shape}
    (last : shape.NumbersLast fit start) : shape.NumbersHeld fit start :=
  fun way visited => (last way visited).le

/-- The plan of the root is among the plans of its shape. -/
theorem plan_mem_plans (fit : Fit) (start : UInt32) (shape : Shape) :
    shape.segment.plan fit start ∈ shape.plans fit start := by
  obtain ⟨segment, successors⟩ := shape
  rw [plans]
  exact List.mem_cons_self

/-- The rows of the root are numbered from the start on. -/
theorem plan_numbers_root {fit : Fit} {start : UInt32} {shape : Shape}
    (held : shape.NumbersHeld fit start) :
    (shape.segment.plan fit start).rows.map (fun row => row.number.toNat)
      = List.range' start.toNat (shape.segment.knittedRows fit) := by
  -- The way to the root is empty, and so no rows come before it.
  have inside := held [] Visited.root
  rw [show shape.rowsBefore fit [] = 0 from rfl, Nat.zero_add] at inside
  exact Segment.plan_numbers inside

/-- The rows below the root are numbered behind all rows of the root. -/
theorem number_below_root {fit : Fit} {start : UInt32} {shape : Shape} {index : Nat}
    {way : List Nat} {row : Row} (held : shape.NumbersHeld fit start)
    (visited : Visited fit shape (index :: way))
    (member : row ∈ (shape.planAt fit start (index :: way)).rows) :
    start.toNat + shape.segment.knittedRows fit ≤ row.number.toNat := by
  -- The rows of the root are the first of those before the end of the way.
  obtain ⟨child, taken, _, _⟩ := visited_cons.mp visited
  have numbers := planAt_numbers (held _ visited)
  have among := List.mem_map_of_mem (f := fun row : Row => row.number.toNat) member
  rw [numbers, List.mem_range'_1, rowsBefore_cons taken] at among
  omega

/-- The first row of the root is numbered below all other rows of the timeline. -/
theorem first_number_lt {fit : Fit} {start : UInt32} {shape : Shape} {first row : Row}
    (held : shape.NumbersHeld fit start)
    (begins : (shape.segment.plan fit start).first? = some first)
    (member : row ∈ (shape.plans fit start).flatMap StitchPlan.rows) :
    row = first ∨ first.number < row.number := by
  obtain ⟨rest, rows⟩ := List.head?_eq_some_iff.mp begins
  have numbers := plan_numbers_root held
  rw [rows, List.map_cons] at numbers
  cases counted : shape.segment.knittedRows fit with
  -- A root without rows has no first one.
  | zero => simp [counted] at numbers
  | succ others =>
    rw [counted, List.range'_succ, List.cons.injEq] at numbers
    obtain ⟨firstNumber, restNumbers⟩ := numbers
    rw [UInt32.lt_iff_toNat_lt, firstNumber]
    rw [plans_eq_map, List.flatMap_map, List.mem_flatMap] at member
    obtain ⟨way, listed, within⟩ := member
    cases way with
    | nil =>
      -- The rows of the root itself count on from its first one.
      have root : shape.planAt fit start [] = shape.segment.plan fit start := by
        simp [planAt, nodeAt?, startAt, rowsBefore]
      rw [root, rows, List.mem_cons] at within
      rcases within with same | later
      · exact Or.inl same
      · have among := List.mem_map_of_mem (f := fun row : Row => row.number.toNat) later
        rw [restNumbers, List.mem_range'_1] at among
        exact Or.inr (by omega)
    | cons index way =>
      -- Every row of another node comes behind all rows of the root.
      have behind := number_below_root held (mem_visitedWays.mp listed) within
      exact Or.inr (by omega)

/-- The forked shape has seven rows at its root, and seven more behind a stretch without rows. -/
theorem forked_numbersLast_of_lt {start : UInt32} (inside : start.toNat + 14 < 2 ^ 32) :
    forked.NumbersLast Segment.leaningFit start := by
  intro way visited
  have listed := mem_visitedWays.mpr visited
  rw [show visitedWays Segment.leaningFit forked = [[], [1], [1, 0]] by decide] at listed
  -- There are three ways to the knitted nodes, and none has more than fourteen rows on it.
  have most : forked.rowsBefore Segment.leaningFit way + forked.rowsAt Segment.leaningFit way
      ≤ 14 := by
    simp only [List.mem_cons, List.not_mem_nil, or_false] at listed
    rcases listed with rfl | rfl | rfl
    · decide
    · decide
    · decide
  omega

end Shape

namespace Panel

/-- The rows of every knitted segment. -/
def rows (panel : Panel) : List Row :=
  panel.plans.flatMap StitchPlan.rows

/--
The first line casts on, no other line does, and its stitches are those of the one row that is
numbered below all others.
-/
def StartsWithCastOn (panel : Panel) : Prop :=
  ∃ row rest, panel.instructions = .castOn row.total :: rest ∧
    (∀ line ∈ rest, line.castsOn = false) ∧
    row ∈ panel.rows ∧ ∀ other ∈ panel.rows, other = row ∨ row.number < other.number

section Started

variable {panel : Panel} {shape : Shape}

/-- The lines of a panel are those of its shape, behind a cast-on if there is one. -/
theorem instructions_eq (given : panel.shape = some shape) :
    panel.instructions = shape.castOn panel.fit 1 ++ shape.lines panel.fit 1 := by
  simp [instructions, given, Shape.instructions]

/-- A root without rows gives no cast-on, and nothing below it does. -/
theorem castsOn_of_rowless (given : panel.shape = some shape)
    (rowless : shape.segment.knittedRows panel.fit = 0) :
    ∀ line ∈ panel.instructions, line.castsOn = false := by
  -- The cast-on takes its stitches from the first row of the root, and there is none.
  have none : shape.castOn panel.fit 1 = [] := by
    rw [Shape.castOn, Segment.plan_eq_empty 1 rowless]
    rfl
  rw [instructions_eq given, none, List.nil_append]
  exact fun _ => Shape.castsOn_lines panel.fit 1 shape

/-- A first row of the root is cast on, and nothing behind it casts on again. -/
theorem instructions_of_first (given : panel.shape = some shape) {first : Row}
    (begins : (shape.segment.plan panel.fit 1).first? = some first) :
    ∃ rest, panel.instructions = .castOn first.total :: rest ∧
      ∀ line ∈ rest, line.castsOn = false := by
  -- The cast-on comes first, and the lines of a shape have no other.
  refine ⟨shape.lines panel.fit 1, ?_, fun _ => Shape.castsOn_lines panel.fit 1 shape⟩
  rw [instructions_eq given, Shape.castOn, begins]
  rfl

end Started

/--
A panel has one cast-on, in front of all other lines, when its root has rows, and else it has none.

While the row numbers last, the first row of the root is the lowest of the panel, so that the panel
starts as it should exactly when its root has rows.
-/
theorem startsWithCastOn_iff {panel : Panel} {shape : Shape} (given : panel.shape = some shape) :
    (shape.segment.knittedRows panel.fit = 0 →
      ∀ line ∈ panel.instructions, line.castsOn = false) ∧
    (∀ first, (shape.segment.plan panel.fit 1).first? = some first →
      ∃ rest, panel.instructions = .castOn first.total :: rest ∧
        ∀ line ∈ rest, line.castsOn = false) ∧
    (shape.NumbersHeld panel.fit 1 →
      (panel.StartsWithCastOn ↔ 0 < shape.segment.knittedRows panel.fit)) := by
  refine ⟨castsOn_of_rowless given, fun _ => instructions_of_first given, ?_⟩
  intro held
  constructor
  · -- A cast-on in front would be among lines that cast nothing on.
    rintro ⟨row, rest, starts, _⟩
    by_contra rowless
    have castsNothing := castsOn_of_rowless given (by omega) (.castOn row.total)
      (by rw [starts]; exact List.mem_cons_self)
    cases castsNothing
  · -- The first row of the root is the one with the lowest number.
    intro positive
    obtain ⟨first, begins⟩ : ∃ first, (shape.segment.plan panel.fit 1).first? = some first := by
      rw [StitchPlan.first?, List.head?_eq_getElem?,
        shape.segment.plan_getElem? panel.fit 1 positive]
      exact ⟨_, rfl⟩
    obtain ⟨rest, lines, noOther⟩ := instructions_of_first given begins
    have rows : panel.rows = (shape.plans panel.fit 1).flatMap StitchPlan.rows := by
      simp [Panel.rows, plans, given]
    refine ⟨first, rest, lines, noOther, ?_, ?_⟩
    · rw [rows, List.mem_flatMap]
      exact ⟨_, shape.plan_mem_plans panel.fit 1, List.mem_of_head? begins⟩
    · intro other member
      rw [rows] at member
      exact Shape.first_number_lt held begins member

/-- A panel whose root has no height, and four inches of plain rows behind it. -/
def footless : Panel :=
  plain (some (.node (Segment.plain 0.0 4.0 4.0) [.node (Segment.plain 4.0 4.0 4.0) []]))
    Gauge.standard 1.0

/-- The footless panel has rows, but no stitches to knit them on. -/
theorem footless_not_startsWithCastOn :
    footless.instructions = [.knitRows 30 30 19, .bindOff 19] ∧ ¬ footless.StartsWithCastOn := by
  -- Its first line is one for rows, of the segment behind the root.
  have lines : footless.instructions = [.knitRows 30 30 19, .bindOff 19] := by decide +kernel
  refine ⟨lines, ?_⟩
  rintro ⟨row, rest, starts, _⟩
  rw [lines] at starts
  cases starts

/-- The forked shape on a panel. -/
def forked : Panel :=
  plain (some Shape.forked) Segment.leaningFit.gauge Segment.leaningFit.size

/-- The forked panel has rows enough left to number. -/
theorem forked_numbersHeld : Shape.forked.NumbersHeld forked.fit 1 :=
  (Shape.forked_numbersLast_of_lt (by decide)).numbersHeld

/-- The forked panel starts with a cast-on, which has the stitches of its first row. -/
theorem forked_startsWithCastOn :
    forked.shape = some Shape.forked ∧ Shape.forked.NumbersHeld forked.fit 1 ∧
      forked.StartsWithCastOn :=
  ⟨rfl, forked_numbersHeld,
    ((startsWithCastOn_iff rfl).2.2 forked_numbersHeld).mpr (by decide)⟩

end Panel

end FlatKnit
