import FlatKnit.Panel

/-! Row lines of a timeline: the instructions of a shape tell exactly the plans of its segments. -/

namespace FlatKnit

/-- Whether a line covers rows. -/
def Instruction.coversRows (line : Instruction) : Bool :=
  line.rows?.isSome

namespace StitchPlan

/-- Every line of the loop covers rows. -/
theorem coversRows_linesAfter {line : Instruction} {rest : List Row} :
    ∀ {previous : Row} {run : UInt32}, line ∈ linesAfter previous run rest →
      line.coversRows = true := by
  -- A row with the same counts gives no line of its own, and the last run one line at most.
  induction rest with
  | nil =>
    intro previous run member
    rw [linesAfter] at member
    split at member
    · rw [List.mem_singleton.mp member]
      rfl
    · simp at member
  | cons row rest ih =>
    intro previous run member
    rw [linesAfter] at member
    split at member
    · exact ih member
    · rcases List.mem_cons.mp member with rfl | member
      · rfl
      · exact ih member

/-- Every line of a plan covers rows. -/
theorem coversRows_compile {plan : StitchPlan} {line : Instruction}
    (member : line ∈ plan.compile) : line.coversRows = true := by
  -- A plan is told in no lines, in one line, or by the loop.
  unfold compile at member
  split at member
  · simp at member
  · dsimp only at member
    split at member
    · rw [List.mem_singleton.mp member]
      rfl
    · exact coversRows_linesAfter member

end StitchPlan

/-- The row lines of a segment are the lines of its plan; its notes cover no rows. -/
@[simp] theorem Segment.rowLines_ownLines (segment : Segment) (plan : StitchPlan) :
    (segment.ownLines plan).filter Instruction.coversRows = plan.compile := by
  -- The notes come after the lines, and the filter drops all of them.
  have notes : (segment.notes.map Instruction.note).filter Instruction.coversRows = [] := by
    simp [List.filter_eq_nil_iff, Instruction.coversRows, Instruction.rows?]
  rw [ownLines, List.filter_append, notes, List.append_nil, List.filter_eq_self]
  exact fun _ member => StitchPlan.coversRows_compile member

namespace Shape

mutual

/-- The row lines of a shape are the lines of its plans. -/
theorem rowLines_lines (fit : Fit) :
    ∀ (start : UInt32) (shape : Shape),
      (shape.lines fit start).filter Instruction.coversRows
        = (shape.plans fit start).flatMap StitchPlan.compile
  | start, .node segment [] => by
    simp [lines, plans, successorPlans, Instruction.coversRows, Instruction.rows?]
  | start, .node segment [only] => by
    -- A single successor is entered by both sides, or by neither.
    have continued := rowLines_lines fit ((segment.plan fit start).nextRow start) only
    cases knitted : only.segment.isKnitted fit with
    | true => simp [lines, plans, successorPlans, knitted, continued]
    | false =>
      simp [lines, plans, successorPlans, knitted, Instruction.coversRows, Instruction.rows?]
  | start, .node segment (first :: second :: rest) => by
    have sections := rowLines_sectionLines fit ((segment.plan fit start).nextRow start) 1
      (first :: second :: rest)
    rw [lines, plans, List.filter_append, Segment.rowLines_ownLines, List.flatMap_cons, ← sections]
    rfl

/-- The row lines of sections are the lines of the plans of those that are knitted. -/
theorem rowLines_sectionLines (fit : Fit) :
    ∀ (start : UInt32) (index : Nat) (shapes : List Shape),
      (sectionLines fit start index shapes).filter Instruction.coversRows
        = (successorPlans fit start shapes).flatMap StitchPlan.compile
  | _, _, [] => rfl
  | start, index, shape :: shapes => by
    have head := rowLines_lines fit start shape
    have tail := rowLines_sectionLines fit start (index + 1) shapes
    rw [sectionLines, successorPlans, List.filter_append, List.flatMap_append, tail]
    -- Neither the header of a section nor its bind-off covers rows.
    congr 1
    cases shape.segment.isKnitted fit with
    | true => exact head
    | false => rfl

end

/-- A cast-on covers no rows. -/
theorem rowLines_castOn (fit : Fit) (start : UInt32) (shape : Shape) :
    (shape.castOn fit start).filter Instruction.coversRows = [] := by
  -- There is one line to cast on, or none for a root without rows.
  unfold castOn
  split <;> rfl

/-- The row lines of the instructions of a shape, with or without a cast-on before them. -/
theorem rowLines_shape (fit : Fit) (start : UInt32) (isRoot : Bool) (shape : Shape) :
    (shape.instructions fit start isRoot).filter Instruction.coversRows
      = (shape.plans fit start).flatMap StitchPlan.compile := by
  -- The cast-on is the only difference, and it covers no rows.
  have root := shape.rowLines_castOn fit start
  rw [instructions, List.filter_append, rowLines_lines fit start shape]
  cases isRoot <;> simp [root]

/--
The row lines of the instructions of a shape are the lines of its plans, one plan after another,
and those of a panel are the lines of the plans of the panel.
-/
theorem rowLines_instructions :
    (∀ (fit : Fit) (start : UInt32) (isRoot : Bool) (shape : Shape),
      (shape.instructions fit start isRoot).filter Instruction.coversRows
        = (shape.plans fit start).flatMap StitchPlan.compile) ∧
    ∀ panel : Panel, panel.instructions.filter Instruction.coversRows
      = panel.plans.flatMap StitchPlan.compile := by
  refine ⟨rowLines_shape, ?_⟩
  -- A panel knits its shape from the first row on, and without a shape it has no lines.
  intro panel
  unfold Panel.instructions Panel.plans
  cases panel.shape with
  | none => rfl
  | some shape => exact rowLines_shape panel.fit 1 true shape

end Shape

end FlatKnit
