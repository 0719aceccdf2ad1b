import FlatKnit.Proofs.Shape.CastOn

/-! Renumbering: a timeline that starts later is the same one, with all its row numbers moved on. -/

namespace FlatKnit

/-- The row with its number moved on. -/
def Row.renumbered (offset : UInt32) (row : Row) : Row :=
  { row with number := row.number + offset }

/-- The plan with all its row numbers moved on. -/
def StitchPlan.renumbered (offset : UInt32) (plan : StitchPlan) : StitchPlan :=
  ⟨plan.rows.map (Row.renumbered offset)⟩

/-- The line with its row counter moved on; a line without one stays as it is. -/
def Instruction.renumbered (offset : UInt32) : Instruction → Instruction
  | knitRows rows counter stitches => knitRows rows (counter + offset) stitches
  | shaping left right rows counter stitches => shaping left right rows (counter + offset) stitches
  | line => line

section Renumbered

variable (offset : UInt32)

/-- Moving both numbers on changes no counts. -/
@[simp] theorem Row.sameCounts_renumbered (row other : Row) :
    (row.renumbered offset).sameCounts (other.renumbered offset) = row.sameCounts other :=
  rfl

/-- A row keeps its stitches when its number is moved on. -/
@[simp] theorem Row.total?_renumbered (row : Row) :
    (row.renumbered offset).total? = row.total? :=
  rfl

/-- The counter of a line is moved on, if there is one. -/
@[simp] theorem Instruction.counter?_renumbered (line : Instruction) :
    (line.renumbered offset).counter? = line.counter?.map (· + offset) := by
  cases line <;> rfl

namespace StitchPlan

/-- The first row of a renumbered plan is that of the plan, renumbered. -/
@[simp] theorem first?_renumbered (plan : StitchPlan) :
    (plan.renumbered offset).first? = plan.first?.map (Row.renumbered offset) :=
  List.head?_map

/-- The last row of a renumbered plan is that of the plan, renumbered. -/
@[simp] theorem last?_renumbered (plan : StitchPlan) :
    (plan.renumbered offset).last? = plan.last?.map (Row.renumbered offset) :=
  List.getLast?_map

/-- The row after a renumbered plan is moved on by as much as the plan. -/
theorem nextRow_renumbered (plan : StitchPlan) (start : UInt32) :
    (plan.renumbered offset).nextRow (start + offset) = plan.nextRow start + offset := by
  -- A plan without rows stays at its start, which is moved on as well.
  rw [nextRow, nextRow, last?_renumbered]
  cases plan.last? with
  | none => rfl
  | some row =>
    show row.number + offset + 1 = row.number + 1 + offset
    rw [UInt32.add_assoc, UInt32.add_comm offset, ← UInt32.add_assoc]

/-- The loop tells renumbered rows by renumbered lines. -/
theorem linesAfter_renumbered {rest : List Row} :
    ∀ (previous : Row) (run : UInt32),
      linesAfter (previous.renumbered offset) run (rest.map (Row.renumbered offset))
        = (linesAfter previous run rest).map (Instruction.renumbered offset) := by
  -- The loop compares counts and passes numbers on, so that both runs take the same branches.
  induction rest with
  | nil =>
    intro previous run
    rw [List.map_nil, linesAfter, linesAfter]
    split <;> rfl
  | cons row rest ih =>
    intro previous run
    rw [List.map_cons, linesAfter, linesAfter, Row.sameCounts_renumbered]
    split
    · exact ih row (run + 1)
    · rw [List.map_cons, ih row 0]
      rfl

/-- The last of renumbered rows is the last one, renumbered. -/
theorem getLastD_renumbered (first : Row) (rest : List Row) :
    (rest.map (Row.renumbered offset)).getLastD (first.renumbered offset)
      = (rest.getLastD first).renumbered offset := by
  rw [List.getLastD_eq_getLast?, List.getLast?_map, List.getLastD_eq_getLast?, Option.getD_map]

/-- A renumbered plan is told by renumbered lines. -/
theorem compile_renumbered (plan : StitchPlan) :
    (plan.renumbered offset).compile = plan.compile.map (Instruction.renumbered offset) := by
  obtain ⟨rows⟩ := plan
  cases rows with
  | nil => rfl
  | cons first rest =>
    -- The end that the plan is compared with is the renumbered one, and has the same counts.
    simp only [compile, renumbered, List.map_cons, getLastD_renumbered, Row.sameCounts_renumbered,
      List.length_cons, List.length_map]
    split
    · rfl
    · exact linesAfter_renumbered offset first 1

/-- The checked loop tells renumbered rows by renumbered lines, or tells neither. -/
theorem linesAfter?_renumbered {rest : List Row} :
    ∀ (previous : Row) (run : UInt32),
      linesAfter? (previous.renumbered offset) run (rest.map (Row.renumbered offset))
        = (linesAfter? previous run rest).map (List.map (Instruction.renumbered offset)) := by
  induction rest with
  | nil =>
    intro previous run
    rw [List.map_nil, linesAfter?, linesAfter?, Row.total?_renumbered]
    split
    · cases previous.total? <;> rfl
    · rfl
  | cons row rest ih =>
    intro previous run
    rw [List.map_cons, linesAfter?, linesAfter?, Row.sameCounts_renumbered,
      Row.total?_renumbered]
    -- No check of the loop looks at a row number.
    cases numberAfter? run with
    | none => rfl
    | some longer =>
      simp only [Option.bind_eq_bind, Option.bind_some]
      split
      · exact ih row longer
      · rw [ih row 0]
        simp only [Row.renumbered, Option.map_bind, Option.bind_map, Function.comp_def]
        rfl

/-- A renumbered plan is told by renumbered lines, or neither plan is told. -/
theorem compile?_renumbered (plan : StitchPlan) :
    (plan.renumbered offset).compile?
      = plan.compile?.map (List.map (Instruction.renumbered offset)) := by
  obtain ⟨rows⟩ := plan
  cases rows with
  | nil => rfl
  | cons first rest =>
    simp only [compile?, renumbered, List.map_cons, getLastD_renumbered, Row.sameCounts_renumbered,
      Row.total?_renumbered, List.length_cons, List.length_map]
    split
    · cases (rest.getLastD first).total? <;> rfl
    · exact linesAfter?_renumbered offset first 1

/-- Lines of the loop count up to rows that it has passed. -/
theorem counter_mem_linesAfter {line : Instruction} {counter : UInt32} {rest : List Row} :
    ∀ {previous : Row} {run : UInt32}, line ∈ linesAfter previous run rest →
      line.counter? = some counter → ∃ row ∈ previous :: rest, row.number = counter := by
  -- The loop counts up to the row before the one where a new line is due, or to the last.
  induction rest with
  | nil =>
    intro previous run member counted
    rw [linesAfter] at member
    split at member
    · obtain rfl := List.mem_singleton.mp member
      exact ⟨previous, List.mem_cons_self, Option.some.inj counted⟩
    · cases member
  | cons row rest ih =>
    intro previous run member counted
    rw [linesAfter] at member
    split at member
    · obtain ⟨found, among, named⟩ := ih member counted
      exact ⟨found, List.mem_cons_of_mem _ among, named⟩
    · rcases List.mem_cons.mp member with rfl | later
      · exact ⟨row, by simp, Option.some.inj counted⟩
      · obtain ⟨found, among, named⟩ := ih later counted
        exact ⟨found, List.mem_cons_of_mem _ among, named⟩

/-- The counter of each line of a plan is the number of one of its rows. -/
theorem counter_mem_compile {plan : StitchPlan} {line : Instruction} {counter : UInt32}
    (member : line ∈ plan.compile) (counted : line.counter? = some counter) :
    ∃ row ∈ plan.rows, row.number = counter := by
  unfold compile at member
  split at member
  · cases member
  · rename_i first rest listed
    dsimp only at member
    rw [listed]
    split at member
    · -- One line for the whole plan counts up to its last row.
      obtain rfl := List.mem_singleton.mp member
      exact ⟨rest.getLastD first, List.getLastD_mem_cons, Option.some.inj counted⟩
    · exact counter_mem_linesAfter member counted

end StitchPlan

namespace Segment

variable (segment : Segment) (fit : Fit)

/-- A plan that starts later is the same plan, renumbered. -/
theorem plan_renumbered (start : UInt32) :
    segment.plan fit (start + offset) = (segment.plan fit start).renumbered offset := by
  have rows : (segment.plan fit (start + offset)).rows
      = (segment.plan fit start).rows.map (Row.renumbered offset) := by
    -- The row at a position is the same up to its number, which counts on from the start.
    rw [plan_rows, plan_rows, List.map_map]
    apply List.map_congr_left
    intro index _
    show segment.rowAfter fit (start + offset + UInt32.ofNat index) index
      = segment.rowAfter fit (start + UInt32.ofNat index + offset) index
    rw [UInt32.add_assoc, UInt32.add_comm offset, ← UInt32.add_assoc]
  rw [StitchPlan.renumbered, ← rows]

/-- Renumbering leaves the stitches after a segment alone. -/
@[simp] theorem finalStitches_renumbered (plan : StitchPlan) :
    segment.finalStitches fit (plan.renumbered offset) = segment.finalStitches fit plan := by
  -- The last row keeps its stitches, only its number is another.
  rw [finalStitches, finalStitches, StitchPlan.last?_renumbered]
  cases plan.last? <;> rfl

/-- The lines of a segment alone are renumbered with its plan, and its notes have no numbers. -/
theorem ownLines_renumbered (plan : StitchPlan) :
    segment.ownLines (plan.renumbered offset)
      = (segment.ownLines plan).map (Instruction.renumbered offset) := by
  -- Its notes have no number to move.
  rw [ownLines, ownLines, List.map_append, StitchPlan.compile_renumbered, List.map_map]
  rfl

end Segment

namespace Shape

mutual

/-- The lines of a shape that starts later are the same lines, renumbered. -/
theorem lines_renumbered (fit : Fit) :
    ∀ (start : UInt32) (shape : Shape),
      shape.lines fit (start + offset)
        = (shape.lines fit start).map (Instruction.renumbered offset)
  | start, .node segment [] => by
    rw [lines, lines, Segment.plan_renumbered, Segment.ownLines_renumbered,
      Segment.finalStitches_renumbered, List.map_append]
    rfl
  | start, .node segment [only] => by
    -- The successor starts at the next row, which is moved on like the start.
    have continued := lines_renumbered fit ((segment.plan fit start).nextRow start) only
    rw [lines, lines, Segment.plan_renumbered, Segment.ownLines_renumbered,
      StitchPlan.nextRow_renumbered, List.map_append]
    congr 1
    split
    · exact continued
    · rfl
  | start, .node segment (first :: second :: rest) => by
    have sections := sectionLines_renumbered fit ((segment.plan fit start).nextRow start) 1
      (first :: second :: rest)
    rw [lines, lines, Segment.plan_renumbered, Segment.ownLines_renumbered,
      StitchPlan.nextRow_renumbered, List.map_append, List.map_cons, sections]
    rfl

/-- The lines of sections that start later are the same lines, renumbered. -/
theorem sectionLines_renumbered (fit : Fit) :
    ∀ (start : UInt32) (index : Nat) (shapes : List Shape),
      sectionLines fit (start + offset) index shapes
        = (sectionLines fit start index shapes).map (Instruction.renumbered offset)
  | _, _, [] => rfl
  | start, index, shape :: shapes => by
    have entered := lines_renumbered fit start shape
    rw [sectionLines, sectionLines, List.map_append,
      sectionLines_renumbered fit start (index + 1) shapes]
    congr 1
    -- A header has no number, and neither has the line that binds a section off.
    split
    · rw [List.map_cons, entered]
      rfl
    · rfl

end

mutual

/-- The plans of a shape that starts later are the same plans, renumbered. -/
theorem plans_renumbered (fit : Fit) :
    ∀ (start : UInt32) (shape : Shape),
      shape.plans fit (start + offset)
        = (shape.plans fit start).map (StitchPlan.renumbered offset)
  | start, .node segment successors => by
    -- The successors start on the row after those of the root, and that row is moved along with
    -- them.
    rw [plans, plans, List.map_cons, Segment.plan_renumbered, StitchPlan.nextRow_renumbered,
      successorPlans_renumbered fit ((segment.plan fit start).nextRow start) successors]

/-- The plans of successors that start later are the same plans, renumbered. -/
theorem successorPlans_renumbered (fit : Fit) :
    ∀ (start : UInt32) (shapes : List Shape),
      successorPlans fit (start + offset) shapes
        = (successorPlans fit start shapes).map (StitchPlan.renumbered offset)
  | _, [] => rfl
  | start, shape :: shapes => by
    -- All successors start on the same row, and so all of them are moved by the same offset.
    rw [successorPlans, successorPlans, List.map_append, plans_renumbered fit start shape,
      successorPlans_renumbered fit start shapes]
    split <;> rfl

end

/-- The cast-on has the stitches of the first row, whatever its number is. -/
theorem castOn_renumbered (fit : Fit) (start : UInt32) (shape : Shape) :
    shape.castOn fit (start + offset)
      = (shape.castOn fit start).map (Instruction.renumbered offset) := by
  -- The first row keeps its stitches, only its number is another.
  rw [castOn, castOn, Segment.plan_renumbered, StitchPlan.first?_renumbered]
  cases (shape.segment.plan fit start).first? <;> rfl

/-- The instructions of a shape that starts later are the same instructions, renumbered. -/
theorem instructions_eq_renumbered (fit : Fit) (start : UInt32) (isRoot : Bool) (shape : Shape) :
    shape.instructions fit (start + offset) isRoot
      = (shape.instructions fit start isRoot).map (Instruction.renumbered offset) := by
  -- Only the lines for rows have a number in them, and the cast-on has none.
  rw [instructions, instructions, List.map_append, lines_renumbered offset fit start shape]
  cases isRoot with
  | true => rw [if_pos rfl, if_pos rfl, castOn_renumbered]
  | false => rfl

variable {fit : Fit} {start : UInt32} {shape : Shape} {offset}

/-- The row numbers of a timeline can be moved on as long as the moved ones stay in their word. -/
theorem toNat_number_add (inside : start.toNat + offset.toNat < 2 ^ 32)
    (held : shape.NumbersHeld fit (start + offset)) {plan : StitchPlan} {row : Row}
    (listed : plan ∈ shape.plans fit start) (member : row ∈ plan.rows) :
    (row.number + offset).toNat = row.number.toNat + offset.toNat := by
  rw [plans_eq_map, List.mem_map] at listed
  obtain ⟨way, among, rfl⟩ := listed
  -- The numbers of the plan lie below the end of the way, and that is moved on within the word.
  have last := held way (mem_visitedWays.mp among)
  have moved : (start + offset).toNat = start.toNat + offset.toNat := by
    rw [UInt32.toNat_add, Nat.mod_eq_of_lt inside]
  rw [moved] at last
  have numbers : (shape.planAt fit start way).rows.map (fun row => row.number.toNat)
      = _ := planAt_numbers (by omega)
  have number : row.number.toNat
      ∈ (shape.planAt fit start way).rows.map (fun row => row.number.toNat) :=
    List.mem_map_of_mem member
  rw [numbers, List.mem_range'_1] at number
  rw [UInt32.toNat_add, Nat.mod_eq_of_lt (by omega)]

/-- The plans of a timeline that is moved on within its word can be made when its own can. -/
theorem plansHeld_renumbered (inside : start.toNat + offset.toNat < 2 ^ 32)
    (last : shape.NumbersLast fit (start + offset)) :
    shape.PlansHeld fit (start + offset) ↔ shape.PlansHeld fit start := by
  -- The sums have no part in the numbers, and the numbers before the move are smaller.
  refine ⟨fun held => ⟨held.sums, fun way visited => ?_⟩, fun held => ⟨held.sums, last⟩⟩
  have moved := last way visited
  rw [UInt32.toNat_add, Nat.mod_eq_of_lt inside] at moved
  omega

/-- The checked plans of a timeline that is moved on within its word are renumbered, too. -/
theorem plans?_renumbered (inside : start.toNat + offset.toNat < 2 ^ 32)
    (last : shape.NumbersLast fit (start + offset)) :
    shape.plans? fit (start + offset)
      = (shape.plans? fit start).map (List.map (StitchPlan.renumbered offset)) := by
  ext plans
  simp only [plans?_eq_some_iff, Option.map_eq_some_iff, plansHeld_renumbered inside last,
    plans_renumbered]
  constructor
  · rintro ⟨held, rfl⟩
    exact ⟨_, ⟨held, rfl⟩, rfl⟩
  · rintro ⟨_, ⟨held, rfl⟩, rfl⟩
    exact ⟨held, rfl⟩

/-- A timeline that is moved on within its word is told when it is told where it was. -/
theorem isTold_renumbered (inside : start.toNat + offset.toNat < 2 ^ 32)
    (last : shape.NumbersLast fit (start + offset)) :
    shape.IsTold fit (start + offset) ↔ shape.IsTold fit start := by
  simp only [IsTold, plans?_renumbered inside last, Option.map_eq_some_iff]
  constructor
  · rintro ⟨_, ⟨plans, there, rfl⟩, told⟩
    refine ⟨plans, there, fun plan listed => ?_⟩
    simpa [StitchPlan.compile?_renumbered] using told _ (List.mem_map_of_mem listed)
  · rintro ⟨plans, there, told⟩
    refine ⟨_, ⟨plans, there, rfl⟩, ?_⟩
    simpa [StitchPlan.compile?_renumbered] using told

/-- The checked instructions of a timeline that is moved on within its word are renumbered, too. -/
theorem instructions?_renumbered (inside : start.toNat + offset.toNat < 2 ^ 32)
    (last : shape.NumbersLast fit (start + offset)) (isRoot : Bool) :
    shape.instructions? fit (start + offset) isRoot
      = (shape.instructions? fit start isRoot).map (List.map (Instruction.renumbered offset)) := by
  -- The first row has the stitches that it had, so that the cast-on is a word as before.
  have begins : (∀ row, (shape.segment.plan fit (start + offset)).first? = some row →
      row.TotalHeld) ↔ ∀ row, (shape.segment.plan fit start).first? = some row → row.TotalHeld := by
    rw [Segment.plan_renumbered, StitchPlan.first?_renumbered]
    cases (shape.segment.plan fit start).first? <;> simp [Row.TotalHeld, Row.renumbered]
  ext lines
  simp only [instructions?_eq_some_iff, Option.map_eq_some_iff, isTold_renumbered inside last,
    begins, instructions_eq_renumbered]
  constructor
  · rintro ⟨held, rfl⟩
    exact ⟨_, ⟨held, rfl⟩, rfl⟩
  · rintro ⟨_, ⟨held, rfl⟩, rfl⟩
    exact ⟨held, rfl⟩

/-- The counter of a line is the number of a row of the timeline. -/
theorem counter_mem_instructions {isRoot : Bool} {line : Instruction} {counter : UInt32}
    (member : line ∈ shape.instructions fit start isRoot)
    (counted : line.counter? = some counter) :
    ∃ plan ∈ shape.plans fit start, ∃ row ∈ plan.rows, row.number = counter := by
  -- A line with a counter covers rows, and such lines are those of the plans.
  have covers : line.coversRows = true := by
    cases line <;> simp_all [Instruction.counter?, Instruction.coversRows, Instruction.rows?]
  have among := List.mem_filter.mpr ⟨member, covers⟩
  rw [rowLines_shape, List.mem_flatMap] at among
  obtain ⟨plan, listed, told⟩ := among
  exact ⟨plan, listed, StitchPlan.counter_mem_compile told counted⟩

end Shape

end Renumbered

namespace Shape

/--
A timeline that starts later has the same lines and plans, with all counters and row numbers moved
on, and they are greater by the offset as long as they stay in their word. With every step checked
it comes out exactly when it does without the move, while a number is left behind its last row.

As a root it has in addition the cast-on for the first row of the root, if the root has rows.
-/
theorem instructions_renumbered (fit : Fit) (start offset : UInt32) (shape : Shape) :
    (∀ isRoot, shape.instructions fit (start + offset) isRoot
      = (shape.instructions fit start isRoot).map (Instruction.renumbered offset)) ∧
    shape.plans fit (start + offset)
      = (shape.plans fit start).map (StitchPlan.renumbered offset) ∧
    (start.toNat + offset.toNat < 2 ^ 32 → shape.NumbersHeld fit (start + offset) →
      (∀ plan ∈ shape.plans fit start, ∀ row ∈ plan.rows,
        (row.number + offset).toNat = row.number.toNat + offset.toNat) ∧
      ∀ isRoot, ∀ line ∈ shape.instructions fit start isRoot, ∀ counter,
        line.counter? = some counter →
          (counter + offset).toNat = counter.toNat + offset.toNat) ∧
    (start.toNat + offset.toNat < 2 ^ 32 → shape.NumbersLast fit (start + offset) →
      (∀ isRoot, shape.instructions? fit (start + offset) isRoot
        = (shape.instructions? fit start isRoot).map (List.map (Instruction.renumbered offset))) ∧
      shape.plans? fit (start + offset)
        = (shape.plans? fit start).map (List.map (StitchPlan.renumbered offset))) ∧
    (∀ first, (shape.segment.plan fit start).first? = some first →
      shape.instructions fit start true
        = .castOn first.total :: shape.instructions fit start false) ∧
    ((shape.segment.plan fit start).rows = [] →
      shape.instructions fit start true = shape.instructions fit start false) := by
  refine ⟨?_, plans_renumbered offset fit start shape, ?_, ?_, ?_, ?_⟩
  · exact fun isRoot => instructions_eq_renumbered offset fit start isRoot shape
  · -- Both say of numbers that are told that they do not pass the end of their word.
    intro inside held
    refine ⟨fun plan listed row member => toNat_number_add inside held listed member, ?_⟩
    intro isRoot line member counter counted
    obtain ⟨plan, listed, row, among, rfl⟩ := counter_mem_instructions member counted
    exact toNat_number_add inside held listed among
  · intro inside last
    exact ⟨instructions?_renumbered inside last, plans?_renumbered inside last⟩
  · intro first begins
    rw [instructions, if_pos rfl, castOn, begins]
    rfl
  · intro rowless
    have none : (shape.segment.plan fit start).first? = none := by
      rw [StitchPlan.first?, rowless, List.head?_nil]
    rw [instructions, if_pos rfl, castOn, none]
    rfl

/-- The rows of the forked shape from row forty on are moved on by eighty-two. -/
theorem forked_renumbered :
    (40 : UInt32).toNat + (82 : UInt32).toNat < 2 ^ 32 ∧
      forked.NumbersHeld Segment.leaningFit (40 + 82) ∧
      forked.NumbersLast Segment.leaningFit (40 + 82) ∧
      (∀ plan ∈ forked.plans Segment.leaningFit 40, ∀ row ∈ plan.rows,
        (row.number + 82).toNat = row.number.toNat + 82) ∧
      forked.plans? Segment.leaningFit (40 + 82)
        = (forked.plans? Segment.leaningFit 40).map (List.map (StitchPlan.renumbered 82)) := by
  have last : forked.NumbersLast Segment.leaningFit (40 + 82) :=
    forked_numbersLast_of_lt (by decide)
  have held := last.numbersHeld
  obtain ⟨_, _, moved, checked, _⟩ := instructions_renumbered Segment.leaningFit 40 82 forked
  exact ⟨by decide, held, last, (moved (by decide) held).1, (checked (by decide) last).2⟩

end Shape

end FlatKnit
