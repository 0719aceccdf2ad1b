import FlatKnit.Proofs.Plan.Replay

/-! Stretches of rows: the lines of a plan divide its rows, and when they give all of them back. -/

namespace FlatKnit

/-- The stitches of a tally on either side of the centreline. -/
def Tally.counts (tally : Tally) : Int64 × Int64 :=
  (tally.left, tally.right)

/-- The stitches of a row on either side of the centreline. -/
def Row.counts (row : Row) : Int64 × Int64 :=
  (row.left, row.right)

instance (row later : Row) : Decidable (row.Contiguous later) :=
  inferInstanceAs (Decidable (_ = _))

/-- A row has the counts of its tally. -/
@[simp] theorem Row.counts_tally (row : Row) : row.tally.counts = row.counts :=
  rfl

/-- Rows have the same counts when their pairs of counts are equal. -/
theorem Row.sameCounts_iff_counts (row other : Row) :
    row.sameCounts other = true ↔ row.counts = other.counts := by
  rw [sameCounts_iff, counts, counts, Prod.mk.injEq]

/-- Plain rows all have the counts that they are knitted on. -/
theorem Tally.map_counts_plainRows (tally : Tally) (count : Nat) :
    (tally.plainRows count).map counts = List.replicate count tally.counts := by
  -- A plain row moves the number on, and leaves both sides alone.
  rw [plainRows, List.map_map, List.eq_replicate_iff]
  refine ⟨by simp, ?_⟩
  intro pair member
  obtain ⟨index, _, rfl⟩ := List.mem_map.mp member
  rfl

/-- A line covers a stretch of rows: it counts them, and names the last of them and its stitches. -/
structure CoversStretch (line : Instruction) (stretch : List Row) : Prop where
  someRow : stretch ≠ []
  counted : line.rows?.map UInt32.toNat = some stretch.length
  counter : line.counter? = stretch.getLast?.map Row.number
  inWork : line.inWork? = stretch.getLast?.map Row.total

/-- A line that counts a stretch covers it when it names the last row of the stretch. -/
theorem CoversStretch.of_last {line : Instruction} {stretch : List Row} {last : Row} {rows : UInt32}
    (ends : stretch.getLast? = some last) (told : line.rows? = some rows)
    (counted : rows.toNat = stretch.length) (counter : line.counter? = some last.number)
    (inWork : line.inWork? = some last.total) : CoversStretch line stretch := by
  refine ⟨?_, ?_, ?_, ?_⟩
  · -- A stretch with a last row has a row.
    rintro rfl
    simp at ends
  · rw [told, Option.map_some, counted]
  · rw [ends, counter, Option.map_some]
  · rw [ends, inWork, Option.map_some]

section Covered

variable {lines : List Instruction} {stretches : List (List Row)}

/-- Each of the lines that cover stretches covers some row. -/
theorem someRow_of_covered (covered : List.Forall₂ CoversStretch lines stretches) :
    ∀ line ∈ lines, ∃ rows, line.rows? = some rows ∧ 0 < rows := by
  -- A stretch is never empty, and the line over it counts its rows.
  induction covered with
  | nil => simp
  | @cons line stretch lines stretches covers covered ih =>
    rw [List.forall_mem_cons]
    refine ⟨?_, ih⟩
    obtain ⟨rows, told, counted⟩ := Option.map_eq_some_iff.mp covers.counted
    refine ⟨rows, told, ?_⟩
    rw [UInt32.lt_iff_toNat_lt, counted]
    exact List.length_pos_iff.mpr covers.someRow

/-- Lines that cover stretches count as many rows as the stretches have together. -/
theorem sum_rows_of_covered (covered : List.Forall₂ CoversStretch lines stretches) :
    ((lines.filterMap Instruction.rows?).map UInt32.toNat).sum = stretches.flatten.length := by
  -- Every line counts the rows of its own stretch.
  induction covered with
  | nil => rfl
  | @cons line stretch lines stretches covers covered ih =>
    obtain ⟨rows, told, counted⟩ := Option.map_eq_some_iff.mp covers.counted
    rw [List.filterMap_cons_some told, List.map_cons, List.sum_cons, ih, counted,
      List.flatten_cons, List.length_append]

/-- The last of the lines that cover stretches names the last row of all. -/
theorem counter_last_of_covered (covered : List.Forall₂ CoversStretch lines stretches) :
    lines.getLast?.bind Instruction.counter? = stretches.flatten.getLast?.map Row.number := by
  -- Stretches have rows, so that the last row of all is in the last stretch.
  induction covered with
  | nil => rfl
  | @cons line stretch lines stretches covers covered ih =>
    cases covered with
    | nil => simpa using covers.counter
    | @cons next nextStretch lines stretches nextCovers covered =>
      have later : (nextStretch :: stretches).flatten ≠ [] := by
        simp [nextCovers.someRow]
      rw [List.getLast?_cons_cons, ih, ← List.getLast?_append_of_ne_nil stretch later,
        ← List.flatten_cons]

end Covered

namespace StitchPlan

/--
Whether the ends of a plan show that its rows are shaped.

Either the last row has other counts than the first, or no row has other counts than another.
-/
def ShowsAtEnds (plan : StitchPlan) : Prop :=
  plan.first?.map Row.counts ≠ plan.last?.map Row.counts ∨
    ∀ row ∈ plan.rows, ∀ other ∈ plan.rows, row.counts = other.counts

instance (plan : StitchPlan) : Decidable plan.ShowsAtEnds :=
  inferInstanceAs (Decidable (_ ∨ _))

/-- The lines of the loop cover the rows that are knitted but not yet told, and all rows after. -/
theorem stretches_linesAfter {rest : List Row} :
    ∀ (previous : Row) (run : UInt32) (pending : List Row), run.toNat = pending.length →
      (pending ≠ [] → pending.getLast? = some previous) → run.toNat + rest.length < 2 ^ 32 →
      ∃ stretches, stretches.flatten = pending ++ rest ∧
        List.Forall₂ CoversStretch (linesAfter previous run rest) stretches := by
  -- The run counts the pending rows, which the next line covers together with the row it ends on.
  induction rest with
  | nil =>
    intro previous run pending counted reached _
    rw [linesAfter]
    split
    · -- Pending rows are left over, and the last line covers them.
      rename_i someRun
      have someRow : pending ≠ [] := by
        rintro rfl
        rw [UInt32.lt_iff_toNat_lt, counted] at someRun
        simp at someRun
      have covers : CoversStretch (.knitRows run previous.number previous.total) pending :=
        .of_last (reached someRow) rfl counted rfl rfl
      exact ⟨[pending], by simp, .cons covers .nil⟩
    · -- Without a run nothing is pending, so that nothing is left to tell.
      rename_i noRun
      have noRow : pending = [] := by
        rw [UInt32.lt_iff_toNat_lt, counted] at noRun
        exact List.length_eq_zero_iff.mp (by simpa using noRun)
      exact ⟨[], by simp [noRow], .nil⟩
  | cons row rest ih =>
    intro previous run pending counted _ bounded
    rw [List.length_cons] at bounded
    -- The run has room for one more row, as all rows together can be counted.
    have next : (run + 1).toNat = (pending ++ [row]).length := by
      rw [toNat_add_one (by omega), counted, List.length_append, List.length_singleton]
    rw [linesAfter]
    split
    · -- A row with the same counts joins the pending rows.
      obtain ⟨stretches, joined, covered⟩ := ih row (run + 1) (pending ++ [row]) next
        (fun _ => List.getLast?_concat) (by rw [next, List.length_append]; simp; omega)
      exact ⟨stretches, by rw [joined, List.append_assoc]; rfl, covered⟩
    · -- A row with other counts closes a stretch, and nothing is pending after it.
      obtain ⟨stretches, joined, covered⟩ := ih row 0 [] rfl (fun someRow => absurd rfl someRow)
        (by rw [UInt32.toNat_zero]; omega)
      have closes : CoversStretch (.shaping (row.left - previous.left)
          (row.right - previous.right) (run + 1) row.number row.total) (pending ++ [row]) :=
        .of_last List.getLast?_concat rfl next rfl rfl
      exact ⟨(pending ++ [row]) :: stretches, by simp [joined], .cons closes covered⟩

/-- The lines of a plan cover its rows stretch by stretch. -/
theorem stretches_compile {plan : StitchPlan} (countable : plan.rows.length < 2 ^ 32) :
    ∃ stretches, stretches.flatten = plan.rows ∧
      List.Forall₂ CoversStretch plan.compile stretches := by
  cases rows : plan.rows with
  | nil => exact ⟨[], rfl, by rw [compile, rows]; exact .nil⟩
  | cons first rest =>
    rw [rows, List.length_cons] at countable
    rw [compile, rows]
    dsimp only
    split
    · -- One line covers all rows, and names the last of them.
      have last : (first :: rest).getLast? = some (rest.getLastD first) := by
        rw [List.getLast?_cons, List.getLastD_eq_getLast?]
      have covers : CoversStretch (.knitRows (UInt32.ofNat (first :: rest).length)
          (rest.getLastD first).number (rest.getLastD first).total) (first :: rest) :=
        .of_last last rfl (UInt32.toNat_ofNat_of_lt' countable) rfl rfl
      exact ⟨[first :: rest], by simp, .cons covers .nil⟩
    · -- The loop starts with the first row knitted but not yet told.
      exact stretches_linesAfter first 1 [first] rfl (fun _ => rfl)
        (by rw [UInt32.toNat_one]; omega)

/-- A shaping line of the loop shapes an edge. -/
theorem shaping_ne_zero_of_mem_linesAfter {left right stitches : Int64} {rows counter : UInt32}
    {rest : List Row} :
    ∀ {previous : Row} {run : UInt32},
      .shaping left right rows counter stitches ∈ linesAfter previous run rest →
      ¬ (left = 0 ∧ right = 0) := by
  -- Such a line is given by a row with other counts than the row before it.
  induction rest with
  | nil =>
    intro previous run member
    rw [linesAfter] at member
    split at member <;> simp at member
  | cons row rest ih =>
    intro previous run member
    rw [linesAfter] at member
    split at member
    · -- A row that joins the run gives no line.
      exact ih member
    · rename_i differs
      rcases List.mem_cons.mp member with same | member
      · -- The line is that of this row, with the differences of the counts as its shaping.
        obtain ⟨rfl, rfl, _⟩ := Instruction.shaping.inj same
        rw [Row.sameCounts_iff] at differs
        -- A difference is zero only between equal counts.
        simpa [Int64.sub_eq_iff_eq_add] using differs
      · exact ih member

/-- A shaping line of a plan shapes an edge. -/
theorem shaping_ne_zero_of_mem_compile {plan : StitchPlan} {left right stitches : Int64}
    {rows counter : UInt32} (member : .shaping left right rows counter stitches ∈ plan.compile) :
    ¬ (left = 0 ∧ right = 0) := by
  -- A plan without rows and a plan in one plain line have no shaping line at all.
  unfold compile at member
  split at member
  · simp at member
  · dsimp only at member
    split at member
    · simp at member
    · exact shaping_ne_zero_of_mem_linesAfter member

/-- The ends of a plan with rows, as the first row and the last of the rows after it. -/
theorem ends_of_rows {plan : StitchPlan} {first : Row} {rest : List Row}
    (rows : plan.rows = first :: rest) :
    plan.first? = some first ∧ plan.last? = some (rest.getLastD first) ∧
      plan.belowFirst = first.tally.below := by
  -- All three look at one end of the list of rows.
  have begins : plan.first? = some first := by
    rw [first?, rows, List.head?_cons]
  refine ⟨begins, ?_, ?_⟩
  · rw [last?, rows, List.getLast?_cons, List.getLastD_eq_getLast?]
  · rw [belowFirst, begins, Option.getD_some]

/-- A plan with the same counts on all rows ends with its first counts. -/
theorem ends_eq_of_counts_eq {plan : StitchPlan}
    (equal : ∀ row ∈ plan.rows, ∀ other ∈ plan.rows, row.counts = other.counts) :
    plan.first?.map Row.counts = plan.last?.map Row.counts := by
  -- The ends are among the rows, if there are any.
  cases rows : plan.rows with
  | nil => simp [first?, last?, rows]
  | cons first rest =>
    obtain ⟨begins, ends, _⟩ := ends_of_rows rows
    rw [begins, ends, Option.map_some, Option.map_some,
      equal first (List.mem_of_head? begins) _ (List.mem_of_getLast? ends)]

/-- A plan that ends with its first counts is told in one plain line. -/
theorem compile_of_returns {plan : StitchPlan} {first : Row} {rest : List Row}
    (rows : plan.rows = first :: rest)
    (returns : plan.first?.map Row.counts = plan.last?.map Row.counts) :
    ∃ counter stitches,
      plan.compile = [.knitRows (UInt32.ofNat plan.rows.length) counter stitches] := by
  obtain ⟨begins, ends, _⟩ := ends_of_rows rows
  rw [begins, ends, Option.map_some, Option.map_some, Option.some.injEq,
    ← Row.sameCounts_iff_counts] at returns
  -- The comparison of the ends is the one that the lines are chosen by.
  refine ⟨(rest.getLastD first).number, (rest.getLastD first).total, ?_⟩
  rw [compile, rows]
  dsimp only
  rw [if_pos returns]

/-- A plan that ends with other counts is told by the loop. -/
theorem compile_of_departs {plan : StitchPlan} {first : Row} {rest : List Row}
    (rows : plan.rows = first :: rest)
    (departs : plan.first?.map Row.counts ≠ plan.last?.map Row.counts) :
    plan.compile = linesAfter first 1 rest := by
  -- Plain lines are printed only for a plan whose ends have the same counts.
  obtain ⟨begins, ends, _⟩ := ends_of_rows rows
  rw [begins, ends, Option.map_some, Option.map_some, ne_eq, Option.some.injEq,
    ← Row.sameCounts_iff_counts] at departs
  rw [compile, rows]
  dsimp only
  rw [if_neg departs]

/-- The lines of a plan give the counts of all its rows back exactly when its ends show shaping. -/
theorem replay_compile_iff {plan : StitchPlan} (contiguous : plan.rows.IsChain Row.Contiguous)
    (countable : plan.rows.length < 2 ^ 32) :
    (plan.belowFirst.replay plan.compile).map Tally.counts = plan.rows.map Row.counts ↔
      plan.ShowsAtEnds := by
  cases rows : plan.rows with
  | nil => simp [compile, rows, Tally.replay, ShowsAtEnds]
  | cons first rest =>
    obtain ⟨begins, ends, below⟩ := ends_of_rows rows
    rw [rows] at contiguous countable
    rw [below]
    constructor
    · -- A plan that ends as it begins is one plain line, which gives one pair of counts only.
      intro given
      by_cases returns : plan.first?.map Row.counts = plan.last?.map Row.counts
      · right
        obtain ⟨counter, stitches, line⟩ := compile_of_returns rows returns
        -- What the line gives are plain rows, so that a row of the plan is one of them.
        have plain : ∀ row ∈ plan.rows, row.counts = first.tally.below.counts := by
          intro row member
          have among : row.counts ∈ plan.rows.map Row.counts := List.mem_map_of_mem member
          rw [rows, ← given, line, Tally.replay, Tally.replay, List.append_nil, Tally.knit,
            Tally.map_counts_plainRows] at among
          exact (List.mem_replicate.mp among).2
        intro row member other otherMember
        rw [plain row member, plain other otherMember]
      · -- A plan that ends with other counts shows its shaping, whatever the lines give.
        exact .inl returns
    · -- Otherwise the lines tell the rows, and the counts are among what is told.
      intro shown
      have plain : first.sameCounts (rest.getLastD first) = true →
          ∀ later ∈ rest, later.sameCounts first = true := by
        intro same later member
        rw [Row.sameCounts_iff_counts] at same ⊢
        have returns : plan.first?.map Row.counts = plan.last?.map Row.counts := by
          rw [begins, ends, Option.map_some, Option.map_some, same]
        have equal := shown.resolve_left (not_not.mpr returns)
        rw [rows] at equal
        exact equal later (List.mem_cons_of_mem _ member) first List.mem_cons_self
      have told := tells_compile rows contiguous (by simpa using countable) plain
      rw [told.replay_eq, rows, List.map_map]
      rfl

/--
The lines of a plan divide its rows into stretches, each counted and named by its last row.

Every shaping line shapes an edge. Knitted again from below the first row, the lines give the counts
of all rows back exactly when the ends of the plan show that it is shaped.
-/
theorem compile_divides (plan : StitchPlan) (contiguous : plan.rows.IsChain Row.Contiguous)
    (countable : plan.rows.length < 2 ^ 32) :
    (∃ stretches, stretches.flatten = plan.rows ∧
        List.Forall₂ CoversStretch plan.compile stretches) ∧
      ((plan.compile.filterMap Instruction.rows?).map UInt32.toNat).sum = plan.rows.length ∧
      plan.compile.getLast?.bind Instruction.counter? = plan.last?.map Row.number ∧
      (∀ left right rows counter stitches,
        .shaping left right rows counter stitches ∈ plan.compile → ¬ (left = 0 ∧ right = 0)) ∧
      ((plan.belowFirst.replay plan.compile).map Tally.counts = plan.rows.map Row.counts ↔
        plan.ShowsAtEnds) := by
  -- Sums and ends are read off the stretches that the lines cover.
  obtain ⟨stretches, joined, covered⟩ := stretches_compile countable
  refine ⟨⟨stretches, joined, covered⟩, ?_, ?_, ?_, replay_compile_iff contiguous countable⟩
  · rw [sum_rows_of_covered covered, joined]
  · rw [counter_last_of_covered covered, joined, last?]
  · intro left right rows counter stitches member
    exact shaping_ne_zero_of_mem_compile member

/-- A plan that moves a stitch across, rests, drops two stitches on the left, and rests again. -/
def zigzag : StitchPlan :=
  let first : Row := ⟨7, 5, 5, 0, 0⟩
  let crossed := first.next 1 (-1)
  let rested := crossed.next 0 0
  let narrowed := rested.next (-2) 0
  ((((empty.push first).push crossed).push rested).push narrowed).push (narrowed.next 0 0)

/-- A plan that widens by two stitches and comes back. -/
def detour : StitchPlan :=
  let first : Row := ⟨7, 5, 5, 0, 0⟩
  ((empty.push first).push (first.next 1 1)).push ((first.next 1 1).next (-1) (-1))

/-- The lines of the zigzag give its five rows back, and those of the detour do not. -/
theorem zigzag_divides :
    (zigzag.rows.IsChain Row.Contiguous ∧ zigzag.rows.length < 2 ^ 32) ∧
      ((zigzag.compile.filterMap Instruction.rows?).map UInt32.toNat).sum = 5 ∧
      (zigzag.belowFirst.replay zigzag.compile).map Tally.counts
        = zigzag.rows.map Row.counts ∧
      (detour.rows.IsChain Row.Contiguous ∧ detour.rows.length < 2 ^ 32) ∧
      ((detour.compile.filterMap Instruction.rows?).map UInt32.toNat).sum = 3 ∧
      (detour.belowFirst.replay detour.compile).map Tally.counts
        ≠ detour.rows.map Row.counts := by
  have contiguous : zigzag.rows.IsChain Row.Contiguous := by decide
  have contiguousDetour : detour.rows.IsChain Row.Contiguous := by decide
  -- What the lines count is true of both; only whether they replay the rows differs.
  have divided := compile_divides zigzag contiguous (by decide)
  have dividedDetour := compile_divides detour contiguousDetour (by decide)
  exact ⟨⟨contiguous, by decide⟩, divided.2.1, divided.2.2.2.2.mpr (by decide),
    ⟨contiguousDetour, by decide⟩, dividedDetour.2.1, fun given =>
      absurd (dividedDetour.2.2.2.2.mp given) (by decide)⟩

end StitchPlan

end FlatKnit
