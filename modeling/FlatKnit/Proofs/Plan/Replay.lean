import FlatKnit.Proofs.Word

/-! Lines knitted again: the lines of a plan give the counts of its rows back. -/

namespace FlatKnit

/-- A row as a knitter counts it: its number, and the stitches on either side. -/
structure Tally where
  number : UInt32
  left : Int64
  right : Int64
  deriving Repr, DecidableEq, Inhabited

/-- The tally of a row. -/
def Row.tally (row : Row) : Tally :=
  ⟨row.number, row.left, row.right⟩

/-- The stitches in work after a line, if it covers rows. -/
def Instruction.inWork? : Instruction → Option Int64
  | knitRows _ _ stitches => some stitches
  | shaping _ _ _ _ stitches => some stitches
  | _ => none

namespace Tally

/-- The tally below a first row: one row less, with the counts of that row. -/
def below (tally : Tally) : Tally :=
  { tally with number := tally.number - 1 }

/-- The tally after a number of rows without shaping. -/
def onward (tally : Tally) (count : Nat) : Tally :=
  { tally with number := tally.number + UInt32.ofNat count }

/-- The tally after one row that shapes both edges. -/
def shaped (tally : Tally) (left right : Int64) : Tally :=
  ⟨tally.number + 1, tally.left + left, tally.right + right⟩

/-- A number of rows without shaping, one by one. -/
def plainRows (tally : Tally) (count : Nat) : List Tally :=
  (List.range count).map fun index => tally.onward (index + 1)

/-- The rows that a line knits onto a row; a shaping line shapes the last of them. -/
def knit (tally : Tally) : Instruction → List Tally
  | .knitRows rows _ _ => tally.plainRows rows.toNat
  | .shaping left right rows _ _ =>
    let plain := rows.toNat - 1
    tally.plainRows plain ++ [(tally.onward plain).shaped left right]
  | _ => []

/-- The rows that lines knit, each line onto the last row before it. -/
def replay (tally : Tally) : List Instruction → List Tally
  | [] => []
  | line :: lines => tally.knit line ++ replay ((tally.knit line).getLastD tally) lines

/-- No rows lead nowhere. -/
@[simp] theorem onward_zero (tally : Tally) : tally.onward 0 = tally := by
  simp [onward]

/-- Rows without shaping add up. -/
theorem onward_add (tally : Tally) (first later : Nat) :
    tally.onward (first + later) = (tally.onward first).onward later := by
  simp [onward, UInt32.add_assoc]

/-- The first row stands one row above the tally below it. -/
theorem onward_below (tally : Tally) : tally.below.onward 1 = tally := by
  simp [onward, below]

/-- One more plain row comes last. -/
theorem plainRows_succ (tally : Tally) (count : Nat) :
    tally.plainRows (count + 1) = tally.plainRows count ++ [tally.onward (count + 1)] := by
  rw [plainRows, List.range_succ, List.map_append, plainRows, List.map_singleton]

/-- The first plain row comes before the others. -/
theorem plainRows_cons (tally : Tally) (count : Nat) :
    tally.plainRows (count + 1) = tally.onward 1 :: (tally.onward 1).plainRows count := by
  -- From the first of them on, every other row is one position nearer.
  rw [plainRows, List.range_succ_eq_map, List.map_cons, List.map_map, plainRows]
  congr 1
  apply List.map_congr_left
  intro index _
  simp [onward, UInt32.add_assoc, UInt32.add_comm 1]

end Tally

/-- The tally below the first row of a plan, from which its lines are knitted. -/
def StitchPlan.belowFirst (plan : StitchPlan) : Tally :=
  (plan.first?.getD default).tally.below

namespace Row

/-- Whether a row has the number after that of another. -/
def Contiguous (row later : Row) : Prop :=
  later.number = row.number + 1

/-- Whether a row comes from another one by the shaping that it records. -/
def Follows (row later : Row) : Prop :=
  later = row.next later.leftShaping later.rightShaping

/-- A row that comes from another one has the next number. -/
theorem Follows.contiguous {row later : Row} (follows : row.Follows later) :
    row.Contiguous later :=
  congrArg Row.number follows

/-- Equal counts are equal on both sides. -/
theorem sameCounts_iff (row other : Row) :
    row.sameCounts other = true ↔ row.left = other.left ∧ row.right = other.right := by
  simp [sameCounts]

/-- A row after one with the same counts is a plain row. -/
theorem Contiguous.tally_onward {row later : Row} (contiguous : row.Contiguous later)
    (same : later.sameCounts row = true) : row.tally.onward 1 = later.tally := by
  -- The counts are the same on both sides, and only the number moves on.
  obtain ⟨left, right⟩ := (sameCounts_iff later row).mp same
  simpa [tally, Tally.onward, left, right] using contiguous.symm

/-- A row is reached from the one before by the differences of their counts. -/
theorem Contiguous.tally_shaped {row later : Row} (contiguous : row.Contiguous later) :
    row.tally.shaped (later.left - row.left) (later.right - row.right) = later.tally := by
  -- A difference added to what it was taken from gives the later count, even past a word.
  simpa [tally, Tally.shaped, Int64.add_comm row.left, Int64.add_comm row.right]
    using contiguous.symm

/-- Rows that all have the counts of the row before them are plain rows. -/
theorem map_tally_of_sameCounts {row : Row} {rest : List Row}
    (contiguous : (row :: rest).IsChain Contiguous)
    (same : ∀ later ∈ rest, later.sameCounts row = true) :
    rest.map tally = row.tally.plainRows rest.length := by
  -- The next row has the counts of this one, so that it can take its place for the rest.
  induction rest generalizing row with
  | nil => rfl
  | cons next rest ih =>
    obtain ⟨step, contiguous⟩ := List.isChain_cons_cons.mp contiguous
    have equal := same next (by simp)
    have tail := ih contiguous fun later member => by
      have first := (sameCounts_iff later row).mp (same later (by simp [member]))
      have second := (sameCounts_iff next row).mp equal
      exact (sameCounts_iff later next).mpr
        ⟨first.1.trans second.1.symm, first.2.trans second.2.symm⟩
    rw [List.map_cons, List.length_cons, Tally.plainRows_cons, step.tally_onward equal, tail]

end Row

/-- A line tells a stretch of rows: it knits their counts, and names the last one of them. -/
structure TellsStretch (standing : Tally) (line : Instruction) (stretch : List Row) (last : Row) :
    Prop where
  reached : stretch.getLast? = some last
  knitted : standing.knit line = stretch.map Row.tally
  counter : line.counter? = some last.number
  inWork : line.inWork? = some last.total

/-- Lines tell rows from a tally on, stretch by stretch. -/
inductive Tells : Tally → List Instruction → List Row → Prop where
  | done (standing : Tally) : Tells standing [] []
  | line {standing : Tally} {line : Instruction} {stretch : List Row} {last : Row}
      {lines : List Instruction} {rows : List Row} (told : TellsStretch standing line stretch last)
      (rest : Tells last.tally lines rows) : Tells standing (line :: lines) (stretch ++ rows)

/-- After a line the knitter stands on the last row that it tells. -/
theorem TellsStretch.getLastD_knit {standing : Tally} {line : Instruction} {stretch : List Row}
    {last : Row} (told : TellsStretch standing line stretch last) :
    (standing.knit line).getLastD standing = last.tally := by
  -- The rows knitted are the stretch, which is not empty.
  rw [told.knitted, List.getLastD_eq_getLast?, List.getLast?_map, told.reached]
  rfl

/-- Lines that tell rows knit their counts. -/
theorem Tells.replay_eq {standing : Tally} {lines : List Instruction} {rows : List Row}
    (tells : Tells standing lines rows) : standing.replay lines = rows.map Row.tally := by
  -- Line by line, the next stretch is knitted onto the last row of the one before.
  induction tells with
  | done standing => rfl
  | line told rest ih =>
    rw [Tally.replay, told.getLastD_knit, ih, told.knitted, List.map_append]

/-- Each of the lines that tell rows names the row that the knitter stands on after it. -/
theorem Tells.standing {standing : Tally} {lines : List Instruction} {rows : List Row}
    (tells : Tells standing lines rows) :
    ∀ {told : List Instruction} {line : Instruction} {rest : List Instruction},
      lines = told ++ line :: rest →
      ∃ row ∈ rows, (standing.replay (told ++ [line])).getLast? = some row.tally ∧
        line.counter? = some row.number ∧ line.inWork? = some row.total := by
  -- Either the line is the first one, or it is told from the row where the first one ends.
  induction tells with
  | done standing =>
    intro told line rest split
    simp at split
  | @line standing first stretch last lines rows closes tells ih =>
    intro told line rest split
    cases told with
    | nil =>
      obtain ⟨rfl, rfl⟩ := List.cons.inj split
      -- The first line ends at the last row of its stretch.
      refine ⟨last, ?_, ?_, closes.counter, closes.inWork⟩
      · exact List.mem_append_left _ (List.mem_of_getLast? closes.reached)
      · rw [List.nil_append, Tally.replay, Tally.replay, List.append_nil, closes.knitted,
          List.getLast?_map, closes.reached]
        rfl
    | cons head told =>
      obtain ⟨rfl, later⟩ := List.cons.inj split
      obtain ⟨row, member, stands, names⟩ := ih later
      refine ⟨row, List.mem_append_right _ member, ?_, names⟩
      rw [List.cons_append, Tally.replay, closes.getLastD_knit, List.getLast?_append, stands]
      rfl

namespace StitchPlan

/-- The lines of the loop tell the rows that are knitted but not yet told, and all rows after. -/
theorem tells_linesAfter {rest : List Row} :
    ∀ (standing : Tally) (previous : Row) (run : UInt32) (pending : List Row),
      (previous :: rest).IsChain Row.Contiguous → run.toNat + rest.length < 2 ^ 32 →
      pending.map Row.tally = standing.plainRows run.toNat →
      standing.onward run.toNat = previous.tally →
      Tells standing (linesAfter previous run rest) (pending ++ rest) := by
  -- The pending rows are plain, so that a line can cover them with the row that closes it.
  induction rest with
  | nil =>
    intro standing previous run pending _ _ plain reached
    rw [linesAfter, List.append_nil]
    cases count : run.toNat with
    | zero =>
      rw [count] at plain
      have noRun : ¬ 0 < run := by
        rw [UInt32.lt_iff_toNat_lt, count]
        simp
      rw [if_neg noRun, List.map_eq_nil_iff.mp plain]
      exact Tells.done standing
    | succ before =>
      have someRun : 0 < run := by
        rw [UInt32.lt_iff_toNat_lt, count]
        simp
      rw [if_pos someRun]
      -- The last pending row has the tally of the row that the loop ends on.
      have tallies := plain
      rw [count, Tally.plainRows_succ, ← count, reached] at tallies
      obtain ⟨last, ends, tally⟩ : ∃ last, pending.getLast? = some last ∧
          last.tally = previous.tally := by
        have ends := congrArg List.getLast? tallies
        simpa using ends
      have closes : TellsStretch standing (.knitRows run previous.number previous.total) pending
          last := by
        refine ⟨ends, plain.symm, ?_, ?_⟩
        · exact congrArg some (congrArg Tally.number tally).symm
        · have left := congrArg Tally.left tally
          have right := congrArg Tally.right tally
          simp only [Row.tally] at left right
          simp [Instruction.inWork?, Row.total, left, right]
      have told := Tells.line closes (Tells.done last.tally)
      rwa [List.append_nil] at told
  | cons row rest ih =>
    intro standing previous run pending contiguous bounded plain reached
    obtain ⟨step, contiguous⟩ := List.isChain_cons_cons.mp contiguous
    rw [List.length_cons] at bounded
    have counted : (run + 1).toNat = run.toNat + 1 := toNat_add_one (by omega)
    rw [linesAfter]
    split
    · -- A row with the same counts joins the pending rows.
      rename_i same
      have onward : standing.onward (run + 1).toNat = row.tally := by
        rw [counted, Tally.onward_add, reached, step.tally_onward same]
      have joined : (pending ++ [row]).map Row.tally = standing.plainRows (run + 1).toNat := by
        rw [counted, Tally.plainRows_succ, List.map_append, plain, ← counted, onward]
        rfl
      have told := ih standing row (run + 1) (pending ++ [row]) contiguous (by omega) joined onward
      rwa [List.append_assoc] at told
    · -- A row with other counts closes a line, and nothing is pending after it.
      have closes : TellsStretch standing (.shaping (row.left - previous.left)
          (row.right - previous.right) (run + 1) row.number row.total) (pending ++ [row]) row := by
        refine ⟨by simp, ?_, rfl, rfl⟩
        simp only [Tally.knit, counted, Nat.add_sub_cancel, reached, step.tally_shaped,
          List.map_append, plain]
        rfl
      have told := Tells.line closes (ih row.tally row 0 [] contiguous
        (by rw [UInt32.toNat_zero]; omega) rfl (Tally.onward_zero row.tally))
      rwa [List.nil_append, List.append_assoc] at told

/-- The lines of a plan tell its rows, if a plan that ends as it begins is plain in between. -/
theorem tells_compile {plan : StitchPlan} {first : Row} {rest : List Row}
    (rows : plan.rows = first :: rest) (contiguous : (first :: rest).IsChain Row.Contiguous)
    (bounded : rest.length + 1 < 2 ^ 32)
    (plain : first.sameCounts (rest.getLastD first) = true →
      ∀ later ∈ rest, later.sameCounts first = true) :
    Tells first.tally.below plan.compile plan.rows := by
  -- The first row counts as a plain row that stands on the tally below it.
  have start : first.tally.below.onward 1 = first.tally := first.tally.onward_below
  rw [compile, rows]
  dsimp only
  split
  · -- One line covers all rows, which stay at the counts of the first.
    rename_i same
    have counted : (UInt32.ofNat (first :: rest).length).toNat = rest.length + 1 := by
      rw [List.length_cons, UInt32.toNat_ofNat_of_lt' bounded]
    have knitted : (first :: rest).map Row.tally
        = first.tally.below.plainRows (rest.length + 1) := by
      rw [List.map_cons, Tally.plainRows_cons, start,
        Row.map_tally_of_sameCounts contiguous (plain same)]
    have closes : TellsStretch first.tally.below (.knitRows (UInt32.ofNat (first :: rest).length)
        (rest.getLastD first).number (rest.getLastD first).total) (first :: rest)
        (rest.getLastD first) := by
      refine ⟨by rw [List.getLast?_cons, List.getLastD_eq_getLast?], ?_, rfl, rfl⟩
      rw [Tally.knit, counted, knitted]
    have told := Tells.line closes (Tells.done (rest.getLastD first).tally)
    rwa [List.append_nil] at told
  · -- The loop starts with the first row knitted but not yet told.
    have told := tells_linesAfter first.tally.below first 1 [first] contiguous
      (by rw [UInt32.toNat_one]; omega)
      (by rw [UInt32.toNat_one, Tally.plainRows_cons, start]; rfl) start
    rwa [List.singleton_append] at told

/-- A shaping line of the loop has the shaping that its row records. -/
theorem shaping_mem_linesAfter {left right stitches : Int64} {rows counter : UInt32}
    {rest : List Row} :
    ∀ (previous : Row) (run : UInt32), (previous :: rest).IsChain Row.Follows →
      .shaping left right rows counter stitches ∈ linesAfter previous run rest →
      ∃ row ∈ rest, row.number = counter ∧ row.leftShaping = left ∧ row.rightShaping = right := by
  -- Only a row with other counts than the row before it gives a shaping line.
  induction rest with
  | nil =>
    intro previous run _ member
    rw [linesAfter] at member
    split at member <;> simp at member
  | cons row rest ih =>
    intro previous run follows member
    obtain ⟨step, follows⟩ := List.isChain_cons_cons.mp follows
    rw [linesAfter] at member
    split at member
    · obtain ⟨named, later, recorded⟩ := ih row (run + 1) follows member
      exact ⟨named, List.mem_cons_of_mem _ later, recorded⟩
    · rcases List.mem_cons.mp member with same | member
      · -- The differences of the counts are what the row was reached by.
        have leftStep := congrArg Row.left step
        have rightStep := congrArg Row.right step
        simp only [Row.next] at leftStep rightStep
        simp only [Instruction.shaping.injEq] at same
        obtain ⟨rfl, rfl, _, rfl, _⟩ := same
        refine ⟨row, List.mem_cons_self, rfl, ?_, ?_⟩
        · rw [leftStep, Int64.add_comm, Int64.add_sub_cancel]
        · rw [rightStep, Int64.add_comm, Int64.add_sub_cancel]
      · obtain ⟨named, later, recorded⟩ := ih row 0 follows member
        exact ⟨named, List.mem_cons_of_mem _ later, recorded⟩

/-- A shaping line of a plan has the shaping that its row records. -/
theorem shaping_mem_compile {plan : StitchPlan} {left right stitches : Int64}
    {rows counter : UInt32} (follows : plan.rows.IsChain Row.Follows)
    (member : .shaping left right rows counter stitches ∈ plan.compile) :
    ∃ row ∈ plan.rows, row.number = counter ∧ row.leftShaping = left ∧
      row.rightShaping = right := by
  -- A plan without rows and a plan in one line have no shaping line at all.
  unfold compile at member
  split at member
  · simp at member
  · rename_i first rest listed
    rw [listed] at follows ⊢
    dsimp only at member
    split at member
    · simp at member
    · obtain ⟨row, later, recorded⟩ := shaping_mem_linesAfter first 1 follows member
      exact ⟨row, List.mem_cons_of_mem _ later, recorded⟩

end StitchPlan

end FlatKnit
