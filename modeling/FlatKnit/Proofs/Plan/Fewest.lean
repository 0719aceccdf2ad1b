import FlatKnit.Proofs.Plan.Stretches

/-! Fewest lines: lines that give the counts of a plan back are no fewer than its own lines. -/

namespace FlatKnit

/-- Lines retell a plan: each covers rows, and together they give the counts of all its rows. -/
structure Retells (lines : List Instruction) (plan : StitchPlan) : Prop where
  covers : ∀ line ∈ lines, ∃ rows, line.rows? = some rows ∧ 0 < rows
  counts : (plan.belowFirst.replay lines).map Tally.counts = plan.rows.map Row.counts

/--
The lines that counts need from a standing on, with or without a plain row waiting to be told.

Other counts than before need a line that ends there, and plain rows at the end need one more.
-/
def linesNeeded (standing : Int64 × Int64) (waiting : Bool) : List (Int64 × Int64) → Nat
  | [] => if waiting then 1 else 0
  | counts :: rest =>
    if counts = standing then linesNeeded standing true rest
    else linesNeeded counts false rest + 1

/-- A plain row that waits needs one line at most. -/
theorem linesNeeded_waiting_le (standing : Int64 × Int64) (counts : List (Int64 × Int64)) :
    linesNeeded standing true counts ≤ linesNeeded standing false counts + 1 := by
  -- After one more row it makes no difference whether another one was waiting before it.
  cases counts with
  | nil => simp [linesNeeded]
  | cons next rest =>
    rw [linesNeeded, linesNeeded]
    split <;> omega

/-- A plain row that waits needs a line. -/
theorem linesNeeded_waiting_pos {standing : Int64 × Int64} {counts : List (Int64 × Int64)} :
    0 < linesNeeded standing true counts := by
  -- Either it waits to the end, or a later row with other counts closes a line over it.
  induction counts with
  | nil => simp [linesNeeded]
  | cons next rest ih =>
    rw [linesNeeded]
    split
    · exact ih
    · omega

/-- Plain rows wait to be told. -/
theorem linesNeeded_replicate (standing : Int64 × Int64) (count : Nat)
    (counts : List (Int64 × Int64)) :
    ∀ waiting, linesNeeded standing waiting (List.replicate count standing ++ counts)
      = linesNeeded standing (waiting || decide (0 < count)) counts := by
  -- The first of them sets the mark, and the others leave it set.
  induction count with
  | zero => simp
  | succ count ih =>
    intro waiting
    rw [List.replicate_succ, List.cons_append, linesNeeded, if_pos rfl, ih]
    simp

namespace Tally

/-- A line that covers rows tells at most one line's worth of them. -/
theorem linesNeeded_knit (tally : Tally) {line : Instruction} {rows : UInt32}
    (covers : line.rows? = some rows) (someRow : 0 < rows) (counts : List (Int64 × Int64)) :
    linesNeeded tally.counts false ((tally.knit line).map Tally.counts ++ counts)
      ≤ linesNeeded ((tally.knit line).getLastD tally).counts false counts + 1 := by
  have counted : 0 < rows.toNat := by
    simpa [UInt32.lt_iff_toNat_lt] using someRow
  cases line with
  | knitRows lineRows counter stitches =>
    obtain rfl : lineRows = rows := Option.some.inj covers
    -- All of its rows are plain, so that one of them waits and the standing stays.
    have last : ((tally.plainRows lineRows.toNat).getLastD tally).counts = tally.counts := by
      obtain ⟨before, rows⟩ := Nat.exists_eq_add_of_lt counted
      rw [rows, plainRows_succ, List.getLastD_eq_getLast?, List.getLast?_concat]
      rfl
    rw [knit, last, map_counts_plainRows, linesNeeded_replicate]
    simpa [counted] using linesNeeded_waiting_le tally.counts counts
  | shaping left right lineRows counter stitches =>
    obtain rfl : lineRows = rows := Option.some.inj covers
    simp only [knit, List.map_append, List.map_singleton, List.append_assoc,
      List.getLastD_eq_getLast?, List.getLast?_concat, Option.getD_some, map_counts_plainRows,
      linesNeeded_replicate, List.singleton_append, linesNeeded]
    -- The last row stands elsewhere, or else it is a plain row like the others.
    split
    · rename_i same
      rw [same]
      exact linesNeeded_waiting_le tally.counts counts
    · exact Nat.le_refl _
  | _ => simp [Instruction.rows?] at covers

/-- Lines that cover rows are at least as many as the counts that they give need. -/
theorem linesNeeded_replay {lines : List Instruction} :
    ∀ (tally : Tally), (∀ line ∈ lines, ∃ rows, line.rows? = some rows ∧ 0 < rows) →
      linesNeeded tally.counts false ((tally.replay lines).map Tally.counts) ≤ lines.length := by
  -- Each line takes at most one off what is needed from where it starts.
  induction lines with
  | nil => simp [replay, linesNeeded]
  | cons line lines ih =>
    intro tally covers
    obtain ⟨rows, told, someRow⟩ := covers line List.mem_cons_self
    have first := linesNeeded_knit tally told someRow
      ((((tally.knit line).getLastD tally).replay lines).map Tally.counts)
    have later := ih ((tally.knit line).getLastD tally) fun other member =>
      covers other (List.mem_cons_of_mem _ member)
    rw [replay, List.map_append, List.length_cons]
    omega

end Tally

namespace StitchPlan

/-- The loop gives no more lines than the rows after it need. -/
theorem length_linesAfter_le {rest : List Row} :
    ∀ (previous : Row) (run : UInt32) (waiting : Bool), (0 < run → waiting = true) →
      (linesAfter previous run rest).length
        ≤ linesNeeded previous.counts waiting (rest.map Row.counts) := by
  -- A run stands for a plain row that waits, and is closed exactly where counts change.
  induction rest with
  | nil =>
    intro previous run waiting marked
    rw [linesAfter]
    split
    · -- A run that is left over takes one line, which the waiting row needs.
      rename_i someRun
      simp [linesNeeded, marked someRun]
    · simp
  | cons row rest ih =>
    intro previous run waiting _
    rw [linesAfter, List.map_cons, linesNeeded]
    split
    · -- A row with the same counts lengthens the run.
      rename_i same
      have equal := (Row.sameCounts_iff_counts row previous).mp same
      rw [if_pos equal, ← equal]
      exact ih row (run + 1) true fun _ => rfl
    · -- A row with other counts closes a line, and nothing waits after it.
      rename_i differs
      rw [if_neg fun equal => differs ((Row.sameCounts_iff_counts row previous).mpr equal),
        List.length_cons]
      have later := ih row 0 false (by simp)
      omega

/-- A plan has no more lines than its rows need. -/
theorem length_compile_le (plan : StitchPlan) :
    plan.compile.length ≤ linesNeeded plan.belowFirst.counts false (plan.rows.map Row.counts) := by
  cases rows : plan.rows with
  | nil => simp [compile, rows]
  | cons first rest =>
    -- The first row is plain, as it has the counts that the lines are knitted from.
    have needed : linesNeeded plan.belowFirst.counts false ((first :: rest).map Row.counts)
        = linesNeeded first.counts true (rest.map Row.counts) := by
      have below : plan.belowFirst.counts = first.counts := by
        rw [(ends_of_rows rows).2.2]
        rfl
      rw [below, List.map_cons, linesNeeded, if_pos rfl]
    rw [needed, compile, rows]
    dsimp only
    split
    · -- A single line is never too many, as the first row waits for one.
      exact linesNeeded_waiting_pos
    · exact length_linesAfter_le first 1 true fun _ => rfl

/-- The lines of a plan whose ends show shaping retell it. -/
theorem retells_compile {plan : StitchPlan} (contiguous : plan.rows.IsChain Row.Contiguous)
    (countable : plan.rows.length < 2 ^ 32) (shown : plan.ShowsAtEnds) :
    Retells plan.compile plan where
  covers := by
    -- Each line covers a stretch, and no stretch is empty.
    obtain ⟨stretches, _, covered⟩ := stretches_compile countable
    exact someRow_of_covered covered
  counts := (replay_compile_iff contiguous countable).mpr shown

/--
Lines that retell a plan are never fewer than the lines of the plan itself.

Where the ends of the plan show shaping, its own lines retell it, so that they are the fewest.
-/
theorem compile_fewest (plan : StitchPlan) :
    (∀ lines, Retells lines plan → plan.compile.length ≤ lines.length) ∧
      (plan.rows.IsChain Row.Contiguous → plan.rows.length < 2 ^ 32 → plan.ShowsAtEnds →
        IsLeast {count | ∃ lines, Retells lines plan ∧ lines.length = count}
          plan.compile.length) := by
  -- What the counts of the plan need lies between its own lines and any others that give them.
  have fewest : ∀ lines, Retells lines plan → plan.compile.length ≤ lines.length := by
    intro lines retells
    calc plan.compile.length
      _ ≤ linesNeeded plan.belowFirst.counts false (plan.rows.map Row.counts) :=
        plan.length_compile_le
      _ = linesNeeded plan.belowFirst.counts false
            ((plan.belowFirst.replay lines).map Tally.counts) := by
        rw [retells.counts]
      _ ≤ lines.length := Tally.linesNeeded_replay plan.belowFirst retells.covers
  refine ⟨fewest, ?_⟩
  intro contiguous countable shown
  refine ⟨⟨plan.compile, retells_compile contiguous countable shown, rfl⟩, ?_⟩
  rintro count ⟨lines, retells, rfl⟩
  exact fewest lines retells

/-- The zigzag row by row, each row in a line of its own. -/
def zigzagByRow : List Instruction :=
  [.knitRows 1 7 10, .shaping 1 (-1) 1 8 10, .knitRows 1 9 10, .shaping (-2) 0 1 10 8,
    .knitRows 1 11 8]

/-- Lines of one row each retell the zigzag. -/
theorem zigzagByRow_retells : Retells zigzagByRow zigzag where
  covers := by
    intro line member
    have single : ∀ line ∈ zigzagByRow, line.rows? = some 1 := by decide
    exact ⟨1, single line member, by decide⟩
  counts := by decide

/-- The zigzag takes three lines, and no fewer would do. -/
theorem zigzag_fewest :
    Retells zigzagByRow zigzag ∧ zigzag.compile.length ≤ zigzagByRow.length ∧
      (zigzag.rows.IsChain Row.Contiguous ∧ zigzag.rows.length < 2 ^ 32 ∧ zigzag.ShowsAtEnds) ∧
      IsLeast {count | ∃ lines, Retells lines zigzag ∧ lines.length = count} 3 := by
  -- The zigzag shows its shaping at its ends, so its own lines are as few as can be.
  have contiguous : zigzag.rows.IsChain Row.Contiguous := by decide
  have shown : zigzag.ShowsAtEnds := by decide
  have fewest := compile_fewest zigzag
  exact ⟨zigzagByRow_retells, fewest.1 zigzagByRow zigzagByRow_retells,
    ⟨contiguous, by decide, shown⟩, fewest.2 contiguous (by decide) shown⟩

end StitchPlan

end FlatKnit
