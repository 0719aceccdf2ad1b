import FlatKnit.Plan.Table
import FlatKnit.Proofs.Word

/-!
Overflow of plans: where every number on the way stays within its word, a checked function gives the
result of the plain one, and otherwise it gives none.
-/

namespace FlatKnit

namespace Row

/-- Both sides of the row together are a word. -/
def TotalHeld (row : Row) : Prop :=
  IsWord (row.left.toInt + row.right.toInt)

instance (row : Row) : Decidable row.TotalHeld :=
  inferInstanceAs (Decidable (IsWord _))

variable {row : Row} {leftShaping rightShaping : Int64}

/-- The row that follows is there while its number lasts and both of its counts are words. -/
theorem next?_eq_some_iff {following : Row} :
    row.next? leftShaping rightShaping = some following ↔
      (row.number.toNat + 1 < 2 ^ 32 ∧ IsWord (row.left.toInt + leftShaping.toInt) ∧
        IsWord (row.right.toInt + rightShaping.toInt)) ∧
        row.next leftShaping rightShaping = following := by
  simp only [next?, next, Option.bind_eq_bind, Option.bind_eq_some_iff, numberAfter?_eq_some_iff,
    sum?_eq_some_iff, Option.pure_def, Option.some.injEq]
  constructor
  · rintro ⟨_, ⟨number, rfl⟩, _, ⟨left, rfl⟩, _, ⟨right, rfl⟩, rfl⟩
    exact ⟨⟨number, left, right⟩, rfl⟩
  · rintro ⟨⟨number, left, right⟩, rfl⟩
    exact ⟨_, ⟨number, rfl⟩, _, ⟨left, rfl⟩, _, ⟨right, rfl⟩, rfl⟩

/-- All stitches of a row are there when they are a word. -/
theorem total?_eq_some_iff {total : Int64} :
    row.total? = some total ↔ row.TotalHeld ∧ row.total = total :=
  sum?_eq_some_iff

/-- Whether all stitches of a row are there. -/
theorem isSome_total? : row.total?.isSome = true ↔ row.TotalHeld := by
  simp [Option.isSome_iff_exists, total?_eq_some_iff]

end Row

namespace StitchPlan

variable {plan : StitchPlan} {lines : List Instruction} {previous row : Row} {run : UInt32}

/-- A row is put at the end of a plan when its number is the one after that of the last row. -/
theorem push?_eq_some_iff {longer : StitchPlan} : plan.push? row = some longer ↔
    (∀ last, plan.last? = some last → last.number.toNat + 1 = row.number.toNat) ∧
      plan.push row = longer := by
  rw [push?]
  cases plan.last? with
  | none => simp
  | some last =>
    -- The number after the last one is compared as a word, and no word is past the end.
    have follows : numberAfter? last.number = some row.number ↔
        last.number.toNat + 1 = row.number.toNat := by
      have inside := row.number.toNat_lt
      rw [numberAfter?_eq_some_iff, ← UInt32.toNat_inj]
      constructor
      · rintro ⟨more, same⟩
        rwa [toNat_add_one more] at same
      · intro same
        have more : last.number.toNat + 1 < 2 ^ 32 := by omega
        exact ⟨more, by rwa [toNat_add_one more]⟩
    simp [follows]

/-- The number after a plan is there unless its last row has the last number. -/
theorem nextRow?_eq_some_iff {start next : UInt32} : plan.nextRow? start = some next ↔
    (∀ last, plan.last? = some last → last.number.toNat + 1 < 2 ^ 32) ∧
      plan.nextRow start = next := by
  rw [nextRow?, nextRow]
  cases plan.last? with
  | none => simp
  | some last => simp [numberAfter?_eq_some_iff]

/-- A sum of shaping that is there is exact. -/
theorem toInt_of_shapingSum? {edge : Row → Int64} {sum : Int64}
    (summed : plan.shapingSum? edge = some sum) :
    sum.toInt = (plan.rows.map fun row => (edge row).toInt).sum := by
  -- The sum goes on from what the rows before have, so that is any word in the induction.
  have onward : ∀ (rows : List Row) (before : Int64),
      rows.foldlM (fun sum row => sum? sum (edge row)) before = some sum →
        sum.toInt = before.toInt + (rows.map fun row => (edge row).toInt).sum := by
    intro rows
    induction rows with
    | nil => simp
    | cons row rows ih =>
      intro before added
      rw [List.foldlM_cons, Option.bind_eq_bind, Option.bind_eq_some_iff] at added
      obtain ⟨next, step, rest⟩ := added
      obtain ⟨held, rfl⟩ := sum?_eq_some_iff.mp step
      rw [ih _ rest, toInt_add_of_isWord held, List.map_cons, List.sum_cons, Int.add_assoc]
  simpa using onward plan.rows 0 summed

/-- Behind the last row, the loop tells its total if plain rows are left to be told. -/
theorem linesAfter?_nil : linesAfter? previous run [] = some lines ↔
    (0 < run → previous.TotalHeld) ∧ linesAfter previous run [] = lines := by
  rw [linesAfter?, linesAfter]
  by_cases untold : 0 < run
  · rw [if_pos untold, if_pos untold, Option.bind_eq_bind, Option.bind_eq_some_iff]
    simp only [Row.total?_eq_some_iff, Option.pure_def, Option.some.injEq]
    constructor
    · rintro ⟨_, ⟨held, rfl⟩, rfl⟩
      exact ⟨fun _ => held, rfl⟩
    · rintro ⟨held, rfl⟩
      exact ⟨_, ⟨held untold, rfl⟩, rfl⟩
  · simp [untold]

variable {rest : List Row}

/-- A row with the counts of the one before it joins the run, if that can still be counted. -/
theorem linesAfter?_same (same : row.sameCounts previous = true) :
    linesAfter? previous run (row :: rest) = some lines ↔
      run.toNat + 1 < 2 ^ 32 ∧ linesAfter? row (run + 1) rest = some lines := by
  simp only [linesAfter?, if_pos same, Option.bind_eq_bind, Option.bind_eq_some_iff,
    numberAfter?_eq_some_iff]
  constructor
  · rintro ⟨_, ⟨counted, rfl⟩, onward⟩
    exact ⟨counted, onward⟩
  · rintro ⟨counted, onward⟩
    exact ⟨_, ⟨counted, rfl⟩, onward⟩

/-- A row with other counts closes a line, if both differences and its total are words. -/
theorem linesAfter?_differs (differs : ¬ row.sameCounts previous = true) :
    linesAfter? previous run (row :: rest) = some lines ↔
      (run.toNat + 1 < 2 ^ 32 ∧ IsWord (row.left.toInt - previous.left.toInt) ∧
        IsWord (row.right.toInt - previous.right.toInt) ∧ row.TotalHeld) ∧
        ∃ later, linesAfter? row 0 rest = some later ∧
          .shaping (row.left - previous.left) (row.right - previous.right) (run + 1)
            row.number row.total :: later = lines := by
  simp only [linesAfter?, if_neg differs, Option.bind_eq_bind, Option.bind_eq_some_iff,
    numberAfter?_eq_some_iff, difference?_eq_some_iff, Row.total?_eq_some_iff, Option.pure_def,
    Option.some.injEq]
  constructor
  · rintro ⟨_, ⟨counted, rfl⟩, _, ⟨left, rfl⟩, _, ⟨right, rfl⟩, _, ⟨held, rfl⟩, later⟩
    exact ⟨⟨counted, left, right, held⟩, later⟩
  · rintro ⟨⟨counted, left, right, held⟩, later⟩
    exact ⟨_, ⟨counted, rfl⟩, _, ⟨left, rfl⟩, _, ⟨right, rfl⟩, _, ⟨held, rfl⟩, later⟩

/-- Lines of the loop that are there are those of the plain loop. -/
theorem eq_of_linesAfter? :
    ∀ {previous : Row} {run : UInt32} {lines : List Instruction},
      linesAfter? previous run rest = some lines → linesAfter previous run rest = lines := by
  induction rest with
  | nil => exact fun told => (linesAfter?_nil.mp told).2
  | cons row rest ih =>
    intro previous run lines told
    rw [linesAfter]
    by_cases same : row.sameCounts previous = true
    · rw [if_pos same]
      exact ih ((linesAfter?_same same).mp told).2
    · obtain ⟨_, later, onward, rfl⟩ := (linesAfter?_differs same).mp told
      rw [if_neg same, ih onward]

/-- Lines of a plan that are there are those of the plain plan. -/
theorem eq_of_compile? (told : plan.compile? = some lines) : plan.compile = lines := by
  unfold compile? at told
  unfold compile
  split at told
  case h_1 => exact Option.some.inj told
  case h_2 first rest rows =>
    dsimp only at told ⊢
    split at told
    case isTrue same =>
      rw [if_pos same]
      simp only [Option.bind_eq_bind, Option.bind_eq_some_iff, Row.total?_eq_some_iff,
        Option.pure_def, Option.some.injEq] at told
      obtain ⟨_, ⟨_, rfl⟩, rfl⟩ := told
      rfl
    case isFalse differs =>
      rw [if_neg differs]
      exact eq_of_linesAfter? told

/-- The loop tells the total of the last row, at the end or in the last line before it. -/
theorem totalHeld_of_linesAfter? :
    ∀ {previous : Row} {run : UInt32} {lines : List Instruction},
      linesAfter? previous run rest = some lines → 0 < run ∨ previous.TotalHeld →
        (rest.getLastD previous).TotalHeld := by
  induction rest with
  | nil => exact fun told before => before.elim (linesAfter?_nil.mp told).1 id
  | cons row rest ih =>
    intro previous run lines told _
    rw [List.getLastD_cons]
    by_cases same : row.sameCounts previous = true
    · -- A run that has grown is not empty, since its count has not come around.
      obtain ⟨counted, onward⟩ := (linesAfter?_same same).mp told
      refine ih onward (.inl ?_)
      rw [UInt32.lt_iff_toNat_lt, UInt32.toNat_zero, toNat_add_one counted]
      omega
    · obtain ⟨⟨_, _, _, held⟩, _, onward, _⟩ := (linesAfter?_differs same).mp told
      exact ih onward (.inr held)

/-- A plan with lines has a last row whose stitches are a word, if it has rows. -/
theorem totalHeld_of_compile? (told : plan.compile? = some lines)
    (ends : plan.last? = some row) : row.TotalHeld := by
  unfold compile? at told
  split at told
  case h_1 rows => simp [last?, rows] at ends
  case h_2 first rest rows =>
    have last : rest.getLastD first = row := by
      rw [last?, rows, List.getLast?_cons] at ends
      rw [List.getLastD_eq_getLast?]
      exact Option.some.inj ends
    dsimp only at told
    split at told
    · simp only [Option.bind_eq_bind, Option.bind_eq_some_iff, Row.total?_eq_some_iff] at told
      obtain ⟨_, ⟨held, _⟩, _⟩ := told
      rwa [last] at held
    · rw [← last]
      exact totalHeld_of_linesAfter? told (.inl (by decide))

end StitchPlan

/-- A table of rows is there when the total of every row is a word. -/
theorem rowTable?_eq_some_iff {plans : List StitchPlan} {table : String} :
    rowTable? plans = some table ↔
      (∀ plan ∈ plans, ∀ row ∈ plan.rows, row.TotalHeld) ∧ rowTable plans = table := by
  simp [rowTable?, Row.isSome_total?]

end FlatKnit
