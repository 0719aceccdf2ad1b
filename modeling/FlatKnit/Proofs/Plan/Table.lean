import FlatKnit.Plan.Table
import FlatKnit.Proofs.Text.Delimited
import Mathlib.Data.List.DropRight

/-! Row tables: the text of a table tells all rows of all plans, however wide their numbers are. -/

namespace FlatKnit

/-- A signed text below zero starts with its minus, and any other with a plus. -/
theorem toList_signedText (number : Int64) : (signedText number).toList =
    if number < 0 then (toString number).toList else '+' :: (toString number).toList := by
  unfold signedText
  split
  · rfl
  · simp

/-- The text of a word below zero starts with a minus. -/
theorem head?_toString_below {word : Int64} (below : word < 0) :
    (toString word).toList.head? = some '-' := by
  -- A word is written as its number is.
  have belowInt : word.toInt < 0 := by simpa using Int64.lt_iff_toInt_lt.mp below
  obtain ⟨size, negative⟩ := Int.eq_negSucc_of_lt_zero belowInt
  show (toString word.toInt).toList.head? = some '-'
  rw [negative, toList_toString_below]
  rfl

/-- Signed texts are texts of numbers. -/
theorem writesNumbers_signed : WritesNumbers signedText where
  injective number other same := by
    have texts := congrArg String.toList same
    rw [toList_signedText, toList_signedText] at texts
    -- The first character tells the numbers below zero from the others.
    by_cases below : number < 0 <;> by_cases otherBelow : other < 0
    · rw [if_pos below, if_pos otherBelow] at texts
      exact writesNumbers_word.injective (String.toList_inj.mp texts)
    · rw [if_pos below, if_neg otherBelow] at texts
      -- Only one of the two texts starts with a minus sign.
      have first := head?_toString_below below
      rw [texts] at first
      cases first
    · rw [if_neg below, if_pos otherBelow] at texts
      have first := head?_toString_below otherBelow
      rw [← texts] at first
      cases first
    · rw [if_neg below, if_neg otherBelow] at texts
      exact writesNumbers_word.injective (String.toList_inj.mp (List.cons.inj texts).2)
  filled number := by
    rw [toList_signedText]
    split
    · exact writesNumbers_word.filled number
    · exact List.cons_ne_nil _ _
  numerals number := by
    rw [toList_signedText]
    split
    · exact writesNumbers_word.numerals number
    · exact List.forall_mem_cons.mpr ⟨rfl, writesNumbers_word.numerals number⟩

/-- A text at the right end of its column stands behind blanks. -/
theorem toList_alignRight (width : Nat) (text : String) : (alignRight width text).toList
    = List.replicate (width - text.length) ' ' ++ text.toList := by
  rw [alignRight, String.toList_append, String.toList_ofList]

section Columns

variable {α : Type} {text : α → String} (writes : WritesNumbers text) (width : Nat)

include writes

/-- What stands behind the blanks of a column is the number in it. -/
theorem dropWhile_alignRight (number : α) (rest : List Char) :
    ((alignRight width (text number)).toList ++ rest).dropWhile (· == ' ')
      = (text number).toList ++ rest := by
  obtain ⟨first, others, started, numeral⟩ := writes.starts number rest
  rw [toList_alignRight, List.append_assoc]
  -- The blanks end where the number starts, for a number does not start with a blank.
  apply dropWhile_front
  · intro character member
    rw [List.eq_of_mem_replicate member]
    rfl
  · rw [started]
    rintro _ ⟨⟩
    rw [beq_eq_false_iff_ne]
    rintro rfl
    cases numeral

/-- A column of numbers ends with the digits and signs behind its blanks. -/
theorem delimits_column :
    Delimits (fun number => (alignRight width (text number)).toList) (Past isNumeral) := by
  intro number other rest others past pastOther same
  -- A wider number has fewer blanks in front, or none at all.
  have behind := congrArg (List.dropWhile (· == ' ')) same
  rw [dropWhile_alignRight writes, dropWhile_alignRight writes] at behind
  exact writes.delimits past pastOther behind

/-- A column does not start with a line break. -/
theorem head?_column_ne (number : α) (rest : List Char) :
    ∃ first others, (alignRight width (text number)).toList ++ rest = first :: others ∧
      first ≠ '\n' := by
  rw [toList_alignRight]
  -- A number that is as wide as its column, or wider, has no blank in front.
  cases width - (text number).length with
  | zero =>
    obtain ⟨first, others, started, numeral⟩ := writes.starts number rest
    refine ⟨first, others, started, ?_⟩
    rintro rfl
    cases numeral
  | succ blanks => exact ⟨' ', _, rfl, by decide⟩

end Columns

/-- What may follow a number in a table: a blank or a line break. -/
theorem past_blank (rest : List Char) : Past isNumeral (' ' :: rest) :=
  past_cons rfl rest

/-- The line of a row: its columns with a blank between them, and a line break. -/
theorem toList_tableLine (row left right total leftShaping rightShaping : String) :
    (tableLine row left right total leftShaping rightShaping).toList
      = (alignRight 5 row).toList ++ ' ' :: ((alignRight 6 left).toList ++
          ' ' :: ((alignRight 6 right).toList ++ ' ' :: ((alignRight 6 total).toList ++
            ' ' :: ((alignRight 6 leftShaping).toList ++
              ' ' :: ((alignRight 6 rightShaping).toList ++ ['\n']))))) := by
  simp [tableLine]

/-- The line of a row shows every number of it, and ends with the line. -/
theorem delimits_tableText : Delimits (fun row : Row => row.tableText.toList) (fun _ => True) := by
  intro row other rest others _ _ same
  simp only [Row.tableText, toList_tableLine, List.append_assoc, List.cons_append,
    List.nil_append] at same
  -- Column by column, the numbers agree, and what stands behind them does.
  obtain ⟨number, same⟩ := delimits_column writesNumbers_counter 5 (past_blank _) (past_blank _)
    same
  obtain ⟨left, same⟩ := delimits_column writesNumbers_word 6 (past_blank _) (past_blank _)
    (List.cons.inj same).2
  obtain ⟨right, same⟩ := delimits_column writesNumbers_word 6 (past_blank _) (past_blank _)
    (List.cons.inj same).2
  -- The total is no count of its own, and only has to be passed.
  obtain ⟨_, same⟩ := delimits_column writesNumbers_word 6 (past_blank _) (past_blank _)
    (List.cons.inj same).2
  obtain ⟨leftShaping, same⟩ := delimits_column writesNumbers_signed 6 (past_blank _) (past_blank _)
    (List.cons.inj same).2
  obtain ⟨rightShaping, same⟩ := delimits_column writesNumbers_signed 6
    (past_cons rfl _) (past_cons rfl _) (List.cons.inj same).2
  refine ⟨?_, (List.cons.inj same).2⟩
  obtain ⟨_, _, _, _, _⟩ := row
  obtain ⟨_, _, _, _, _⟩ := other
  rw [Row.mk.injEq]
  exact ⟨number, left, right, leftShaping, rightShaping⟩

/-- A plan with rows, at its position among plans. -/
structure ShownPlan where
  position : Nat
  first : Row
  others : List Row

namespace ShownPlan

/-- The rows of the plan. -/
def rows (shown : ShownPlan) : List Row :=
  shown.first :: shown.others

/-- The number of the last row. -/
def lastNumber (shown : ShownPlan) : UInt32 :=
  (shown.others.getLastD shown.first).number

/-- The heading of the plan: its position, and the numbers of its first and last row. -/
def heading (shown : ShownPlan) : String :=
  "Segment " ++ toString shown.position ++ " (rows " ++ toString shown.first.number ++ "-" ++
    toString shown.lastNumber ++ ")\n"

/-- The table of the plan: its heading, the names of the columns, and its rows. -/
def text (shown : ShownPlan) : List Char :=
  (shown.heading ++ tableLine "row" "left" "right" "total" "dl" "dr").toList ++
    shown.rows.flatMap fun row => row.tableText.toList

end ShownPlan

/-- Tables of plans may be followed by the end of the text, or by a line break. -/
def EndsTable (rest : List Char) : Prop :=
  rest = [] ∨ ∃ others, rest = '\n' :: others

/-- The rows of a table end where the text does, or where a blank line begins. -/
theorem delimits_rows :
    Delimits (List.flatMap fun row : Row => row.tableText.toList) EndsTable := by
  apply delimits_tableText.flatMap (fun _ _ _ => trivial) (fun _ _ => trivial)
  intro row rest ends
  -- A row starts with a blank, a digit or a sign.
  obtain ⟨behind, line⟩ : ∃ behind, row.tableText.toList
      = (alignRight 5 (toString row.number)).toList ++ behind := by
    rw [Row.tableText, toList_tableLine]
    exact ⟨_, rfl⟩
  obtain ⟨first, others, started, notBreak⟩ :=
    head?_column_ne writesNumbers_counter 5 row.number (behind ++ rest)
  rw [line, List.append_assoc, started] at ends
  rcases ends with ended | ⟨_, broken⟩
  · cases ended
  · exact notBreak (List.cons.inj broken).1

/-- Behind its first word, the heading goes on with the position, up to a blank. -/
theorem ShownPlan.toList_heading (shown : ShownPlan) : shown.heading.toList
    = "Segment ".toList ++ ((toString shown.position).toList ++ ' ' :: ("(rows ".toList ++
        ((toString shown.first.number).toList ++ '-' ::
          ((toString shown.lastNumber).toList ++ [')', '\n'])))) := by
  simp [heading]

/-- The heading of a plan tells its position, and ends with its line. -/
theorem heading_cancel {shown other : ShownPlan} {rest others : List Char}
    (same : shown.heading.toList ++ rest = other.heading.toList ++ others) :
    shown.position = other.position ∧ rest = others := by
  simp only [ShownPlan.toList_heading, List.append_assoc, List.cons_append,
    List.nil_append] at same
  obtain ⟨position, same⟩ := delimits_nat (past_cons rfl _) (past_cons rfl _)
    (List.append_cancel_left same)
  -- The numbers of the first and last row are in the rows, too.
  obtain ⟨_, same⟩ := delimits_counter (past_cons rfl _) (past_cons rfl _)
    (List.append_cancel_left (List.cons.inj same).2)
  obtain ⟨_, same⟩ := delimits_counter (past_cons rfl _) (past_cons rfl _) (List.cons.inj same).2
  exact ⟨position, (List.cons.inj (List.cons.inj same).2).2⟩

/-- The table of a plan shows its position and its rows, and ends with them. -/
theorem delimits_shownPlan : Delimits ShownPlan.text EndsTable := by
  intro shown other rest others ends endsOther same
  simp only [ShownPlan.text, String.toList_append, List.append_assoc] at same
  obtain ⟨position, same⟩ := heading_cancel same
  -- The line with the names of the columns is the same for all plans.
  obtain ⟨rows, same⟩ := delimits_rows ends endsOther (List.append_cancel_left same)
  refine ⟨?_, same⟩
  obtain ⟨_, first, later⟩ := shown
  obtain ⟨_, otherFirst, otherLater⟩ := other
  obtain ⟨firstSame, laterSame⟩ := List.cons.inj rows
  rw [ShownPlan.mk.injEq]
  exact ⟨position, firstSame, laterSame⟩

/-- The table of a plan is not empty. -/
theorem ShownPlan.text_ne_nil (shown : ShownPlan) : shown.text ≠ [] := by
  simp [text, heading]

/-- A line break in front of every part, instead of only between them. -/
theorem lineBreak_intercalate {parts : List (List Char)} (filled : parts ≠ []) :
    '\n' :: ['\n'].intercalate parts = parts.flatMap ('\n' :: ·) := by
  induction parts with
  | nil => exact absurd rfl filled
  | cons part parts ih =>
    -- A break stands between two parts, so a part that is the last has none behind it.
    cases parts with
    | nil => simp
    | cons next parts =>
      rw [List.intercalate_cons_cons, List.flatMap_cons, ← ih (List.cons_ne_nil _ _)]
      simp

/-- Tables with blank lines between them are no text only when there are none. -/
theorem intercalate_text_eq_nil_iff (shown : List ShownPlan) :
    ['\n'].intercalate (shown.map ShownPlan.text) = [] ↔ shown = [] := by
  -- A table has its heading at least, and so is not empty.
  cases shown with
  | nil => simp
  | cons first others => cases others <;> simp [List.intercalate_cons_cons, first.text_ne_nil]

/-- Tables with line breaks between them show the plans that they are of. -/
theorem intercalate_text_injective {shown others : List ShownPlan}
    (same : ['\n'].intercalate (shown.map ShownPlan.text)
      = ['\n'].intercalate (others.map ShownPlan.text)) : shown = others := by
  by_cases empty : shown = []
  · rw [empty, eq_comm, ← intercalate_text_eq_nil_iff, ← same, empty]
    rfl
  · have filled : others ≠ [] := by
      rintro rfl
      exact empty ((intercalate_text_eq_nil_iff shown).mp same)
    -- With a line break in front of each table, the first one is no other case than the rest.
    have delimits : Delimits (fun shown : ShownPlan => '\n' :: shown.text) EndsTable :=
      fun _ _ _ _ ends endsOther same => delimits_shownPlan ends endsOther (List.cons.inj same).2
    have all : Delimits (List.flatMap fun shown : ShownPlan => '\n' :: shown.text) (· = []) :=
      delimits.flatMap (fun _ _ _ => .inr ⟨_, rfl⟩) (fun _ ended => .inl ended)
        fun _ _ => List.cons_ne_nil _ _
    have marked := congrArg (List.cons '\n') same
    rw [lineBreak_intercalate (by simpa using empty), lineBreak_intercalate (by simpa using filled),
      List.flatMap_map, List.flatMap_map] at marked
    exact (all rfl rfl (congrArg (· ++ []) marked)).1

/-- The plans with rows, at their positions from a start. -/
def shownFrom : Nat → List StitchPlan → List ShownPlan
  | _, [] => []
  | position, ⟨[]⟩ :: plans => shownFrom (position + 1) plans
  | position, ⟨first :: others⟩ :: plans =>
    ⟨position, first, others⟩ :: shownFrom (position + 1) plans

/-- A plan with rows has a table, which is that of its place. -/
theorem tableText?_cons (position : Nat) (first : Row) (others : List Row) :
    ((StitchPlan.mk (first :: others)).tableText? position).map String.toList
      = some (ShownPlan.mk position first others).text := by
  -- With a first row there is a last one as well, and the heading has both.
  have last : (StitchPlan.mk (first :: others)).last? = some (others.getLastD first) := by
    simp [StitchPlan.last?, List.getLast?_cons]
  simp [StitchPlan.tableText?, last, StitchPlan.first?, ShownPlan.text, ShownPlan.heading,
    ShownPlan.lastNumber, ShownPlan.rows, String.toList_join, List.flatMap_map]

/-- The tables of plans are those of the plans with rows. -/
theorem tableTexts_eq (start : Nat) (plans : List StitchPlan) :
    ((plans.zipIdx start).filterMap fun (plan, position) => plan.tableText? position).map
        String.toList
      = (shownFrom start plans).map ShownPlan.text := by
  induction plans generalizing start with
  | nil => rfl
  | cons plan plans ih =>
    obtain ⟨rows⟩ := plan
    -- A plan without rows still counts as a position, but has no table.
    cases rows with
    | nil => rw [List.zipIdx_cons, List.filterMap_cons_none rfl, shownFrom, ih]
    | cons first others =>
      obtain ⟨table, shown, text⟩ := Option.map_eq_some_iff.mp (tableText?_cons start first others)
      simp only [List.zipIdx_cons, List.filterMap_cons, shown, shownFrom, List.map_cons, ih, text]

/-- The text of a row table: the tables of the plans with rows, and blank lines between them. -/
theorem toList_rowTable (plans : List StitchPlan) : (rowTable plans).toList
    = ['\n'].intercalate ((shownFrom 1 plans).map ShownPlan.text) := by
  rw [rowTable, String.toList_intercalate, tableTexts_eq]
  rfl

namespace StitchPlan

/-- Whether a plan has no rows. -/
def isBlank (plan : StitchPlan) : Bool :=
  plan.rows.isEmpty

/-- Plans up to the last one that has rows. -/
def withoutBlankEnd (plans : List StitchPlan) : List StitchPlan :=
  plans.rdropWhile isBlank

variable {plan : StitchPlan} {plans others : List StitchPlan} {start : Nat}

/-- A plan in front of others is at the end only when all of them are without rows. -/
theorem withoutBlankEnd_cons : withoutBlankEnd (plan :: plans)
    = if withoutBlankEnd plans = [] ∧ plan.isBlank = true then []
      else plan :: withoutBlankEnd plans := by
  -- Dropping from the end reaches the first plan only if it has dropped all others.
  simp only [withoutBlankEnd, List.rdropWhile, List.reverse_cons, List.dropWhile_append,
    List.isEmpty_iff, List.reverse_eq_nil_iff]
  by_cases allBlank : plans.reverse.dropWhile isBlank = []
  · cases blank : plan.isBlank <;> simp [allBlank, blank]
  · simp [allBlank]

/-- Nothing is shown of plans exactly when none of them has rows. -/
theorem shownFrom_eq_nil_iff : shownFrom start plans = [] ↔ withoutBlankEnd plans = [] := by
  -- All plans are dropped from the end when none of them has rows.
  rw [withoutBlankEnd, List.rdropWhile_eq_nil_iff]
  induction plans generalizing start with
  | nil => simp [shownFrom]
  | cons plan plans ih =>
    obtain ⟨rows⟩ := plan
    cases rows <;> simp [shownFrom, isBlank, ih]

/-- What is shown from a start on is not in front of it. -/
theorem le_position {shown : ShownPlan} (member : shown ∈ shownFrom start plans) :
    start ≤ shown.position := by
  -- Positions count on from the start at each plan, shown or not.
  induction plans generalizing start with
  | nil => cases member
  | cons plan plans ih =>
    obtain ⟨rows⟩ := plan
    cases rows with
    | nil => exact Nat.le_of_succ_le (ih member)
    | cons first later =>
      rcases List.mem_cons.mp member with rfl | behind
      · exact Nat.le_refl _
      · exact Nat.le_of_succ_le (ih behind)

/-- What is shown at a place is not shown of the plans behind it. -/
theorem cons_ne_shownFrom (first : Row) (later : List Row) (rest : List ShownPlan) :
    ⟨start, first, later⟩ :: rest ≠ shownFrom (start + 1) plans := by
  -- The positions of the plans behind are greater.
  intro same
  have member : ShownPlan.mk start first later ∈ shownFrom (start + 1) plans := by
    rw [← same]
    exact List.mem_cons_self
  exact absurd (le_position member) (Nat.not_succ_le_self start)

/-- Plans without rows at the end are not shown. -/
theorem shownFrom_withoutBlankEnd : shownFrom start (withoutBlankEnd plans)
    = shownFrom start plans := by
  induction plans generalizing start with
  | nil => rfl
  | cons plan plans ih =>
    obtain ⟨rows⟩ := plan
    rw [withoutBlankEnd_cons]
    split
    · -- The plan is dropped since it and all behind it are without rows, and so show nothing.
      rename_i ended
      obtain ⟨allBlank, blank⟩ := ended
      cases rows with
      | nil => rw [shownFrom, shownFrom, shownFrom_eq_nil_iff.mpr allBlank]
      | cons first later => cases blank
    · cases rows <;> rw [shownFrom, shownFrom, ih]

/-- The plans up to the last one with rows can be told from what is shown of them. -/
theorem withoutBlankEnd_eq_of_shownFrom (same : shownFrom start plans = shownFrom start others) :
    withoutBlankEnd plans = withoutBlankEnd others := by
  induction plans generalizing start others with
  | nil => exact (shownFrom_eq_nil_iff.mp same.symm).symm
  | cons plan plans ih =>
    cases others with
    | nil => exact shownFrom_eq_nil_iff.mp same
    | cons other others =>
      obtain ⟨rows⟩ := plan
      obtain ⟨otherRows⟩ := other
      -- A plan that is shown stands at the start, where no later one can stand.
      cases rows with
      | nil =>
        cases otherRows with
        -- Two plans without rows shift the start alike.
        | nil => rw [withoutBlankEnd_cons, withoutBlankEnd_cons, ih same]
        | cons first later =>
          rw [shownFrom, shownFrom] at same
          exact absurd same.symm (cons_ne_shownFrom first later _)
      | cons first later =>
        cases otherRows with
        | nil =>
          rw [shownFrom, shownFrom] at same
          exact absurd same (cons_ne_shownFrom first later _)
        | cons otherFirst otherLater =>
          -- The first plans that are shown agree in their rows, and so do all behind them.
          obtain ⟨here, behind⟩ := List.cons.inj same
          obtain ⟨-, rfl, rfl⟩ := ShownPlan.mk.inj here
          rw [withoutBlankEnd_cons, withoutBlankEnd_cons, ih behind]

/--
The text of a row table tells the plans up to the last one with rows.

Two lists of plans have the same table exactly when they agree so far, in every row at its place.
-/
theorem rowTable_eq_iff (plans others : List StitchPlan) :
    rowTable plans = rowTable others ↔ withoutBlankEnd plans = withoutBlankEnd others := by
  -- A table tells what it shows, and that tells the plans up to those without rows at the end.
  rw [← String.toList_inj, toList_rowTable, toList_rowTable]
  constructor
  · intro same
    exact withoutBlankEnd_eq_of_shownFrom (intercalate_text_injective same)
  · intro same
    rw [← shownFrom_withoutBlankEnd, same, shownFrom_withoutBlankEnd]

end StitchPlan

end FlatKnit
