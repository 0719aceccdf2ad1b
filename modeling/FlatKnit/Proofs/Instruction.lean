import FlatKnit.Instruction
import FlatKnit.Proofs.Text.Delimited

/-! Texts of instructions: an instruction that is no remark can be told from its line. -/

namespace FlatKnit

/-- A count of stitches: its number, a blank, and the noun. -/
theorem toList_stitchesText (count : Int64) : (stitchesText count).toList = (toString count).toList
    ++ ' ' :: (if count.abs == 1 then "stitch" else "stitches").toList := by
  unfold stitchesText
  split <;> simp

/-- A count of stitches ends with its noun, whatever follows. -/
theorem delimits_stitchesText :
    Delimits (fun count : Int64 => (stitchesText count).toList) (fun _ => True) := by
  intro count other rest others _ _ same
  simp only [toList_stitchesText, List.append_assoc, List.cons_append] at same
  -- The noun depends on nothing but the number.
  obtain ⟨rfl, behind⟩ := writesNumbers_word.delimits (past_cons rfl _) (past_cons rfl _) same
  exact ⟨rfl, List.append_cancel_left (List.cons.inj behind).2⟩

/-- A count of rows: its number, a blank, and the noun. -/
theorem toList_rowsText (count : UInt32) : (rowsText count).toList = (toString count).toList
    ++ ' ' :: (if count == 1 then "row" else "rows").toList := by
  unfold rowsText
  split <;> simp

/-- A count of rows ends with its noun, whatever follows. -/
theorem delimits_rowsText :
    Delimits (fun count : UInt32 => (rowsText count).toList) (fun _ => True) := by
  -- The digits end at the blank, and the noun then depends on the count alone.
  intro count other rest others _ _ same
  simp only [toList_rowsText, List.append_assoc, List.cons_append] at same
  obtain ⟨rfl, behind⟩ := delimits_counter (past_cons rfl _) (past_cons rfl _) same
  exact ⟨rfl, List.append_cancel_left (List.cons.inj behind).2⟩

/-- Where the knitter stands: the counter up to a comma, and the stitches up to a blank. -/
theorem toList_standing (counter : UInt32) (stitches : Int64) :
    (standing counter stitches).toList = "(RC=".toList ++ ((toString counter).toList ++
      ',' :: ' ' :: ((toString stitches).toList ++ ' ' :: "sts in work)".toList)) := by
  simp [standing]

/-- Where the knitter stands is told by its text, whatever follows. -/
theorem standing_cancel {counter otherCounter : UInt32} {stitches otherStitches : Int64}
    {rest others : List Char} (same : (standing counter stitches).toList ++ rest
      = (standing otherCounter otherStitches).toList ++ others) :
    counter = otherCounter ∧ stitches = otherStitches ∧ rest = others := by
  -- The two numbers are read off one after the other, with the words around them known.
  simp only [toList_standing, List.append_assoc, List.cons_append] at same
  obtain ⟨rfl, onward⟩ := delimits_counter (past_cons rfl _) (past_cons rfl _)
    (List.append_cancel_left same)
  obtain ⟨rfl, behind⟩ := writesNumbers_word.delimits (past_cons rfl _) (past_cons rfl _)
    (List.cons.inj (List.cons.inj onward).2).2
  exact ⟨rfl, rfl, List.append_cancel_left (List.cons.inj behind).2⟩

/-- An edge of the work. -/
inductive Side where
  | left
  | right
  deriving DecidableEq

/-- The word for an edge. -/
def Side.name : Side → String
  | left => "left"
  | right => "right"

/-- The change at an edge that is shaped. -/
structure EdgeChange where
  side : Side
  change : Int64
  shaped : change ≠ 0

namespace EdgeChange

/-- The clause for the change. -/
def text (edge : EdgeChange) : List Char :=
  (shapingClause edge.change edge.side.name).toList

/-- The word for the direction of the change. -/
def verb (edge : EdgeChange) : String :=
  if 0 < edge.change then "Increase " else "Decrease "

/-- The stitches that are added or taken away. -/
def size (edge : EdgeChange) : Int64 :=
  if 0 < edge.change then edge.change else -edge.change

/-- The clause for a change: its verb, its size, and its edge. -/
theorem text_eq (edge : EdgeChange) : edge.text = edge.verb.toList ++
    ((stitchesText edge.size).toList ++ (" on the ".toList ++
      (edge.side.name.toList ++ ['.', ' ']))) := by
  by_cases more : 0 < edge.change
  · simp [text, shapingClause, verb, size, more]
  · -- The edge is shaped, so that its change is below zero when it is not above.
    have less : edge.change < 0 := Int64.lt_of_le_of_ne (Int64.not_lt.mp more) edge.shaped
    simp [text, shapingClause, verb, size, more, less]

/-- The verb tells the direction, whatever follows. -/
theorem verb_cancel {edge other : EdgeChange} {rest others : List Char}
    (same : edge.verb.toList ++ rest = other.verb.toList ++ others) :
    (0 < edge.change ↔ 0 < other.change) ∧ rest = others := by
  -- The two verbs differ in their first letters already.
  by_cases more : 0 < edge.change <;> by_cases otherMore : 0 < other.change
  · simpa [verb, more, otherMore] using same
  · simp [verb, more, otherMore] at same
  · simp [verb, more, otherMore] at same
  · simpa [verb, more, otherMore] using same

/-- The word for an edge tells which one it is, whatever follows. -/
theorem name_cancel {side other : Side} {rest others : List Char}
    (same : side.name.toList ++ rest = other.name.toList ++ others) :
    side = other ∧ rest = others := by
  -- The two names differ in their first letters.
  cases side <;> cases other
  · simpa [Side.name] using same
  · simp [Side.name] at same
  · simp [Side.name] at same
  · simpa [Side.name] using same

/-- Changes of one direction and one size at one edge are the same. -/
theorem eq_of_size {edge other : EdgeChange} (side : edge.side = other.side)
    (direction : 0 < edge.change ↔ 0 < other.change) (size : edge.size = other.size) :
    edge = other := by
  obtain ⟨_, change, _⟩ := edge
  obtain ⟨_, otherChange, _⟩ := other
  obtain rfl := side
  -- The size is the change, or its negative; with the direction known, either gives the change
  -- back.
  simp only [EdgeChange.size, direction] at size
  split at size
  · obtain rfl := size
    rfl
  · obtain rfl := Int64.neg_inj.mp size
    rfl

/-- The clause for a change tells the edge and the change, whatever follows. -/
theorem delimits_text : Delimits EdgeChange.text (fun _ => True) := by
  intro edge other rest others _ _ same
  rw [text_eq, text_eq] at same
  simp only [List.append_assoc, List.cons_append, List.nil_append] at same
  -- The verb, the size and the name of the edge are taken off one after the other.
  obtain ⟨direction, same⟩ := verb_cancel same
  obtain ⟨size, same⟩ := delimits_stitchesText trivial trivial same
  obtain ⟨side, same⟩ := name_cancel (List.append_cancel_left same)
  exact ⟨eq_of_size side direction size, (List.cons.inj (List.cons.inj same).2).2⟩

/-- The clause for a change starts with its verb, which is not that for knitting. -/
theorem text_starts (edge : EdgeChange) :
    (∃ others, edge.text = 'I' :: others) ∨ ∃ others, edge.text = 'D' :: 'e' :: others := by
  -- The two verbs start with different letters, neither of them that of knitting.
  rw [text_eq]
  by_cases more : 0 < edge.change
  · left
    simp [verb, more]
  · right
    simp [verb, more]

/-- No clause for a change starts as the line does that it stands in front of. -/
theorem text_append_ne (edge : EdgeChange) (rest others : List Char) :
    edge.text ++ rest ≠ 'K' :: others := by
  -- The first letter of a clause is that of one of two verbs.
  obtain ⟨_, started⟩ | ⟨_, started⟩ := edge.text_starts
  · simp [started]
  · simp [started]

end EdgeChange

/-- The change at an edge, if it is shaped. -/
def edgeChange (side : Side) (change : Int64) : List EdgeChange :=
  if shaped : change ≠ 0 then [⟨side, change, shaped⟩] else []

/-- An edge that stays has no clause, and the change of another one has its own. -/
theorem flatMap_edgeChange (side : Side) (change : Int64) :
    (edgeChange side change).flatMap EdgeChange.text = (shapingClause change side.name).toList := by
  -- There is one clause for an edge, or none when it does not change.
  by_cases shaped : change = 0
  · simp [edgeChange, shapingClause, shaped]
  · simp [edgeChange, EdgeChange.text, shaped]

/-- The changes of a shaping line tell those of both edges. -/
theorem edgeChanges_inj {left right otherLeft otherRight : Int64}
    (same : edgeChange .left left ++ edgeChange .right right
      = edgeChange .left otherLeft ++ edgeChange .right otherRight) :
    left = otherLeft ∧ right = otherRight := by
  -- Each of the four edges may be shaped or not, and a change at the left is none at the right.
  unfold edgeChange at same
  split at same <;> split at same <;> split at same <;> split at same <;> simp_all

/-- The clauses end where the knitting begins. -/
theorem delimits_clauses :
    Delimits (List.flatMap EdgeChange.text) (fun rest => ∃ others, rest = 'K' :: others) := by
  -- Each clause is delimited, and none of them looks like the end of the list.
  apply EdgeChange.delimits_text.flatMap (fun _ _ _ => trivial) (fun _ _ => trivial)
  rintro edge rest ⟨others, knits⟩
  exact edge.text_append_ne rest others knits

namespace Instruction

/-- Whether a line is a remark of the designer. -/
def isNote : Instruction → Bool
  | note _ => true
  | _ => false

/-- What a line does, as far as its first letters tell. -/
inductive Opening where
  | castOn
  | knit
  | divide
  | sectioned
  | bindOff
  deriving DecidableEq

/-- What a line that is no remark does. -/
def opening : Instruction → Opening
  | castOn _ => .castOn
  | divide _ => .divide
  | startSection _ _ => .sectioned
  | bindOffSection _ _ => .sectioned
  | bindOff _ => .bindOff
  | _ => .knit

/-- What the first letters of a line tell. -/
def openingOf : List Char → Opening
  | 'C' :: _ => .castOn
  | 'D' :: 'i' :: _ => .divide
  | 'S' :: _ => .sectioned
  | 'B' :: _ => .bindOff
  | _ => .knit

/-- The text of a line with rows: its changes, the count of rows, and what stands behind it. -/
def rowsLine (changes : List EdgeChange) (rows : UInt32) (rest : List Char) : List Char :=
  changes.flatMap EdgeChange.text ++ 'K' :: ("nit ".toList ++ ((rowsText rows).toList ++ rest))

/-- A line with rows tells its changes, its count of rows, and what stands behind it. -/
theorem rowsLine_inj {changes otherChanges : List EdgeChange} {rows otherRows : UInt32}
    {rest others : List Char}
    (same : rowsLine changes rows rest = rowsLine otherChanges otherRows others) :
    changes = otherChanges ∧ rows = otherRows ∧ rest = others := by
  -- The clauses for the changes end where the knitting starts, and its count of rows comes next.
  obtain ⟨rfl, knits⟩ := delimits_clauses ⟨_, rfl⟩ ⟨_, rfl⟩ same
  obtain ⟨rfl, behind⟩ := delimits_rowsText trivial trivial
    (List.append_cancel_left (List.cons.inj knits).2)
  exact ⟨rfl, rfl, behind⟩

-- The lines are read letter by letter below, so their texts are always spelled out.
attribute [local simp] text

/-- The text of rows without shaping. -/
theorem toList_text_knitRows (rows counter : UInt32) (stitches : Int64) :
    (knitRows rows counter stitches).text.toList
      = rowsLine [] rows (' ' :: ((standing counter stitches).toList ++ ['.'])) := by
  simp [rowsLine]

/-- The text of rows with shaping. -/
theorem toList_text_shaping (left right : Int64) (rows counter : UInt32) (stitches : Int64) :
    (shaping left right rows counter stitches).text.toList
      = rowsLine (edgeChange .left left ++ edgeChange .right right) rows
          ('.' :: ' ' :: (standing counter stitches).toList) := by
  rw [rowsLine, List.flatMap_append, flatMap_edgeChange, flatMap_edgeChange]
  simp [Side.name]

/-- Rows without shaping do not read like rows of which the last one shapes the edges. -/
theorem toList_text_knitRows_ne {rows counter otherRows otherCounter : UInt32}
    {stitches left right otherStitches : Int64} :
    (knitRows rows counter stitches).text.toList ≠
      (shaping left right otherRows otherCounter otherStitches).text.toList := by
  intro same
  rw [toList_text_knitRows, toList_text_shaping] at same
  -- Behind the count of rows there is a blank, or a full stop.
  obtain ⟨_, _, standings⟩ := rowsLine_inj same
  cases (List.cons.inj standings).1

/-- A line with rows starts with the verb for a change, or for knitting. -/
theorem openingOf_rowsLine (changes : List EdgeChange) (rows : UInt32) (rest : List Char) :
    openingOf (rowsLine changes rows rest) = .knit := by
  -- Neither verb for a change is taken for another line; of dividing, the second letter differs.
  cases changes with
  | nil => rfl
  | cons edge changes =>
    obtain ⟨_, started⟩ | ⟨_, started⟩ := edge.text_starts
    · rw [rowsLine, List.flatMap_cons, started]
      rfl
    · rw [rowsLine, List.flatMap_cons, started]
      rfl

/-- The first letters of a line tell what it does. -/
theorem openingOf_text {line : Instruction} (noNote : line.isNote = false) :
    openingOf line.text.toList = line.opening := by
  -- Lines that cover rows start with the rows, and so are told apart by what their clause says.
  cases line with
  | castOn stitches => simp [openingOf, opening]
  | knitRows rows counter stitches =>
    rw [toList_text_knitRows, openingOf_rowsLine]
    rfl
  | shaping left right rows counter stitches =>
    rw [toList_text_shaping, openingOf_rowsLine]
    rfl
  | note remark => cases noNote
  | divide sections => simp [openingOf, opening]
  | startSection index stitches => simp [openingOf, opening]
  | bindOffSection index stitches => simp [openingOf, opening]
  | bindOff stitches => simp [openingOf, opening]

/-- The text of a line for a section: its index, and what stands behind a colon. -/
def sectionLine (index : Nat) (rest : List Char) : List Char :=
  'S' :: ("ection ".toList ++ ((toString index).toList ++ ':' :: ' ' :: rest))

/-- A line for a section tells its index, and what stands behind it. -/
theorem sectionLine_inj {index otherIndex : Nat} {rest others : List Char}
    (same : sectionLine index rest = sectionLine otherIndex others) :
    index = otherIndex ∧ rest = others := by
  -- The digits of the index end at the colon behind them.
  obtain ⟨rfl, behind⟩ := delimits_nat (past_cons rfl _) (past_cons rfl _)
    (List.append_cancel_left (List.cons.inj same).2)
  exact ⟨rfl, (List.cons.inj (List.cons.inj behind).2).2⟩

/-- The text of a section that goes on. -/
theorem toList_text_startSection (index : Nat) (stitches : Int64) :
    (startSection index stitches).text.toList
      = sectionLine index (stitchesText stitches).toList := by
  simp [sectionLine]

/-- The text of a section that ends at once. -/
theorem toList_text_bindOffSection (index : Nat) (stitches : Int64) :
    (bindOffSection index stitches).text.toList
      = sectionLine index ('b' :: ("ind off ".toList ++
          ((stitchesText stitches).toList ++ ['.']))) := by
  simp [sectionLine]

/-- A count of stitches does not start with a letter. -/
theorem stitchesText_ne (count : Int64) (rest : List Char) :
    (stitchesText count).toList ≠ 'b' :: rest := by
  -- It starts with its number, and so with a digit or a sign.
  rw [toList_stitchesText]
  obtain ⟨first, others, started, numeral⟩ := writesNumbers_word.starts count
    (' ' :: (if count.abs == 1 then "stitch" else "stitches").toList)
  rw [started]
  rintro ⟨⟩
  cases numeral

section Told

variable {line other : Instruction}

/-- Lines for sections are told apart by their texts. -/
theorem eq_of_sectioned (sectioned : line.opening = .sectioned)
    (otherSectioned : other.opening = .sectioned) (same : line.text.toList = other.text.toList) :
    line = other := by
  cases line with
  | startSection index stitches =>
    cases other with
    | startSection otherIndex otherStitches =>
      rw [toList_text_startSection, toList_text_startSection] at same
      -- The index comes first, and the count of stitches is all that follows it.
      obtain ⟨rfl, counts⟩ := sectionLine_inj same
      obtain ⟨rfl, _⟩ := delimits_stitchesText trivial trivial (congrArg (· ++ []) counts)
      rfl
    | bindOffSection otherIndex otherStitches =>
      -- One goes on with a count, and the other one with a word.
      rw [toList_text_startSection, toList_text_bindOffSection] at same
      exact absurd (sectionLine_inj same).2 (stitchesText_ne _ _)
    | _ => cases otherSectioned
  | bindOffSection index stitches =>
    cases other with
    | startSection otherIndex otherStitches =>
      rw [toList_text_startSection, toList_text_bindOffSection] at same
      exact absurd (sectionLine_inj same).2.symm (stitchesText_ne _ _)
    | bindOffSection otherIndex otherStitches =>
      rw [toList_text_bindOffSection, toList_text_bindOffSection] at same
      obtain ⟨rfl, counts⟩ := sectionLine_inj same
      obtain ⟨rfl, _⟩ := delimits_stitchesText trivial trivial
        (List.append_cancel_left (List.cons.inj counts).2)
      rfl
    | _ => cases otherSectioned
  | _ => cases sectioned

/-- Lines with rows, shaped or not, are told apart by their texts. -/
theorem eq_of_knit (noNote : line.isNote = false) (otherNoNote : other.isNote = false)
    (knits : line.opening = .knit) (otherKnits : other.opening = .knit)
    (same : line.text.toList = other.text.toList) : line = other := by
  cases line with
  | knitRows rows counter stitches =>
    cases other with
    | knitRows otherRows otherCounter otherStitches =>
      rw [toList_text_knitRows, toList_text_knitRows] at same
      obtain ⟨_, rfl, standings⟩ := rowsLine_inj same
      obtain ⟨rfl, rfl, _⟩ := standing_cancel (List.cons.inj standings).2
      rfl
    | shaping otherLeft otherRight otherRows otherCounter otherStitches =>
      exact (toList_text_knitRows_ne same).elim
    | note remark => cases otherNoNote
    | _ => cases otherKnits
  | shaping left right rows counter stitches =>
    cases other with
    | knitRows otherRows otherCounter otherStitches =>
      exact (toList_text_knitRows_ne same.symm).elim
    | shaping otherLeft otherRight otherRows otherCounter otherStitches =>
      rw [toList_text_shaping, toList_text_shaping] at same
      obtain ⟨changes, rfl, standings⟩ := rowsLine_inj same
      obtain ⟨rfl, rfl⟩ := edgeChanges_inj changes
      obtain ⟨rfl, rfl, _⟩ := standing_cancel
        (congrArg (· ++ []) (List.cons.inj (List.cons.inj standings).2).2)
      rfl
    | note remark => cases otherNoNote
    | _ => cases otherKnits
  | note remark => cases noNote
  | _ => cases knits

/--
A line that is no remark can be told from its text.

Its kind, its counts and its signed changes can all be read off, so that no two lines look alike.
-/
theorem text_eq_iff (noNote : line.isNote = false) (otherNoNote : other.isNote = false) :
    line.text = other.text ↔ line = other := by
  refine ⟨fun same => ?_, congrArg text⟩
  have texts := congrArg String.toList same
  -- The first letters leave one kind of line, or two for rows and two for sections.
  have openings : line.opening = other.opening := by
    rw [← openingOf_text noNote, texts, openingOf_text otherNoNote]
  cases line with
  | castOn stitches =>
    cases other with
    | castOn otherStitches =>
      simp only [text, String.toList_append, List.append_assoc] at texts
      obtain ⟨rfl, _⟩ := delimits_stitchesText trivial trivial (List.append_cancel_left texts)
      rfl
    | _ => cases openings
  | bindOff stitches =>
    cases other with
    | bindOff otherStitches =>
      simp only [text, String.toList_append, List.append_assoc] at texts
      obtain ⟨rfl, _⟩ := delimits_stitchesText trivial trivial (List.append_cancel_left texts)
      rfl
    | _ => cases openings
  | divide sections =>
    cases other with
    | divide otherSections =>
      simp only [text, String.toList_append, List.append_assoc] at texts
      have past : Past Char.isDigit " sections:".toList := by simp [Past]
      obtain ⟨rfl, _⟩ := delimits_nat past past (List.append_cancel_left texts)
      rfl
    | _ => cases openings
  | startSection _ _ => exact eq_of_sectioned rfl openings.symm texts
  | bindOffSection _ _ => exact eq_of_sectioned rfl openings.symm texts
  | knitRows _ _ _ => exact eq_of_knit noNote otherNoNote rfl openings.symm texts
  | shaping _ _ _ _ _ => exact eq_of_knit noNote otherNoNote rfl openings.symm texts
  | note remark => cases noNote

/-- Rows without shaping do not look like a shaping line that shapes neither edge. -/
theorem unshaped_text_ne : (knitRows 3 3 8).isNote = false ∧ (shaping 0 0 3 3 8).isNote = false ∧
    (knitRows 3 3 8).text ≠ (shaping 0 0 3 3 8).text := by
  -- The two lines differ, and so must their texts.
  refine ⟨rfl, rfl, fun same => ?_⟩
  cases (text_eq_iff rfl rfl).mp same

end Told

end Instruction

end FlatKnit
