import FlatKnit.Proofs.Shape.Sections

/-! Notes of a timeline: a visited node has its notes in one block, right after its row lines. -/

namespace FlatKnit

/-- The text of a note. -/
def Instruction.note? : Instruction → Option String
  | note text => some text
  | _ => none

/-- The texts of the notes among lines, in their order. -/
def noteTexts (lines : List Instruction) : List String :=
  lines.filterMap Instruction.note?

/-- Later lines add their notes to those before them. -/
@[simp] theorem noteTexts_append (lines later : List Instruction) :
    noteTexts (lines ++ later) = noteTexts lines ++ noteTexts later :=
  List.filterMap_append

/-- A line that marks a piece is no note. -/
theorem noteTexts_cons_of_marksPiece {line : Instruction} (marks : line.marksPiece = true)
    (lines : List Instruction) : noteTexts (line :: lines) = noteTexts lines := by
  -- A line is of one kind only.
  have none : line.note? = none := by
    cases line <;> simp_all [Instruction.note?, Instruction.marksPiece]
  exact List.filterMap_cons_none none

/-- There are no notes among the lines of a plan. -/
@[simp] theorem StitchPlan.noteTexts_compile (plan : StitchPlan) : noteTexts plan.compile = [] := by
  -- Every line of a plan covers rows, and a line that does is no note.
  rw [noteTexts, List.filterMap_eq_nil_iff]
  intro line member
  have covers := coversRows_compile member
  cases line <;> simp_all [Instruction.note?, Instruction.coversRows, Instruction.rows?]

/-- The notes among the lines of a segment alone are those of the segment. -/
@[simp] theorem Segment.noteTexts_ownLines (segment : Segment) (plan : StitchPlan) :
    noteTexts (segment.ownLines plan) = segment.notes := by
  -- The lines of the plan hold no notes, and each note after them has its own text.
  have notes : noteTexts (segment.notes.map .note) = segment.notes := by
    rw [noteTexts, List.filterMap_map]
    exact List.filterMap_some
  rw [ownLines, noteTexts_append, StitchPlan.noteTexts_compile, List.nil_append, notes]

namespace Shape

/-- The notes of the node at the end of a way. -/
def notesAt (shape : Shape) (way : List Nat) : List String :=
  match shape.nodeAt? way with
  | some found => found.segment.notes
  | none => []

section Ways

variable {shape child found : Shape} {index : Nat}

/-- The notes at the root are those of its segment. -/
@[simp] theorem notesAt_nil (shape : Shape) : shape.notesAt [] = shape.segment.notes :=
  rfl

/-- The notes at the end of ways through a successor are found in that successor. -/
theorem flatMap_notesAt_cons (taken : shape.successors[index]? = some child)
    (ways : List (List Nat)) :
    (ways.map (index :: ·)).flatMap shape.notesAt = ways.flatMap child.notesAt := by
  -- The first step of each way leads to the successor, and the rest goes on from it.
  rw [List.flatMap_map]
  apply List.flatMap_congr
  intro way _
  rw [notesAt, nodeAt?_cons taken, notesAt]

/-- A way goes on from each node that it reaches. -/
theorem nodeAt?_append {way : List Nat} (further : List Nat) :
    ∀ {shape : Shape}, shape.nodeAt? way = some found →
      shape.nodeAt? (way ++ further) = found.nodeAt? further := by
  -- The first step of the way leads into a successor, where the rest of it goes on.
  induction way with
  | nil =>
    intro shape reached
    rw [List.nil_append, Option.some.inj reached]
  | cons index way ih =>
    intro shape reached
    obtain ⟨child, taken, within⟩ := Option.bind_eq_some_iff.mp reached
    rw [List.cons_append, nodeAt?_cons taken, ih within]

/-- The notes at the end of ways through a node are found in that node. -/
theorem flatMap_notesAt_append {way : List Nat} (reached : shape.nodeAt? way = some found)
    (ways : List (List Nat)) :
    (ways.map (way ++ ·)).flatMap shape.notesAt = ways.flatMap found.notesAt := by
  -- Each way leads to the node first, and the rest goes on from it.
  rw [List.flatMap_map]
  apply List.flatMap_congr
  intro further _
  rw [notesAt, nodeAt?_append further reached, notesAt]

end Ways

/-- The visited ways are the empty one and those through the successors. -/
theorem visitedWays_eq (fit : Fit) (shape : Shape) :
    visitedWays fit shape = [] :: successorWays fit 0 shape.successors := by
  cases shape with
  | node segment successors => rw [visitedWays, Shape.successors]

mutual

/-- The notes among the lines of a shape are those of its visited nodes, in the order of ways. -/
theorem noteTexts_lines (fit : Fit) :
    ∀ (start : UInt32) (shape : Shape),
      noteTexts (shape.lines fit start) = (visitedWays fit shape).flatMap shape.notesAt
  | start, .node segment [] => by
    -- A leaf has its own notes, and its bind-off is no note.
    rw [lines, noteTexts_append, Segment.noteTexts_ownLines, visitedWays, successorWays,
      List.flatMap_singleton, notesAt_nil, noteTexts_cons_of_marksPiece rfl]
    exact List.append_nil _
  | start, .node segment [only] => by
    -- A single successor gives the notes of its own ways, or none when it is bound off.
    have continued := noteTexts_lines fit ((segment.plan fit start).nextRow start) only
    have taken : (node segment [only]).successors[0]? = some only := rfl
    rw [lines, noteTexts_append, Segment.noteTexts_ownLines, visitedWays, successorWays,
      successorWays, List.append_nil, List.flatMap_cons, notesAt_nil]
    congr 1
    cases knitted : only.segment.isKnitted fit with
    | true => rw [if_pos rfl, if_pos rfl, continued, flatMap_notesAt_cons taken]
    | false => rfl
  | start, .node segment (first :: second :: rest) => by
    have sections := noteTexts_sectionLines fit ((segment.plan fit start).nextRow start) 1
      (node segment (first :: second :: rest)) 0 (first :: second :: rest)
      fun position child listed => by rw [Nat.zero_add]; exact listed
    rw [lines, noteTexts_append, Segment.noteTexts_ownLines, visitedWays, List.flatMap_cons,
      notesAt_nil, noteTexts_cons_of_marksPiece rfl, sections]
    rfl

/-- The notes among the lines of sections are those of the nodes that ways through them end in. -/
theorem noteTexts_sectionLines (fit : Fit) :
    ∀ (start : UInt32) (first : Nat) (parent : Shape) (index : Nat) (shapes : List Shape),
      (∀ (position : Nat) (child : Shape), shapes[position]? = some child →
        parent.successors[index + position]? = some child) →
      noteTexts (sectionLines fit start first shapes)
        = (successorWays fit index shapes).flatMap parent.notesAt
  | _, _, _, _, [], _ => rfl
  | start, first, parent, index, shape :: shapes, listed => by
    have taken : parent.successors[index]? = some shape := listed 0 shape rfl
    have later := noteTexts_sectionLines fit start (first + 1) parent (index + 1) shapes
      fun position child among => by
        rw [Nat.add_right_comm, Nat.add_assoc]
        exact listed (position + 1) child among
    rw [sectionLines, successorWays, noteTexts_append, List.flatMap_append, later]
    congr 1
    -- The header of a section is no note, and neither is the line that binds it off.
    cases knitted : shape.segment.isKnitted fit with
    | true =>
      rw [if_pos rfl, if_pos rfl, noteTexts_cons_of_marksPiece rfl,
        noteTexts_lines fit start shape, flatMap_notesAt_cons taken]
    | false => rfl

end

section Split

variable {fit : Fit} {child : Shape}

/-- The lines of sections split at each knitted one, which follow its header. -/
theorem sectionLines_split (knitted : child.segment.isKnitted fit = true) (start : UInt32)
    {shapes : List Shape} :
    ∀ (first : Nat) {index : Nat}, shapes[index]? = some child →
      sectionLines fit start first shapes
        = sectionLines fit start first (shapes.take index)
          ++ .startSection (first + index) (child.segment.lowerStitches fit) ::
            child.lines fit start
          ++ sectionLines fit start (first + index + 1) (shapes.drop (index + 1)) := by
  -- Sections before the one at the index are passed over one by one.
  induction shapes with
  | nil => simp
  | cons shape shapes ih =>
    intro first index taken
    cases index with
    | zero =>
      obtain rfl : shape = child := Option.some.inj taken
      simp [sectionLines, knitted]
    | succ index =>
      rw [sectionLines, ih (first + 1) taken, List.take_succ_cons, List.drop_succ_cons,
        sectionLines, Nat.add_right_comm first 1 index, Nat.add_assoc first index 1]
      simp only [List.append_assoc]

/-- The ways through a list of successors split at each knitted one. -/
theorem successorWays_split (knitted : child.segment.isKnitted fit = true) {shapes : List Shape} :
    ∀ (first : Nat) {index : Nat}, shapes[index]? = some child →
      successorWays fit first shapes
        = successorWays fit first (shapes.take index)
          ++ (visitedWays fit child).map ((first + index) :: ·)
          ++ successorWays fit (first + index + 1) (shapes.drop (index + 1)) := by
  -- The induction is on the successors, for any number that the first of them has.
  induction shapes with
  | nil => simp
  | cons shape shapes ih =>
    intro first index taken
    cases index with
    | zero =>
      obtain rfl : shape = child := Option.some.inj taken
      simp [successorWays, knitted]
    | succ index =>
      rw [successorWays, ih (first + 1) taken, List.take_succ_cons, List.drop_succ_cons,
        successorWays, Nat.add_right_comm first 1 index, Nat.add_assoc first index 1]
      simp only [List.append_assoc]

/-- The lines of a knitted successor are one stretch of those behind its parent's own lines. -/
theorem lines_split {parent : Shape} {index : Nat} (start : UInt32)
    (taken : parent.successors[index]? = some child)
    (knitted : child.segment.isKnitted fit = true) :
    ∃ before after, parent.lines fit start
        = parent.segment.ownLines (parent.segment.plan fit start)
          ++ (before ++ child.lines fit ((parent.segment.plan fit start).nextRow start) ++ after) ∧
      noteTexts before
        = (successorWays fit 0 (parent.successors.take index)).flatMap parent.notesAt ∧
      noteTexts after = (successorWays fit (index + 1)
        (parent.successors.drop (index + 1))).flatMap parent.notesAt := by
  obtain ⟨segment, successors⟩ := parent
  simp only [Shape.segment, Shape.successors] at taken ⊢
  cases successors with
  | nil => simp at taken
  | cons first rest =>
    cases rest with
    | nil =>
      -- A single successor leaves nothing to stand before or behind it.
      cases index with
      | zero =>
        obtain rfl : first = child := Option.some.inj taken
        exact ⟨[], [], by simp [lines, knitted], rfl, rfl⟩
      | succ index => simp at taken
    | cons second rest =>
      -- The division and the sections before it come first, and later sections follow.
      rw [lines]
      generalize (segment.plan fit start).nextRow start = next
      have earlier := noteTexts_sectionLines fit next 1 (node segment (first :: second :: rest)) 0
        ((first :: second :: rest).take index) fun position found listed => by
          rw [List.getElem?_take, Option.ite_none_right_eq_some] at listed
          rw [Nat.zero_add]
          exact listed.2
      have later := noteTexts_sectionLines fit next (1 + index + 1)
        (node segment (first :: second :: rest)) (index + 1)
        ((first :: second :: rest).drop (index + 1)) fun position found listed => by
          rwa [List.getElem?_drop] at listed
      refine ⟨.divide (rest.length + 2) ::
        (sectionLines fit next 1 ((first :: second :: rest).take index)
          ++ [.startSection (1 + index) (child.segment.lowerStitches fit)]),
        sectionLines fit next (1 + index + 1) ((first :: second :: rest).drop (index + 1)),
        ?_, ?_, later⟩
      · rw [sectionLines_split knitted next 1 taken]
        simp only [List.append_assoc, List.cons_append, List.nil_append]
      · rw [noteTexts_cons_of_marksPiece rfl, noteTexts_append, earlier]
        exact List.append_nil _

end Split

/--
The lines of a node and of all that follows it are one passage of the lines of a shape.

The ways through the node are one stretch of all ways, and the notes on either side of the passage
are those of the ways on either side of the stretch.
-/
structure Passage (fit : Fit) (start : UInt32) (shape : Shape) (way : List Nat) (found : Shape)
    (before after : List Instruction) (earlier later : List (List Nat)) : Prop where
  reached : shape.nodeAt? way = some found
  lines : shape.lines fit start
    = before ++ found.lines fit (shape.startAt fit start way) ++ after
  ways : visitedWays fit shape = earlier ++ (visitedWays fit found).map (way ++ ·) ++ later
  notesBefore : noteTexts before = earlier.flatMap shape.notesAt
  notesAfter : noteTexts after = later.flatMap shape.notesAt

section Passages

variable {fit : Fit} {start : UInt32} {shape parent child : Shape} {way : List Nat} {index : Nat}

/-- The whole shape is the passage of its root. -/
theorem passage_root (fit : Fit) (start : UInt32) (shape : Shape) :
    shape.Passage fit start [] shape [] [] [] [] where
  reached := rfl
  lines := by
    have begins : shape.startAt fit start [] = start := by simp [startAt, rowsBefore]
    rw [begins, List.nil_append, List.append_nil]
  ways := by simp
  notesBefore := rfl
  notesAfter := rfl

/-- A successor starts at the row after its parent. -/
theorem startAt_append (reached : shape.nodeAt? way = some parent) :
    shape.startAt fit start (way ++ [index])
      = (parent.segment.plan fit (shape.startAt fit start way)).nextRow
          (shape.startAt fit start way) := by
  -- The rows before the successor are those before its parent and those of the parent.
  rw [Segment.nextRow_plan, startAt, rowsBefore_append, UInt32.ofNat_add, ← UInt32.add_assoc,
    startAt, rowsAt, reached]

/-- The passage of a knitted successor lies within that of its parent. -/
theorem Passage.successor {before after : List Instruction} {earlier later : List (List Nat)}
    (passage : shape.Passage fit start way parent before after earlier later)
    (taken : parent.successors[index]? = some child)
    (knitted : child.segment.isKnitted fit = true) :
    ∃ before after earlier later,
      shape.Passage fit start (way ++ [index]) child before after earlier later := by
  obtain ⟨front, back, lines, frontNotes, backNotes⟩ :=
    lines_split (shape.startAt fit start way) taken knitted
  -- The ways through the successor are a stretch of those through its parent.
  have ways : visitedWays fit parent
      = [] :: successorWays fit 0 (parent.successors.take index)
        ++ (visitedWays fit child).map (index :: ·)
        ++ successorWays fit (index + 1) (parent.successors.drop (index + 1)) := by
    have split := successorWays_split knitted 0 taken
    rw [Nat.zero_add] at split
    rw [visitedWays_eq, split, List.cons_append, List.cons_append]
  refine ⟨before ++ (parent.segment.ownLines
      (parent.segment.plan fit (shape.startAt fit start way)) ++ front), back ++ after,
    earlier ++ ([] :: successorWays fit 0 (parent.successors.take index)).map (way ++ ·),
    (successorWays fit (index + 1) (parent.successors.drop (index + 1))).map (way ++ ·) ++ later,
    ?_, ?_, ?_, ?_, ?_⟩
  · rw [nodeAt?_append [index] passage.reached]
    exact nodeAt?_cons taken []
  · -- The lines are split at the node first, and then within it.
    rw [passage.lines, lines, startAt_append passage.reached]
    simp only [List.append_assoc]
  · rw [passage.ways, ways]
    simp [List.append_assoc, Function.comp_def]
  · rw [noteTexts_append, noteTexts_append, passage.notesBefore, Segment.noteTexts_ownLines,
      List.flatMap_append, flatMap_notesAt_append passage.reached, List.flatMap_cons, frontNotes,
      notesAt_nil]
  · rw [noteTexts_append, List.flatMap_append, flatMap_notesAt_append passage.reached, backNotes,
      passage.notesAfter]

variable (start) in
/-- Every visited node has a passage. -/
theorem Visited.exists_passage (visited : Visited fit shape way) :
    ∃ found before after earlier later,
      shape.Passage fit start way found before after earlier later := by
  -- A successor is reached from a node that has a passage already.
  induction visited with
  | root => exact ⟨shape, _, _, _, _, passage_root fit start shape⟩
  | @successor way index found _ reached knitted ih =>
    obtain ⟨parent, before, after, earlier, later, passage⟩ := ih
    rw [nodeAt?_append [index] passage.reached] at reached
    have taken : parent.successors[index]? = some found := by simpa [nodeAt?] using reached
    exact ⟨found, passage.successor taken knitted⟩

/--
The lines of a node, and those on either side of them, as the notes of the node divide them.

Behind the row lines and the notes of the node comes all that divides, announces or ends a piece,
and every line of its successors.
-/
structure NotesInPlace (fit : Fit) (start : UInt32) (shape : Shape) (way : List Nat)
    (found : Shape) (before ending after : List Instruction) : Prop where
  reached : shape.nodeAt? way = some found
  node : found.lines fit (shape.startAt fit start way)
    = (shape.planAt fit start way).compile ++ found.segment.notes.map .note ++ ending
  unmarked : ∀ line ∈ (shape.planAt fit start way).compile ++ found.segment.notes.map .note,
    line.marksPiece = false
  successors : ∀ (index : Nat) (child : Shape), found.successors[index]? = some child →
    child.segment.isKnitted fit = true →
      child.lines fit (shape.startAt fit start (way ++ [index])) <:+: ending
  /-- No note comes on the other side of those of the node than in the order of ways. -/
  order : ∃ earlier later, visitedWays fit shape = earlier ++ way :: later ∧
    noteTexts before = earlier.flatMap shape.notesAt ∧
    noteTexts (ending ++ after) = later.flatMap shape.notesAt

/-- In the passage of a node its own notes are in place. -/
theorem Passage.notesInPlace {found : Shape} {before after : List Instruction}
    {earlier later : List (List Nat)}
    (passage : shape.Passage fit start way found before after earlier later) :
    ∃ ending, shape.NotesInPlace fit start way found before ending after := by
  obtain ⟨ending, whole⟩ := found.ownLines_prefix_lines fit (shape.startAt fit start way)
  have plan : shape.planAt fit start way
      = found.segment.plan fit (shape.startAt fit start way) := by
    rw [planAt, passage.reached]
  -- The lines of the node start with its plan and its notes.
  have lines : found.lines fit (shape.startAt fit start way)
      = (shape.planAt fit start way).compile ++ found.segment.notes.map .note ++ ending := by
    rw [← whole, plan, Segment.ownLines]
  -- The notes behind those of the node are all others of the visited nodes within it.
  have notes : noteTexts ending
      = (successorWays fit 0 found.successors).flatMap found.notesAt := by
    have all := found.noteTexts_lines fit (shape.startAt fit start way)
    rw [← whole, noteTexts_append, Segment.noteTexts_ownLines, visitedWays_eq, List.flatMap_cons,
      notesAt_nil] at all
    exact List.append_cancel_left all
  refine ⟨ending, passage.reached, lines, ?_, ?_, earlier,
    (successorWays fit 0 found.successors).map (way ++ ·) ++ later, ?_, passage.notesBefore, ?_⟩
  · -- No line of the node itself marks a piece.
    rw [plan]
    exact fun _ => marksPiece_ownLines
  · -- The lines of a successor are a stretch of what comes behind the notes.
    intro index child taken knitted
    obtain ⟨front, back, split, _⟩ :=
      lines_split (shape.startAt fit start way) taken knitted
    rw [split] at whole
    rw [startAt_append passage.reached, List.append_cancel_left whole]
    exact List.infix_append front _ back
  · rw [passage.ways, visitedWays_eq fit found, List.map_cons, List.append_nil, List.append_assoc,
      List.cons_append]
  · rw [noteTexts_append, List.flatMap_append, flatMap_notesAt_append passage.reached, notes,
      passage.notesAfter]

end Passages

/-- A cast-on is no note. -/
theorem noteTexts_castOn (fit : Fit) (start : UInt32) (isRoot : Bool) (shape : Shape) :
    noteTexts (if isRoot then shape.castOn fit start else []) = [] := by
  -- There is a cast-on or nothing at all, and neither has a text.
  unfold castOn
  repeat' split
  all_goals rfl

/--
The notes of a shape are those of its visited nodes, in the order of the ways to them.

The notes of each of them are one block right behind its own row lines, before anything that
divides, announces or ends a piece and before every line of its successors.
-/
theorem notes_inPlace (fit : Fit) (start : UInt32) (isRoot : Bool) (shape : Shape) :
    (∀ way, way ∈ visitedWays fit shape ↔ Visited fit shape way) ∧
    (visitedWays fit shape).Pairwise (· < ·) ∧
    noteTexts (shape.instructions fit start isRoot)
      = (visitedWays fit shape).flatMap shape.notesAt ∧
    ∀ way, Visited fit shape way → ∃ (found : Shape) (before ending after : List Instruction),
      shape.instructions fit start isRoot = before
        ++ ((shape.planAt fit start way).compile ++ found.segment.notes.map .note ++ ending)
        ++ after ∧
      shape.NotesInPlace fit start way found before ending after := by
  have opening := noteTexts_castOn fit start isRoot shape
  refine ⟨fun way => mem_visitedWays, pairwise_visitedWays fit shape, ?_, ?_⟩
  · rw [instructions, noteTexts_append, opening, List.nil_append, noteTexts_lines]
  · intro way visited
    obtain ⟨found, before, after, earlier, later, passage⟩ :=
      visited.exists_passage start
    obtain ⟨ending, inPlace⟩ := passage.notesInPlace
    -- A cast-on stands before all lines and is no note, so that it can join those before.
    refine ⟨found, (if isRoot then shape.castOn fit start else []) ++ before, ending, after, ?_, ?_⟩
    · rw [instructions, passage.lines, inPlace.node]
      simp only [List.append_assoc]
    · obtain ⟨earlier, later, ways, notesBefore, notesAfter⟩ := inPlace.order
      refine { inPlace with order := ⟨earlier, later, ways, ?_, notesAfter⟩ }
      rw [noteTexts_append, opening, List.nil_append, notesBefore]

/-- A shape with notes at its root, on a stretch too low for a row, behind it, and out of reach. -/
def annotated : Shape :=
  .node { Segment.leaning with notes := ["Mark both ends."] }
    [.node { Segment.plain 0.0 2.0 2.0 with notes := ["Never knitted."] } [],
      .node { Segment.plain 0.0625 5.0 5.0 with notes := ["Hang the hem.", "Turn."] }
        [.node { Segment.leaning with notes := ["Steam."] } []]]

/-- The last note of the annotated shape has those of both nodes before it on its way. -/
theorem annotated_notes :
    Visited Segment.leaningFit annotated [1, 0] ∧
      ∃ (found : Shape) (before ending after : List Instruction),
        annotated.instructions Segment.leaningFit 1 true = before
          ++ ((annotated.planAt Segment.leaningFit 1 [1, 0]).compile
            ++ found.segment.notes.map .note ++ ending) ++ after ∧
        found.segment.notes = ["Steam."] ∧
        noteTexts before = ["Mark both ends.", "Hang the hem.", "Turn."] := by
  have visited : Visited Segment.leaningFit annotated [1, 0] :=
    Visited.successor (Visited.successor Visited.root (show annotated.nodeAt? [1] = _ from rfl)
      (by decide)) (show annotated.nodeAt? [1, 0] = _ from rfl) (by decide)
  obtain ⟨found, before, ending, after, lines, inPlace⟩ :=
    (notes_inPlace Segment.leaningFit 1 true annotated).2.2.2 [1, 0] visited
  obtain rfl : _ = found := Option.some.inj inPlace.reached
  refine ⟨visited, _, before, ending, after, lines, rfl, ?_⟩
  obtain ⟨earlier, later, ways, notesBefore, -⟩ := inPlace.order
  have listed : visitedWays Segment.leaningFit annotated = [[], [1], [1, 0]] := by decide
  rw [listed] at ways
  -- The way to the last note comes last, and so after both others.
  obtain rfl : earlier = [[], [1]] := by
    rcases earlier with _ | ⟨_, _ | ⟨_, _ | _⟩⟩ <;> simp_all
  exact notesBefore

end Shape

end FlatKnit
