import FlatKnit.Pattern
import Mathlib.Data.List.Basic

/-! Numbered patterns: the items of a plain pattern, with positions in front of those in lists. -/

namespace FlatKnit

/-- A piece of a printed pattern. -/
inductive PatternItem where
  | title (text : String)
  | blank
  | panelHeading (name : String)
  | instruction (line : Instruction)
  | notesHeading
  | note (text : String)
  deriving Repr, DecidableEq

namespace PatternItem

/-- The text of an item, up to the line break behind it. -/
def text : PatternItem → String
  | title text => text ++ "\n"
  | blank => "\n"
  | panelHeading name => name ++ ":\n"
  | instruction line => line.text ++ "\n"
  | notesHeading => "Finishing:\n"
  | note text => text ++ "\n"

/-- Whether an item belongs to a list, so that it has a position there. -/
def isListed : PatternItem → Bool
  | instruction _ => true
  | note _ => true
  | _ => false

/-- A blank line is not in a list. -/
@[simp] theorem isListed_blank : blank.isListed = false :=
  rfl

/-- The text of an item behind its position, if it has one. -/
def textAt : Option Nat → PatternItem → String
  | none, item => item.text
  | some position, item => toString position ++ ". " ++ item.text

/-- The positions of items: counted up from one listed item to the next, and anew behind others. -/
def positionsFrom (position : Nat) : List PatternItem → List (Option Nat)
  | [] => []
  | item :: items =>
    if item.isListed then some position :: positionsFrom (position + 1) items
    else none :: positionsFrom 1 items

/-- Listed items are counted up, whatever comes behind them. -/
theorem positionsFrom_listed {listed : List PatternItem}
    (all : ∀ item ∈ listed, item.isListed = true) (rest : List PatternItem) (position : Nat) :
    positionsFrom position (listed ++ rest) =
      (List.range' position listed.length).map some ++
        positionsFrom (position + listed.length) rest := by
  -- The position moves on with every item, so it stays free.
  induction listed generalizing position with
  | nil => rfl
  | cons item listed ih =>
    obtain ⟨first, others⟩ := List.forall_mem_cons.mp all
    rw [List.cons_append, positionsFrom, if_pos first, ih others, List.length_cons,
      List.range'_succ, List.map_cons, List.cons_append, Nat.add_right_comm, Nat.add_assoc]

end PatternItem

open PatternItem

/-- A blank line, the name of a panel, and its lines. -/
def PanelLines.text (listing : Listing) (panel : PanelLines) : String :=
  "\n" ++ panel.name ++ ":\n" ++ instructionsText listing panel.instructions

/-- The closing block: a blank line, its heading and the notes, or nothing without notes. -/
def Pattern.notesText (listing : Listing) (notes : List String) : String :=
  if notes.isEmpty then "" else "\nFinishing:\n" ++ listing.text notes

section Built

/-- A text that is built piece by piece ends with all pieces, joined. -/
theorem foldl_append_eq {α : Type} (piece : α → String) (values : List α) :
    ∀ start, values.foldl (fun text value => text ++ piece value) start
      = start ++ String.join (values.map piece) := by
  -- Each step hands the text so far on to the next one, so it stays free.
  induction values with
  | nil =>
    intro start
    rw [List.foldl_nil, List.map_nil, String.join_nil, String.append_empty]
  | cons value values ih =>
    intro start
    rw [List.foldl_cons, ih, List.map_cons, String.join_cons, String.append_assoc]

/-- A pattern on its own consists of its title, its panels and its notes in plain listings. -/
theorem Pattern.display_eq (pattern : Pattern) :
    pattern.display = pattern.title ++ "\n" ++
      String.join (pattern.panels.map (PanelLines.text .plain)) ++ notesText .plain pattern.notes := by
  -- The step for a panel writes the panel behind the text so far.
  have step : (fun (text : String) (panel : PanelLines) =>
      panel.instructions.foldl (fun text line => text ++ (line.text ++ "\n"))
        (text ++ "\n" ++ (panel.name ++ ":\n")))
      = fun text panel => text ++ panel.text .plain := by
    funext text panel
    rw [foldl_append_eq fun line : Instruction => line.text ++ "\n", PanelLines.text,
      instructionsText, Listing.text, Listing.lines, List.map_map]
    simp only [String.append_assoc]
    rfl
  rw [display, step, foldl_append_eq (PanelLines.text .plain), notesText]
  split
  · rw [String.append_empty]
  · rw [foldl_append_eq fun note : String => note ++ "\n", Listing.text, Listing.lines]
    simp only [String.append_assoc]
    rfl

/-- A numbered pattern consists of the same parts in numbered listings. -/
theorem Pattern.numberedText_eq (pattern : Pattern) :
    pattern.numberedText = pattern.title ++ "\n" ++
      String.join (pattern.panels.map (PanelLines.text .numbered)) ++
        notesText .numbered pattern.notes := by
  have step : (fun (text : String) (panel : PanelLines) =>
      text ++ ("\n" ++ panel.name ++ ":\n") ++ instructionsText .numbered panel.instructions)
      = fun text panel => text ++ panel.text .numbered := by
    funext text panel
    rw [PanelLines.text, String.append_assoc]
  rw [numberedText, step, foldl_append_eq (PanelLines.text .numbered), notesText]
  split
  · rw [String.append_empty]
  · rw [foldl_append_eq fun note : String × Nat => toString note.2 ++ ". " ++ note.1 ++ "\n",
      Listing.text, Listing.lines, List.map_map, Function.comp_def]
    simp only [String.append_assoc]

/-- Either text of a pattern consists of its title, its panels and its notes, listed alike. -/
theorem Pattern.text_listed (listing : Listing) (pattern : Pattern) :
    pattern.text listing = pattern.title ++ "\n" ++
      String.join (pattern.panels.map (PanelLines.text listing)) ++
        notesText listing pattern.notes := by
  -- The two texts are built apart, and are found to be listings of one kind each.
  cases listing with
  | plain => exact pattern.display_eq
  | numbered => exact pattern.numberedText_eq

end Built

/-- A list of items under a heading. -/
structure PatternBlock where
  heading : PatternItem
  listed : List PatternItem
  unlisted : heading.isListed = false
  allListed : ∀ item ∈ listed, item.isListed = true

namespace PatternBlock

/-- The items of a block, below a blank line. -/
def items (block : PatternBlock) : List PatternItem :=
  .blank :: block.heading :: block.listed

/-- The positions of the items of a block: none for the first two, then one, two and so on. -/
def positions (block : PatternBlock) : List (Option Nat) :=
  none :: none :: (List.range' 1 block.listed.length).map some

/-- The text of a block as it is listed. -/
def text (listing : Listing) (block : PatternBlock) : String :=
  match listing with
  | .plain => String.join (block.items.map PatternItem.text)
  | .numbered => String.join (List.zipWith textAt block.positions block.items)

/-- Every item of a block has a position, or none. -/
theorem length_positions (block : PatternBlock) :
    block.positions.length = block.items.length := by
  simp [positions, items]

/-- The positions in a block do not depend on what is above it. -/
theorem positionsFrom_items (block : PatternBlock) (rest : List PatternItem) (position : Nat) :
    positionsFrom position (block.items ++ rest) =
      block.positions ++ positionsFrom (1 + block.listed.length) rest := by
  -- The heading sets the count back, whatever it was before.
  have counted := positionsFrom_listed block.allListed rest 1
  simp [items, positions, positionsFrom, block.unlisted, counted]

/-- The positions in blocks one below the other are those in each of them. -/
theorem positionsFrom_flatMap (blocks : List PatternBlock) (position : Nat) :
    positionsFrom position (blocks.flatMap items) = blocks.flatMap positions := by
  -- A block leaves no count behind, so the induction is for any position to start at.
  induction blocks generalizing position with
  | nil => rfl
  | cons block blocks ih =>
    rw [List.flatMap_cons, positionsFrom_items, ih, List.flatMap_cons]

/-- Plain blocks one below the other are printed item by item. -/
theorem join_plain (blocks : List PatternBlock) :
    String.join (blocks.map (text .plain)) =
      String.join ((blocks.flatMap items).map PatternItem.text) := by
  -- The induction is on the blocks, and a block is the join of its items.
  induction blocks with
  | nil => rfl
  | cons block blocks ih =>
    rw [List.map_cons, String.join_cons, ih, List.flatMap_cons, List.map_append, String.join_append,
      text]

/-- Numbered blocks one below the other are printed item by item, behind their positions. -/
theorem join_numbered (blocks : List PatternBlock) :
    String.join (blocks.map (text .numbered)) =
      String.join (List.zipWith textAt (blocks.flatMap positions) (blocks.flatMap items)) := by
  -- Every block has as many positions as items, so that the two lists can be cut together.
  induction blocks with
  | nil => rfl
  | cons block blocks ih =>
    rw [List.map_cons, String.join_cons, ih, List.flatMap_cons, List.flatMap_cons,
      List.zipWith_append block.length_positions, String.join_append, text]

end PatternBlock

section Listed

variable {α : Type} {make : α → PatternItem} {line : α → String}

/-- Lines with positions in front are the texts of the items made of them, behind the positions. -/
theorem Listing.lines_numbered (shown : ∀ value, (make value).text = line value ++ "\n")
    (values : List α) :
    (Listing.numbered.lines (values.map line)).map (· ++ "\n") =
      List.zipWith textAt ((List.range' 1 values.length).map some) (values.map make) := by
  -- The positions may start anywhere.
  have counted : ∀ start, (((values.map line).zipIdx start).map fun item =>
      toString item.2 ++ ". " ++ item.1).map (· ++ "\n") =
      List.zipWith textAt ((List.range' start values.length).map some) (values.map make) := by
    induction values with
    | nil => exact fun _ => rfl
    | cons value values ih =>
      intro start
      rw [List.map_cons, List.zipIdx_cons, List.map_cons, List.map_cons, ih, List.length_cons,
        List.range'_succ, List.map_cons, List.map_cons, List.zipWith_cons_cons, textAt, shown,
        String.append_assoc]
  exact counted 1

/-- Lines are listed under a heading as the block of the items that are made of them. -/
theorem Listing.text_block (listing : Listing) {block : PatternBlock}
    (shown : ∀ value, (make value).text = line value ++ "\n") {values : List α}
    (made : block.listed = values.map make) :
    "\n" ++ block.heading.text ++ listing.text (values.map line) = block.text listing := by
  -- A block is its heading and its items; only in the numbered listing do the items count.
  cases listing with
  | plain =>
    have texts : (values.map make).map PatternItem.text = (values.map line).map (· ++ "\n") := by
      simp [shown]
    rw [PatternBlock.text, PatternBlock.items, made, List.map_cons, List.map_cons, texts,
      String.join_cons, String.join_cons, ← String.append_assoc]
    rfl
  | numbered =>
    rw [PatternBlock.text, PatternBlock.items, PatternBlock.positions, made, List.length_map,
      List.zipWith_cons_cons, List.zipWith_cons_cons, ← Listing.lines_numbered shown,
      String.join_cons, String.join_cons, ← String.append_assoc]
    rfl

end Listed

/-- The block of a panel. -/
def PanelLines.block (panel : PanelLines) : PatternBlock where
  heading := .panelHeading panel.name
  listed := panel.instructions.map .instruction
  unlisted := rfl
  allListed := by simp [isListed]

/-- The block that closes a pattern with notes. -/
def Pattern.closing (notes : List String) : List PatternBlock :=
  if notes.isEmpty then [] else [{
    heading := .notesHeading
    listed := notes.map .note
    unlisted := rfl
    allListed := by simp [isListed] }]

namespace Pattern

/-- The blocks of a pattern: one for each panel, and one for the notes if there are any. -/
def blocks (pattern : Pattern) : List PatternBlock :=
  pattern.panels.map PanelLines.block ++ closing pattern.notes

/-- The text of a panel is that of its block. -/
theorem text_panel (listing : Listing) (panel : PanelLines) :
    panel.text listing = panel.block.text listing := by
  -- Its heading is its name, and its items are its lines.
  have shown : ∀ line : Instruction,
      (PatternItem.instruction line).text = line.text ++ "\n" := fun _ => rfl
  have heading : "\n" ++ panel.name ++ ":\n" = "\n" ++ panel.block.heading.text :=
    String.append_assoc
  rw [← listing.text_block shown rfl, PanelLines.text, heading]
  rfl

/-- The text of the notes is that of their block, if there are any. -/
theorem text_closing (listing : Listing) (notes : List String) :
    notesText listing notes = String.join ((closing notes).map (PatternBlock.text listing)) := by
  rw [notesText, closing]
  -- Without notes there is no heading either.
  split
  · rfl
  · have shown : ∀ text, (PatternItem.note text).text = id text ++ "\n" := fun _ => rfl
    rw [List.map_singleton, String.join_cons, String.join_nil, String.append_empty,
      ← listing.text_block shown rfl, List.map_id]
    rfl

/-- A pattern is printed as its title, and its blocks one below the other. -/
theorem text_blocks (listing : Listing) (pattern : Pattern) :
    pattern.text listing =
      pattern.title ++ "\n" ++ String.join (pattern.blocks.map (PatternBlock.text listing)) := by
  -- The notes make a block of their own behind those of the panels, or none.
  have panels : pattern.panels.map (PanelLines.text listing) =
      (pattern.panels.map PanelLines.block).map (PatternBlock.text listing) := by
    simp [text_panel]
  rw [text_listed, panels, text_closing, blocks, List.map_append, String.join_append,
    String.append_assoc]

/-- The items of a pattern. -/
def items (pattern : Pattern) : List PatternItem :=
  .title pattern.title :: pattern.blocks.flatMap PatternBlock.items

/--
The pattern on its own and the numbered text of it consist of the same items.

In the numbered one, the instructions of every panel have their positions in front, and so have the
notes; the positions start at one in every block, and all else is as it is in the plain text.
-/
theorem text_numbered (pattern : Pattern) :
    pattern.display = String.join (pattern.items.map PatternItem.text) ∧
    pattern.text .plain = String.join (pattern.items.map PatternItem.text) ∧
    pattern.text .numbered =
      String.join (List.zipWith textAt (positionsFrom 1 pattern.items) pattern.items) ∧
    positionsFrom 1 pattern.items = none :: pattern.blocks.flatMap PatternBlock.positions := by
  -- The title comes first and has no position; behind it every block counts for itself.
  have counted : positionsFrom 1 pattern.items =
      none :: pattern.blocks.flatMap PatternBlock.positions := by
    show none :: positionsFrom 1 (pattern.blocks.flatMap PatternBlock.items) = _
    rw [PatternBlock.positionsFrom_flatMap]
  have plain : pattern.text .plain = String.join (pattern.items.map PatternItem.text) := by
    rw [text_blocks, PatternBlock.join_plain, items, List.map_cons, String.join_cons]
    rfl
  refine ⟨plain, plain, ?_, counted⟩
  · rw [counted, text_blocks, PatternBlock.join_numbered, items, List.zipWith_cons_cons,
      String.join_cons]
    rfl

/-- An empty panel keeps its heading, and the count starts anew in the next one. -/
example : positionsFrom 1
    (items ⟨"Scarf", 1.0, [⟨"tie", []⟩, ⟨"body", [.castOn 4, .bindOff 4]⟩], ["Steam."]⟩)
    = [none, none, none, none, none, some 1, some 2, none, none, some 1] :=
  rfl

end Pattern

end FlatKnit
