import FlatKnit.Proofs.CommandLine.Checks
import FlatKnit.Proofs.Pattern

/-! Panels alone: a garment prints of each panel what a run on the shape of the panel prints. -/

namespace FlatKnit

/--
The run on one shape alone, with the options of a run on a garment.

A size label belongs to garments only, so there is none.
-/
def Invocation.alone (invocation : Invocation) (path : String) (config : Option String) :
    Invocation :=
  ⟨.generate, path, config, { invocation.options with sizeLabel := none }⟩

/-- A text that ends with a line break, unless it is empty. -/
def EndsLine (text : String) : Prop :=
  text = "" ∨ ∃ rest, text = rest ++ "\n"

/-- The entries for the panels of a garment document. -/
def Json.panelTable : Json → List (String × Json)
  | .object entries => Garment.entriesOf (entries.lookup "shapes")
  | _ => []

/-- The lines of a shape at a fit, under the name of its panel. -/
def panelLines (fit : Fit) (panel : String × Shape) : PanelLines :=
  ⟨panel.1, panel.2.instructions fit 1 true⟩

/-- The text of panels at a fit, one after another. -/
def panelsText (listing : Listing) (fit : Fit) (panels : List (String × Shape)) : String :=
  String.join (panels.map fun panel => (panelLines fit panel).text listing)

/-- The records of panels at a fit. -/
def panelsJson (fit : Fit) (panels : List (String × Shape)) : List Json :=
  panels.map fun panel => (panelLines fit panel).toJson

namespace Garment

variable {document : Json} {garment : Garment}

/-- The panels of a garment are those entries of its document that hold a shape. -/
theorem panels_of_ofJson (loaded : ofJson document = .ok garment) :
    garment.panels = shapesOf document.panelTable := by
  cases document with
  | object entries =>
    unfold ofJson at loaded
    dsimp only at loaded
    cases present : entries.lookup "shapes" with
    | none =>
      rw [present] at loaded
      cases loaded
    | some shapes =>
      -- A document that loads has shapes, of which at least one can be read.
      rw [present] at loaded
      dsimp only at loaded
      split at loaded
      · cases loaded
      · obtain rfl := Except.ok.inj loaded
        rw [Json.panelTable, present]
  | _ => cases loaded

/-- An entry with a record leads to a panel, which stands between those of the other entries. -/
theorem shapesOf_split (earlier later : List (String × Json)) (name : String)
    (fields : List (String × Json)) :
    ∃ shape, Shape.ofJson? (.object fields) = some shape ∧
      shapesOf (earlier ++ (name, .object fields) :: later)
        = shapesOf earlier ++ (name, shape) :: shapesOf later := by
  -- Every record is a shape, so that this entry is kept.
  refine ⟨_, rfl, ?_⟩
  rw [shapesOf, List.filterMap_append, List.filterMap_cons]
  rfl

/-- The text of a pattern: its title, its panels one after another, and what is done at the end. -/
theorem text_pattern (listing : Listing) (fit : Fit) : (garment.pattern fit).text listing
    = garment.title ++ "\n" ++ panelsText listing fit garment.panels ++
        Pattern.notesText listing garment.notes := by
  rw [Pattern.text_listed]
  simp only [pattern, panelsAt, panelsText, List.map_map]
  rfl

/-- The record of a pattern holds the records of its panels in their order. -/
theorem toJson_pattern (fit : Fit) : (garment.pattern fit).toJson
    = .object [("title", .text garment.title), ("sizeModifier", .ofFloat fit.size),
        ("panels", .list (panelsJson fit garment.panels)),
        ("finishingSteps", .ofTexts garment.notes)] := by
  simp only [Pattern.toJson, pattern, panelsAt, panelsJson, List.map_map]
  rfl

end Garment

namespace EndsLine

/-- Texts that end their lines can be put one after another. -/
theorem append {first second : String} (one : EndsLine first) (two : EndsLine second) :
    EndsLine (first ++ second) := by
  rcases two with rfl | ⟨rest, rfl⟩
  · rwa [String.append_empty]
  · exact .inr ⟨first ++ rest, (String.append_assoc).symm⟩

/-- A line with its line break ends it. -/
theorem line (text : String) : EndsLine (text ++ "\n") :=
  .inr ⟨text, rfl⟩

/-- Any number of texts that end their lines can be put one after another. -/
theorem join {texts : List String} (all : ∀ text ∈ texts, EndsLine text) :
    EndsLine (String.join texts) := by
  -- The induction is on the texts, for a join is the first of them with the join of the others
  -- behind it.
  induction texts with
  | nil => exact .inl rfl
  | cons first rest ih =>
    rw [String.join_cons]
    exact (all first List.mem_cons_self).append
      (ih fun text member => all text (List.mem_cons_of_mem _ member))

/-- Listed lines end with line breaks, numbered or not. -/
theorem listing (listing : Listing) (lines : List String) : EndsLine (listing.text lines) := by
  -- Whether a line has its position in front or not, its line break is at its end.
  refine join fun text member => ?_
  obtain ⟨written, _, rfl⟩ := List.mem_map.mp member
  exact line written

/-- The lines under the name of a panel end with line breaks. -/
theorem panel (listing : Listing) (lines : PanelLines) : EndsLine (lines.text listing) := by
  -- The heading of a panel ends its line, and so do all lines of the listing behind it.
  have heading : EndsLine ("\n" ++ lines.name ++ ":\n") := by
    have split : "\n" ++ lines.name ++ ":" ++ "\n" = "\n" ++ lines.name ++ (":" ++ "\n") :=
      String.append_assoc
    exact .inr ⟨_, split.symm⟩
  exact heading.append (EndsLine.listing listing _)

/-- The closing block of a pattern ends with a line break, or is not there. -/
theorem notes (listing : Listing) (notes : List String) :
    EndsLine (Pattern.notesText listing notes) := by
  -- Without notes the block is the empty text.
  rw [Pattern.notesText]
  split
  · exact .inl rfl
  · exact (EndsLine.line "\nFinishing:").append (EndsLine.listing listing notes)

/-- The text of a pattern ends with a line break. -/
theorem pattern (listing : Listing) (pattern : Pattern) : EndsLine (pattern.text listing) := by
  rw [Pattern.text_listed]
  refine ((line pattern.title).append (join fun text member => ?_)).append (notes listing _)
  obtain ⟨lines, _, rfl⟩ := List.mem_map.mp member
  exact panel listing lines

/-- A text that ends its lines is printed as it is. -/
theorem endLine_eq {text : String} (ended : EndsLine text) : Invocation.endLine text = text := by
  -- A line break is put behind a text only where there is none at its end.
  rcases ended with rfl | ⟨rest, rfl⟩
  · rfl
  · have closed : (rest ++ "\n").endsWith '\n' = true :=
      String.endsWith_char_iff_exists_append.mpr ⟨rest, rfl⟩
    rw [Invocation.endLine, closed]
    simp

end EndsLine

/-- What the instructions of one shape are printed as. -/
def printedLines (format : OutputFormat) (listing : Listing) (lines : List Instruction) : String :=
  match format with
  | .text => instructionsText listing lines
  | .json => Invocation.endLine (instructionsJson lines).pretty

section Alone

variable {tree other : FileTree} {folder place : Option String} {invocation : Invocation}
  {settings : Settings} {document : Json} {garment : Garment} {fit : Fit} {size : Float}
  {earlier later : List (String × Json)} {name : String} {fields : List (String × Json)}
  {path : String} {config : Option String}

/-- With the size among its options, a shape is knitted alone at the fit of its garment. -/
theorem effectiveFit_alone (onGarment : invocation.subcommand = .garment)
    (sized : invocation.options.size = some size) (bare : fields.lookup "shapes" = none)
    (effective : EffectiveFit invocation document settings fit) :
    EffectiveFit (invocation.alone path config) (.object fields) settings fit := by
  obtain ⟨gauge, chosen⟩ := effective
  rw [onGarment] at gauge chosen
  constructor
  · -- Neither a garment nor a bare record supplies a gauge.
    have none : (Json.object fields).suppliedGauge? = none := by
      simp [Json.suppliedGauge?, bare]
    rw [Invocation.alone, Subcommand.suppliedGauge?, none]
    exact ⟨gauge.stitches, gauge.rows⟩
  · -- The size of the options stands before the size table of the garment.
    obtain rfl : fit.size = size := GarmentSize.unique chosen (.ofOption sized)
    exact .ofOption sized

/-- What can be told of a garment can be told of each of its panels alone. -/
theorem told_alone {shape : Shape}
    (told : ((Printout.pattern garment).text? invocation.options settings fit).isSome = true)
    (member : (name, shape) ∈ garment.panels) :
    ((Printout.instructions (.plain (some shape) Gauge.standard standardSize)).text?
      (invocation.alone path config).options settings fit).isSome = true := by
  obtain ⟨text, told⟩ := Option.isSome_iff_exists.mp told
  obtain ⟨pattern, there, told⟩ := Option.bind_eq_some_iff.mp told
  obtain ⟨each, rfl⟩ := Garment.pattern?_eq_some_iff.mp there
  obtain ⟨lines, listed⟩ := Option.isSome_iff_exists.mp (each _ member)
  have alone : ((Panel.plain (some shape) Gauge.standard standardSize).atFit fit).instructions?
      = some lines := listed
  rw [Printout.text?, alone, Option.bind_some]
  -- A record of the lines is always there; their text is a part of that of the garment.
  simp only [Invocation.alone]
  cases asked : invocation.options.format.getD settings.format with
  | json => rfl
  | text =>
    rw [asked] at told
    obtain ⟨all, _⟩ := Pattern.text?_eq_some_iff.mp told
    have among : panelLines fit (name, shape) ∈ (garment.pattern fit).panels := by
      simp only [Garment.pattern, Garment.panelsAt, List.map_map]
      exact List.mem_map.mpr ⟨(name, shape), member, rfl⟩
    have texts := all _ among
    rw [panelLines, (Shape.instructions?_eq_some_iff.mp listed).2] at texts
    exact Option.isSome_iff_exists.mpr ⟨_, instructionsText?_eq_some_iff.mpr ⟨texts, rfl⟩⟩

/-- A shape of a garment that is ready to be printed is ready to be printed alone. -/
theorem ready_alone (onGarment : invocation.subcommand = .garment)
    (sized : invocation.options.size = some size)
    (ready : Ready tree folder invocation settings document (.pattern garment) fit)
    (listed : document.panelTable = earlier ++ (name, .object fields) :: later)
    (bare : fields.lookup "shapes" = none) {shape : Shape}
    (shaped : Shape.ofJson? (.object fields) = some shape)
    (configured : Settings.loadOrStandard other place config = .ok settings)
    (held : other.Holds path (.object fields)) :
    Ready other place (invocation.alone path config) settings (.object fields)
      (.instructions (.plain (some shape) Gauge.standard standardSize)) fit := by
  have loads : Panel.ofJson (.object fields)
      = .ok (.plain (some shape) Gauge.standard standardSize) := by
    rw [Panel.ofJson_bare bare, shaped]
  have loaded : Garment.ofJson document = .ok garment := by
    have loads := ready.loads
    rw [onGarment] at loads
    cases loads with
    | garment loaded => exact loaded
  -- The shape is one of those that were checked for the garment.
  have member : (name, shape) ∈ garment.panels := by
    obtain ⟨again, read, split⟩ := Garment.shapesOf_split earlier later name fields
    obtain rfl := Option.some.inj (shaped.symm.trans read)
    rw [Garment.panels_of_ofJson loaded, listed, split]
    exact List.mem_append_right _ List.mem_cons_self
  refine ⟨⟨configured, held, .generate loads⟩, ready.valid,
    effectiveFit_alone onGarment sized bare ready.effective, ready.gauge, ready.size, ?_,
    told_alone ready.told member⟩
  intro printed only
  obtain rfl : printed = shape := by simpa [Printout.shapes, Panel.plain] using only
  exact ready.shapes printed (List.mem_map.mpr ⟨(name, printed), member, rfl⟩)

/-- The run on a shape alone prints the lines of the shape at the fit of the garment. -/
theorem runCommand_alone {words : List String} {shape : Shape}
    (understood : Request.read words = .run (invocation.alone path config))
    (ready : Ready other place (invocation.alone path config) settings (.object fields)
      (.instructions (.plain (some shape) Gauge.standard standardSize)) fit) :
    runCommand other place words
      = ⟨0, printedLines (invocation.options.format.getD settings.format)
          (Invocation.listing invocation.options settings)
          (shape.instructions fit 1 true), []⟩ := by
  rw [runCommand_of_ready understood ready]
  congr 1
  cases asked : invocation.options.format.getD settings.format with
  | text =>
    -- A listing has its last line break already.
    simp only [Printout.text, Invocation.alone, asked, printedLines]
    exact (EndsLine.listing _ _).endLine_eq
  | json =>
    simp only [Printout.text, Invocation.alone, asked, printedLines]
    rfl

end Alone

/--
How a garment is printed with some lines for one of its panels.

In a text, the lines stand under a blank line and the name of the panel; in a record, they are the
instructions of the panel.
-/
def Garment.printedWith (garment : Garment) (format : OutputFormat) (listing : Listing) (fit : Fit)
    (before after : List (String × Shape)) (name : String) (lines : List Instruction) : String :=
  match format with
  | .text => garment.title ++ "\n" ++ panelsText listing fit before ++
      ("\n" ++ name ++ ":\n" ++ instructionsText listing lines) ++
      panelsText listing fit after ++ Pattern.notesText listing garment.notes
  | .json => Invocation.endLine (Json.object [("title", .text garment.title),
      ("sizeModifier", .ofFloat fit.size),
      ("panels", .list (panelsJson fit before ++
        .object [("name", .text name), ("instructions", instructionsJson lines)] ::
          panelsJson fit after)),
      ("finishingSteps", .ofTexts garment.notes)]).pretty

/-- A garment prints every one of its panels between those before it and those after it. -/
theorem Garment.printed_eq {garment : Garment} {options : Options} {settings : Settings} {fit : Fit}
    {before after : List (String × Shape)} {name : String} {shape : Shape}
    (listed : garment.panels = before ++ (name, shape) :: after) :
    Invocation.endLine ((Printout.pattern garment).text options settings fit)
      = garment.printedWith (options.format.getD settings.format)
          (Invocation.listing options settings) fit before after name
          (shape.instructions fit 1 true) := by
  -- In both formats the panels are mapped one by one, and so the list can be cut around one.
  cases asked : options.format.getD settings.format with
  | text =>
    simp only [Printout.text, asked, printedWith]
    rw [(EndsLine.pattern _ _).endLine_eq, text_pattern, listed, panelsText, List.map_append,
      List.map_cons, String.join_append, String.join_cons]
    simp only [panelLines, PanelLines.text, panelsText, String.append_assoc]
  | json =>
    simp only [Printout.text, asked, printedWith]
    rw [toJson_pattern, listed, panelsJson, List.map_append, List.map_cons]
    rfl

/--
A garment that is printed in a given size prints of each panel what the run on the shape of that
panel alone prints, with the same options and the same settings.

The shape may be in another file of another tree. It has to be a bare record, for a record with
shapes of its own is read as a panel document.
-/
theorem panel_printed_alone (tree : FileTree) (folder : Option String) (words : List String)
    {invocation : Invocation} {size : Float}
    (understood : Request.read words = .run invocation)
    (onGarment : invocation.subcommand = .garment)
    (sized : invocation.options.size = some size)
    (succeeded : (runCommand tree folder words).exit = 0) :
    ∃ settings document garment fit,
      Ready tree folder invocation settings document (.pattern garment) fit ∧
      ∀ earlier name fields later,
        document.panelTable = earlier ++ (name, .object fields) :: later →
        fields.lookup "shapes" = none →
        ∃ lines,
          (runCommand tree folder words).stdout
            = garment.printedWith (invocation.options.format.getD settings.format)
                (Invocation.listing invocation.options settings) fit
                (Garment.shapesOf earlier) (Garment.shapesOf later) name lines ∧
          ∀ other place single path config,
            Request.read single = .run (invocation.alone path config) →
            Settings.loadOrStandard other place config = .ok settings →
            other.Holds path (.object fields) →
            runCommand other place single
              = ⟨0, printedLines (invocation.options.format.getD settings.format)
                  (Invocation.listing invocation.options settings) lines, []⟩ := by
  obtain ⟨settings, document, printout, fit, ready⟩ := (exit_eq_zero_iff understood).mp succeeded
  have loads := ready.loads
  rw [onGarment] at loads
  cases loads with
  | @garment garment loaded =>
    refine ⟨settings, document, garment, fit, ready, ?_⟩
    intro earlier name fields later listed bare
    obtain ⟨shape, shaped, split⟩ := Garment.shapesOf_split earlier later name fields
    have panels : garment.panels
        = Garment.shapesOf earlier ++ (name, shape) :: Garment.shapesOf later := by
      rw [Garment.panels_of_ofJson loaded, listed, split]
    refine ⟨shape.instructions fit 1 true, ?_, ?_⟩
    · rw [runCommand_of_ready understood ready]
      exact Garment.printed_eq panels
    · -- Wherever the record is found again, its shape passes the checks it has passed before.
      intro other place single path config asked configured held
      exact runCommand_alone asked
        (ready_alone onGarment sized ready listed bare shaped configured held)

/-- The panels of a coat with a back of height two: squares, and bare records. -/
def square : List (String × Json) :=
  [("height", .whole 2), ("baseA", .whole 2), ("baseB", .whole 2)]

/-- Whether a value is the record of such a square. -/
def Json.isSquare : Json → Bool
  | .object [("height", .whole 2), ("baseA", .whole 2), ("baseB", .whole 2)] => true
  | _ => false

/-- Only the record of the square is one. -/
theorem Json.eq_of_isSquare {value : Json} (held : value.isSquare = true) :
    value = .object square := by
  -- The test matches on the record itself, so that one case is left.
  unfold isSquare at held
  split at held
  · rfl
  · cases held

/-- The back of the whole coat in a tree of its own. -/
def shelf : FileTree where
  files := [(["back.json"], "\x7b\"height\": 2, \"baseA\": 2, \"baseB\": 2\x7d")]
  folders := []

/-- The garment command on the whole coat, in a given size. -/
def sizedCoatRun : Invocation :=
  ⟨.garment, "whole.json", none, ⟨none, none, some 1.25, none, false, none⟩⟩

/-- The shelf holds the record of the square, and no settings. -/
theorem shelf_square : shelf.Holds "back.json" (.object square) ∧
    Settings.loadOrStandard shelf (some "") none = .ok Settings.standard := by
  -- The one file on the shelf is the record, and there is none at the path for settings.
  constructor
  · have inspected : (shelf.document? "back.json").map Json.isSquare = some true := by
      rw [FileTree.document?, FileTree.read, FileTree.resolve_eq_walk shelf (by decide)]
      decide +kernel
    obtain ⟨document, found, held⟩ := Option.map_eq_some_iff.mp inspected
    rw [← Json.eq_of_isSquare held]
    exact FileTree.holds_of_document? found
  · exact Settings.loadOrStandard_of_lost rfl

/-- The whole coat has two square panels, which pass and can be told in the size that is given. -/
theorem wardrobe_squares : ∃ document garment, wardrobe.Holds "whole.json" document ∧
    Garment.ofJson document = .ok garment ∧
    document.panelTable = [("front", .object square), ("back", .object square)] ∧
    garment.panels.all (fun panel => (panel.2.check ⟨Gauge.standard, 1.25⟩).isOk) = true ∧
    ((garment.pattern? ⟨Gauge.standard, 1.25⟩).bind (Pattern.text? .plain)).isSome = true := by
  -- All that is needed of the document is read off in one evaluation.
  have inspected : ((wardrobe.document? "whole.json").bind fun document =>
      (Garment.ofJson document).toOption.map fun garment =>
        (document.panelTable.map fun panel => (panel.1, panel.2.isSquare),
          (garment.panels.all fun panel => (panel.2.check ⟨Gauge.standard, 1.25⟩).isOk),
          ((garment.pattern? ⟨Gauge.standard, 1.25⟩).bind (Pattern.text? .plain)).isSome))
      = some ([("front", true), ("back", true)], true, true) := by
    rw [FileTree.document?, FileTree.read, FileTree.resolve_eq_walk wardrobe (by decide)]
    decide +kernel
  obtain ⟨document, found, inspected⟩ := Option.bind_eq_some_iff.mp inspected
  obtain ⟨garment, loaded, same⟩ := Option.map_eq_some_iff.mp inspected
  obtain ⟨table, checked⟩ := Prod.mk.inj same
  -- The table has two entries, and each of them is the square under its name.
  obtain ⟨⟨front, record⟩, others, listed, named, table⟩ := List.map_eq_cons_iff.mp table
  obtain ⟨⟨back, again⟩, rest, rfl, renamed, table⟩ := List.map_eq_cons_iff.mp table
  obtain rfl := List.map_eq_nil_iff.mp table
  obtain ⟨rfl, first⟩ : front = "front" ∧ record.isSquare = true := Prod.mk.inj named
  obtain ⟨rfl, second⟩ : back = "back" ∧ again.isSquare = true := Prod.mk.inj renamed
  refine ⟨document, garment, FileTree.holds_of_document? found, toOption_eq_some_iff.mp loaded, ?_,
    Prod.mk.inj checked⟩
  rw [listed, Json.eq_of_isSquare first, Json.eq_of_isSquare second]

deriving instance DecidableEq for Options, Invocation, Request

/-- The run on the whole coat in a given size is ready. -/
theorem sizedCoat_ready {document : Json} {garment : Garment}
    (held : wardrobe.Holds "whole.json" document) (loaded : Garment.ofJson document = .ok garment)
    (checks :
      garment.panels.all (fun panel => (panel.2.check ⟨Gauge.standard, 1.25⟩).isOk) = true)
    (told :
      ((garment.pattern? ⟨Gauge.standard, 1.25⟩).bind (Pattern.text? .plain)).isSome = true) :
    Ready wardrobe (some "") sizedCoatRun Settings.standard document (.pattern garment)
      ⟨Gauge.standard, 1.25⟩ := by
  -- The size is that of the option, and all else is standard, which leaves the check of the panels.
  refine ⟨⟨wardrobe_settings, held, .garment loaded⟩, Settings.valid_standard,
    ⟨Invocation.effectiveGauge_iff.mpr rfl, .ofOption rfl⟩, Settings.valid_standard.gauge,
    by decide, ?_, told⟩
  intro shape member
  obtain ⟨panel, listed, rfl⟩ := List.mem_map.mp member
  exact Shape.check_eq_ok_iff.mp (isOk_iff.mp (List.all_eq_true.mp checks panel listed))

/-- The back of the coat is printed behind its front as it is printed alone. -/
theorem back_printed_alone : ∃ garment : Garment, ∃ lines : List Instruction,
    (runCommand wardrobe (some "") ["garment", "whole.json", "--size", "1.25"]).stdout
      = garment.printedWith .text .plain ⟨Gauge.standard, 1.25⟩
          (Garment.shapesOf [("front", .object square)]) [] "back" lines ∧
    runCommand shelf (some "") ["generate", "back.json", "--size=1.25"]
      = ⟨0, instructionsText .plain lines, []⟩ := by
  obtain ⟨document, garment, held, loaded, table, checks, told⟩ := wardrobe_squares
  have understood : Request.read ["garment", "whole.json", "--size", "1.25"]
      = .run sizedCoatRun := by decide +kernel
  have ready := sizedCoat_ready held loaded checks told
  have succeeded : (runCommand wardrobe (some "") ["garment", "whole.json", "--size", "1.25"]).exit = 0 :=
    (exit_eq_zero_iff understood).mpr ⟨_, _, _, _, ready⟩
  obtain ⟨settings, found, other, fit, again, agree⟩ :=
    panel_printed_alone wardrobe (some "") _ understood rfl rfl succeeded
  -- The run is ready in one way only, so what is printed is said of the coat that was inspected.
  obtain ⟨rfl, rfl, same⟩ := ready.toLoaded.unique again.toLoaded
  obtain rfl := ready.effective.unique again.effective
  obtain ⟨lines, printed, alone⟩ := agree [("front", .object square)] "back" square [] table rfl
  refine ⟨other, lines, printed, ?_⟩
  exact alone shelf (some "") ["generate", "back.json", "--size=1.25"] "back.json" none
    (by decide +kernel) shelf_square.2 shelf_square.1

end FlatKnit
