import FlatKnit.Proofs.CommandLine.Fit
import FlatKnit.Proofs.CommandLine.Rows

/-! Stages of a run: it loads its document, finds its fit, checks its shapes, and then prints. -/

namespace FlatKnit

/-- The file under a path holds the text of a document. -/
def FileTree.Holds (tree : FileTree) (path : String) (document : Json) : Prop :=
  ∃ text, tree.read path = .ok text ∧ Json.read text = some document

/-- The error that a run ends with when it cannot use its fit, if it is one of those. -/
def RunError.fitFault? : RunError → Option KnitError
  | fit fault => some fault
  | _ => none

/-- What ends the check of a shape is no fault of the fit, if it is told as none. -/
theorem RunError.fitFault?_ofStop {told : ShapeFault → RunError}
    (named : ∀ fault, (told fault).fitFault? = none) (stop : CheckStop) :
    (ofStop told stop).fitFault? = none := by
  cases stop with
  | fault fault => exact named fault
  | overflow => rfl

/-- A number that leaves its word is no fault of the fit. -/
theorem RunError.fitFault?_of_computed {α : Type} {attempt : Option α} {error : RunError}
    (failed : computed attempt = .error error) : error.fitFault? = none := by
  cases attempt with
  | none =>
    cases failed
    rfl
  | some value => cases failed

/-- Steps that are computed one after another are computed together. -/
theorem RunError.computed_bind {α β : Type} (attempt : Option α) (next : α → Option β) :
    computed (attempt.bind next) = computed attempt >>= fun value => computed (next value) := by
  cases attempt <;> rfl

/-- The panel at another fit. -/
def Panel.atFit (panel : Panel) (fit : Fit) : Panel :=
  { panel with fit := fit }

variable {tree : FileTree} {settings : Settings} {invocation : Invocation} {document : Json}

/-- What a file holds has no key twice. -/
theorem FileTree.Holds.wellFormed {path : String} (held : tree.Holds path document) :
    document.WellFormed := by
  obtain ⟨text, _, parsed⟩ := held
  exact Json.wellFormed_read parsed

/-- A file holds one document at most. -/
theorem FileTree.Holds.unique {path : String} {one other : Json} (first : tree.Holds path one)
    (second : tree.Holds path other) : one = other := by
  -- A path is read as one text, and a text is read as one document.
  obtain ⟨text, read, parsed⟩ := first
  obtain ⟨again, reread, reparsed⟩ := second
  obtain rfl := Except.ok.inj (read.symm.trans reread)
  exact Option.some.inj (parsed.symm.trans reparsed)

namespace Invocation

/-- With its document loaded, a run on a panel finds its fit and checks the panel there. -/
theorem loadPanel_eq {panel : Panel} (held : tree.Holds invocation.input document)
    (loaded : Panel.ofJson document = .ok panel) :
    invocation.loadPanel tree settings = (do
      let gauge ← gauge invocation.options document.suppliedGauge? settings
      let size ← panelSize invocation.options document.suppliedSize? settings
      (panel.atFit ⟨gauge, size⟩).check.mapError (.ofStop (.panelShape invocation.input))
      return panel.atFit ⟨gauge, size⟩) := by
  -- What the panel took over from its document is what the document supplies.
  obtain ⟨text, read, parsed⟩ := held
  rw [← suppliedGauge?_of_ofJson loaded, ← suppliedSize?_of_ofJson loaded]
  simp only [loadPanel, read, parsed, loaded, mapError_ok, ok_bind]
  rfl

/-- With its document loaded, a run on a garment finds its fit and checks the panels there. -/
theorem loadPattern_eq {garment : Garment} (held : tree.Holds invocation.input document)
    (loaded : Garment.ofJson document = .ok garment) :
    invocation.loadPattern tree settings = (do
      let gauge ← gauge invocation.options none settings
      let size ← garmentSize invocation.options garment settings
      checkPanels ⟨gauge, size⟩ garment.panels
      RunError.computed (garment.pattern? ⟨gauge, size⟩)) := by
  -- All steps up to the fit are known to succeed.
  obtain ⟨text, read, parsed⟩ := held
  simp only [loadPattern, Garment.read, read, parsed, loaded, mapError_ok, ok_bind]

/-- A run on a panel that does not load its document ends before it looks for a fit. -/
theorem loadPanel_loads_or_fails (tree : FileTree) (settings : Settings)
    (invocation : Invocation) :
    (∃ document panel, tree.Holds invocation.input document ∧
      Panel.ofJson document = .ok panel) ∨
    ∃ error, invocation.loadPanel tree settings = .error error ∧ error.fitFault? = none := by
  -- The file is read first, then its text, and then the document that the text holds.
  cases read : tree.read invocation.input with
  | error fault => exact .inr ⟨.input invocation.input fault, by simp [loadPanel, read], rfl⟩
  | ok text =>
    cases parsed : Json.read text with
    | none => exact .inr ⟨.inputJson invocation.input, by simp [loadPanel, read, parsed], rfl⟩
    | some document =>
      cases loaded : Panel.ofJson document with
      | error fault =>
        exact .inr ⟨.panelGauge invocation.input fault,
          by simp [loadPanel, read, parsed, loaded], rfl⟩
      | ok panel => exact .inl ⟨document, panel, ⟨text, read, parsed⟩, loaded⟩

/-- A run on a garment that does not load its document ends before it looks for a fit. -/
theorem loadPattern_loads_or_fails (tree : FileTree) (settings : Settings)
    (invocation : Invocation) :
    (∃ document garment, tree.Holds invocation.input document ∧
      Garment.ofJson document = .ok garment) ∨
    ∃ error, invocation.loadPattern tree settings = .error error ∧ error.fitFault? = none := by
  -- The stages are reading the file, its document, and the garment in it; each has an error of its
  -- own.
  cases read : tree.read invocation.input with
  | error fault =>
    exact .inr ⟨.garmentFile invocation.input fault, by simp [loadPattern, read], rfl⟩
  | ok text =>
    cases parsed : Json.read text with
    | none =>
      exact .inr ⟨.garment invocation.input .notJson,
        by simp [loadPattern, Garment.read, read, parsed], rfl⟩
    | some document =>
      cases loaded : Garment.ofJson document with
      | error fault =>
        exact .inr ⟨.garment invocation.input (.garment fault),
          by simp [loadPattern, Garment.read, read, parsed, loaded], rfl⟩
      | ok garment => exact .inl ⟨document, garment, ⟨text, read, parsed⟩, loaded⟩

end Invocation

/-- What a run prints: the lines or the rows of a panel, or the pattern of a garment. -/
inductive Printout where
  | instructions (panel : Panel)
  | rows (panel : Panel)
  | pattern (garment : Garment)

/-- Each subcommand loads its document in its own way. -/
inductive Subcommand.Loads (document : Json) : Subcommand → Printout → Prop where
  | generate {panel : Panel} (loaded : Panel.ofJson document = .ok panel) :
    Loads document .generate (.instructions panel)
  | rows {panel : Panel} (loaded : Panel.ofJson document = .ok panel) :
    Loads document .rows (.rows panel)
  | garment {garment : Garment} (loaded : Garment.ofJson document = .ok garment) :
    Loads document .garment (.pattern garment)

namespace Subcommand

/-- A document is loaded in one way. -/
theorem Loads.unique {subcommand : Subcommand} {one other : Printout}
    (first : subcommand.Loads document one) (second : subcommand.Loads document other) :
    one = other := by
  -- The subcommand says how, so both ways end in one result of the same loader.
  cases first with
  | generate loaded =>
    cases second with
    | generate again => rw [Except.ok.inj (loaded.symm.trans again)]
  | rows loaded =>
    cases second with
    | rows again => rw [Except.ok.inj (loaded.symm.trans again)]
  | garment loaded =>
    cases second with
    | garment again => rw [Except.ok.inj (loaded.symm.trans again)]

/-- The gauge that a document supplies to a subcommand; a garment supplies none. -/
def suppliedGauge? (document : Json) : Subcommand → Option Gauge
  | generate | rows => document.suppliedGauge?
  | garment => none

/-- The size of a run, which a panel finds among its layers and a garment in its size table. -/
def EffectiveSize (options : Options) (document : Json) (settings : Settings) :
    Subcommand → Float → Prop
  | generate | rows => Preferred options.size document.suppliedSize? settings.size
  | garment => GarmentSize options document.sizeTable settings

end Subcommand

/-- The gauge and the size that a run takes from its layers, before it checks them. -/
structure EffectiveFit (invocation : Invocation) (document : Json) (settings : Settings)
    (fit : Fit) : Prop where
  gauge : EffectiveGauge invocation.options (invocation.subcommand.suppliedGauge? document) settings
    fit.gauge
  size : invocation.subcommand.EffectiveSize invocation.options document settings fit.size

/-- A run takes one fit at most from its layers. -/
theorem EffectiveFit.unique {one other : Fit}
    (first : EffectiveFit invocation document settings one)
    (second : EffectiveFit invocation document settings other) : one = other := by
  have gauge : one.gauge = other.gauge :=
    (Invocation.effectiveGauge_iff.mp first.gauge).symm.trans
      (Invocation.effectiveGauge_iff.mp second.gauge)
  -- The size of a panel is a preferred one, and that of a garment may come from its table.
  have size : one.size = other.size := by
    have sizes := first.size
    have others := second.size
    cases asked : invocation.subcommand with
    | generate | rows =>
      rw [asked, Subcommand.EffectiveSize, preferred_iff] at sizes others
      exact sizes.symm.trans others
    | garment =>
      rw [asked] at sizes others
      exact GarmentSize.unique sizes others
  cases one
  cases other
  exact congrArg₂ Fit.mk gauge size

/-- The settings and the document of a run are loaded. -/
structure Loaded (tree : FileTree) (folder : Option String) (invocation : Invocation)
    (settings : Settings) (document : Json) (printout : Printout) : Prop where
  configured : Settings.loadOrStandard tree folder invocation.config = .ok settings
  held : tree.Holds invocation.input document
  loads : invocation.subcommand.Loads document printout

/-- A run has one value of its settings and one document, which it loads in one way. -/
theorem Loaded.unique {folder : Option String} {found : Settings} {parsed : Json}
    {printout other : Printout}
    (first : Loaded tree folder invocation settings document printout)
    (second : Loaded tree folder invocation found parsed other) :
    settings = found ∧ document = parsed ∧ printout = other := by
  obtain rfl := Except.ok.inj (first.configured.symm.trans second.configured)
  obtain rfl := first.held.unique second.held
  exact ⟨rfl, rfl, first.loads.unique second.loads⟩

namespace Printout

/-- The shapes that are printed. -/
def shapes : Printout → List Shape
  | instructions panel | rows panel => panel.shape.toList
  | pattern garment => garment.panels.map Prod.snd

/-- Looks for the size of what is printed, and checks it. -/
def size (options : Options) (document : Json) (settings : Settings) :
    Printout → Except RunError Float
  | instructions _ | rows _ => Invocation.panelSize options document.suppliedSize? settings
  | pattern garment => Invocation.garmentSize options garment settings

/-- Checks what is printed at a fit. -/
def check (path : String) (fit : Fit) : Printout → Except RunError Unit
  | instructions panel | rows panel =>
    (panel.atFit fit).check.mapError (.ofStop (.panelShape path))
  | pattern garment => Invocation.checkPanels fit garment.panels

/-- The text at a fit, before its last line break. -/
def text (options : Options) (settings : Settings) (fit : Fit) (printout : Printout) : String :=
  let format := options.format.getD settings.format
  let listing := Invocation.listing options settings
  match printout with
  | instructions panel =>
    let lines := (panel.atFit fit).instructions
    match format with
    | .text => instructionsText listing lines
    | .json => (instructionsJson lines).pretty
  | rows panel => Invocation.rowsText format (panel.atFit fit).plans
  | pattern garment =>
    match format with
    | .text => (garment.pattern fit).text listing
    | .json => (garment.pattern fit).toJson.pretty

/-- The text at a fit, unless a number on the way to it leaves its word. -/
def text? (options : Options) (settings : Settings) (fit : Fit) (printout : Printout) :
    Option String :=
  let format := options.format.getD settings.format
  let listing := Invocation.listing options settings
  match printout with
  | instructions panel =>
    (panel.atFit fit).instructions?.bind fun lines =>
      match format with
      | .text => instructionsText? listing lines
      | .json => some (instructionsJson lines).pretty
  | rows panel => (panel.atFit fit).plans?.bind (Invocation.rowsText? format)
  | pattern garment =>
    (garment.pattern? fit).bind fun pattern =>
      match format with
      | .text => pattern.text? listing
      | .json => some pattern.toJson.pretty

/-- A text that can be told is the text. -/
theorem eq_of_text? {options : Options} {settings : Settings} {fit : Fit} {printout : Printout}
    {text : String} (told : printout.text? options settings fit = some text) :
    printout.text options settings fit = text := by
  cases printout with
  | instructions panel =>
    obtain ⟨lines, there, told⟩ := Option.bind_eq_some_iff.mp told
    obtain rfl := Panel.eq_of_instructions? there
    rw [Printout.text]
    split at told
    · exact (instructionsText?_eq_some_iff.mp told).2
    · exact Option.some.inj told
  | rows panel =>
    obtain ⟨plans, there, told⟩ := Option.bind_eq_some_iff.mp told
    obtain rfl := Panel.eq_of_plans? there
    exact Invocation.eq_of_rowsText? told
  | pattern garment =>
    obtain ⟨pattern, there, told⟩ := Option.bind_eq_some_iff.mp told
    obtain ⟨_, rfl⟩ := Garment.pattern?_eq_some_iff.mp there
    rw [Printout.text]
    split at told
    · exact (Pattern.text?_eq_some_iff.mp told).2
    · exact Option.some.inj told

end Printout

namespace Invocation

/-- Once its document is loaded, every run goes through the same stages. -/
theorem output_eq {printout : Printout} (held : tree.Holds invocation.input document)
    (loaded : invocation.subcommand.Loads document printout) :
    invocation.output tree settings = (do
      let gauge ← gauge invocation.options (invocation.subcommand.suppliedGauge? document) settings
      let size ← printout.size invocation.options document settings
      printout.check invocation.input ⟨gauge, size⟩
      RunError.computed (printout.text? invocation.options settings ⟨gauge, size⟩)) := by
  generalize asked : invocation.subcommand = subcommand at loaded
  -- Each subcommand ends in a text of what its loader gives, and so after the stages of the loader.
  cases loaded with
  | generate loaded =>
    simp only [output, asked, loadPanel_eq held loaded, bind_assoc, pure_bind, Printout.text?,
      RunError.computed_bind]
    refine bind_congr fun gauge => bind_congr fun size => bind_congr fun _ =>
      bind_congr fun lines => ?_
    cases invocation.options.format.getD settings.format <;> rfl
  | rows loaded =>
    simp only [output, asked, loadPanel_eq held loaded, bind_assoc, pure_bind, Printout.text?,
      RunError.computed_bind]
    refine bind_congr fun gauge => bind_congr fun size => bind_congr fun _ =>
      bind_congr fun plans => ?_
    cases invocation.options.format.getD settings.format <;> rfl
  | garment loaded =>
    simp only [output, asked, loadPattern_eq held loaded, bind_assoc, Printout.text?,
      RunError.computed_bind]
    refine bind_congr fun gauge => bind_congr fun size => bind_congr fun _ =>
      bind_congr fun pattern => ?_
    cases invocation.options.format.getD settings.format <;> rfl

/-- A run that does not load its document ends before it looks for a fit. -/
theorem output_loads_or_fails (tree : FileTree) (settings : Settings) (invocation : Invocation) :
    (∃ document printout, tree.Holds invocation.input document ∧
      invocation.subcommand.Loads document printout) ∨
    ∃ error, invocation.output tree settings = .error error ∧ error.fitFault? = none := by
  cases asked : invocation.subcommand with
  | garment =>
    rcases loadPattern_loads_or_fails tree settings invocation with
      ⟨document, garment, held, loaded⟩ | ⟨error, failed, early⟩
    · exact .inl ⟨document, .pattern garment, held, .garment loaded⟩
    · exact .inr ⟨error, by simp [output, asked, failed], early⟩
  -- The two commands for a panel load it in the same way.
  | generate =>
    rcases loadPanel_loads_or_fails tree settings invocation with
      ⟨document, panel, held, loaded⟩ | ⟨error, failed, early⟩
    · exact .inl ⟨document, .instructions panel, held, .generate loaded⟩
    · exact .inr ⟨error, by simp [output, asked, failed], early⟩
  | rows =>
    rcases loadPanel_loads_or_fails tree settings invocation with
      ⟨document, panel, held, loaded⟩ | ⟨error, failed, early⟩
    · exact .inl ⟨document, .rows panel, held, .rows loaded⟩
    · exact .inr ⟨error, by simp [output, asked, failed], early⟩

/-- A list of panels passes when every panel of it does. -/
theorem checkPanels_eq_ok_iff {fit : Fit} {panels : List (String × Shape)} :
    checkPanels fit panels = .ok () ↔
      ∀ panel ∈ panels, panel.2.check fit = .ok () := by
  -- The check of the first panel is renamed, which does not change whether it passes.
  induction panels with
  | nil => simp [checkPanels]
  | cons panel rest ih =>
    rw [checkPanels, bind_eq_ok_iff, List.forall_mem_cons, ← ih]
    constructor
    · rintro ⟨⟨⟩, first, others⟩
      exact ⟨mapError_eq_ok_iff.mp first, others⟩
    · rintro ⟨first, others⟩
      exact ⟨(), mapError_eq_ok_iff.mpr first, others⟩

/-- The check of panels fails for the shape of a panel only. -/
theorem fitFault?_of_checkPanels {fit : Fit} {panels : List (String × Shape)} {error : RunError}
    (failed : checkPanels fit panels = .error error) : error.fitFault? = none := by
  -- The first panel that fails ends the check, and its error tells a shape.
  induction panels with
  | nil => cases failed
  | cons panel rest ih =>
    rw [checkPanels, bind_eq_error_iff] at failed
    rcases failed with first | ⟨_, _, others⟩
    · obtain ⟨stop, _, rfl⟩ := mapError_eq_error_iff.mp first
      exact RunError.fitFault?_ofStop (fun _ => rfl) stop
    · exact ih others

end Invocation

namespace Printout

variable {options : Options} {printout : Printout} {subcommand : Subcommand}

/-- The size of what is printed is the effective one, if it can be used. -/
theorem size_eq_ok_iff (wellFormed : document.WellFormed)
    (loaded : subcommand.Loads document printout) {chosen : Float} :
    printout.size options document settings = .ok chosen ↔
      subcommand.EffectiveSize options document settings chosen ∧ isUsable chosen = true := by
  -- The two commands on panels share their check, and the garment has its own.
  cases loaded with
  | generate loaded => exact Invocation.panelSize_eq_ok_iff
  | rows loaded => exact Invocation.panelSize_eq_ok_iff
  | garment loaded => exact Invocation.garmentSize_eq_ok_iff wellFormed loaded

/-- The size check fails at a size that cannot be used, or at a label that a garment lacks. -/
theorem size_eq_error_iff (wellFormed : document.WellFormed)
    (loaded : subcommand.Loads document printout) {error : RunError} :
    printout.size options document settings = .error error ↔
      (∃ size, subcommand.EffectiveSize options document settings size ∧ isUsable size = false ∧
        error = .fit (.size size)) ∨
      ∃ garment label, printout = .pattern garment ∧ AskedLabel options settings label ∧
        Garment.multiplierAt? document.sizeTable label = none ∧
        error = .fit (.garment (.unknownSize label (garment.sizes.map Prod.fst))) := by
  -- Only a garment can fail for a label, since a panel has no table of sizes.
  cases loaded with
  | generate loaded | rows loaded =>
    rw [size, Invocation.panelSize_eq_error_iff]
    simp [Subcommand.EffectiveSize]
  | garment loaded =>
    rw [size, Invocation.garmentSize_eq_error_iff wellFormed loaded]
    simp [Subcommand.EffectiveSize]

/-- What is printed passes its check when every shape of it passes both of its own. -/
theorem check_eq_ok_iff {path : String} {fit : Fit} :
    printout.check path fit = .ok () ↔ ∀ shape ∈ printout.shapes,
      shape.checkDimensions = .ok () ∧ shape.checkStitches fit = .ok () := by
  simp only [← Shape.check_eq_ok_iff]
  cases printout with
  | instructions panel | rows panel =>
    -- A panel has one shape or none, and passes without one.
    rw [check, mapError_eq_ok_iff, shapes, Panel.check, Panel.atFit]
    cases panel.shape <;> simp
  | pattern garment =>
    rw [check, Invocation.checkPanels_eq_ok_iff, shapes, List.forall_mem_map]

/-- The check of what is printed fails for a shape only. -/
theorem fitFault?_of_check {path : String} {fit : Fit} {error : RunError}
    (failed : printout.check path fit = .error error) : error.fitFault? = none := by
  -- Each kind of printout has its check, and none of them tells a fault of the fit.
  cases printout with
  | instructions panel | rows panel =>
    obtain ⟨stop, _, rfl⟩ := mapError_eq_error_iff.mp failed
    exact RunError.fitFault?_ofStop (fun _ => rfl) stop
  | pattern garment => exact Invocation.fitFault?_of_checkPanels failed

end Printout

namespace Invocation

section Loaded

variable {printout : Printout} (held : tree.Holds invocation.input document)
  (loads : invocation.subcommand.Loads document printout)
include held loads

/--
A loaded run prints when its fit can be used, its shapes pass their checks there, and no number on
the way to the text leaves its word.
-/
theorem output_eq_ok_iff {text : String} :
    invocation.output tree settings = .ok text ↔
      ∃ fit, EffectiveFit invocation document settings fit ∧
        fit.gauge.usable = true ∧ isUsable fit.size = true ∧
        (∀ shape ∈ printout.shapes,
          shape.checkDimensions = .ok () ∧ shape.checkStitches fit = .ok ()) ∧
        printout.text? invocation.options settings fit = some text := by
  rw [output_eq held loads]
  constructor
  · -- Each stage has given something for the next one, down to the text.
    intro printed
    obtain ⟨gauge, chosenGauge, printed⟩ := bind_eq_ok_iff.mp printed
    obtain ⟨size, chosenSize, printed⟩ := bind_eq_ok_iff.mp printed
    obtain ⟨⟨⟩, checked, printed⟩ := bind_eq_ok_iff.mp printed
    obtain ⟨effectiveGauge, usableGauge⟩ := gauge_eq_ok_iff.mp chosenGauge
    obtain ⟨effectiveSize, usableSize⟩ :=
      (Printout.size_eq_ok_iff held.wellFormed loads).mp chosenSize
    exact ⟨⟨gauge, size⟩, ⟨effectiveGauge, effectiveSize⟩, usableGauge, usableSize,
      Printout.check_eq_ok_iff.mp checked, RunError.computed_eq_ok_iff.mp printed⟩
  · -- The effective fit is what the stages choose, so none of them stops the run.
    rintro ⟨fit, effective, usableGauge, usableSize, checked, told⟩
    have chosenGauge := gauge_eq_ok_iff.mpr ⟨effective.gauge, usableGauge⟩
    have chosenSize := (Printout.size_eq_ok_iff held.wellFormed loads).mpr
      ⟨effective.size, usableSize⟩
    have passed : printout.check invocation.input fit = .ok () :=
      Printout.check_eq_ok_iff.mpr checked
    rw [chosenGauge, ok_bind, chosenSize, ok_bind, passed, ok_bind]
    exact RunError.computed_eq_ok_iff.mpr told

/-- A loaded run ends for want of a fit when its gauge or its size is refused. -/
theorem output_eq_fit_error_iff {fault : KnitError} :
    invocation.output tree settings = .error (.fit fault) ↔
      gauge invocation.options (invocation.subcommand.suppliedGauge? document) settings
          = .error (.fit fault) ∨
        (∃ chosen, gauge invocation.options (invocation.subcommand.suppliedGauge? document)
            settings = .ok chosen) ∧
          printout.size invocation.options document settings = .error (.fit fault) := by
  rw [output_eq held loads]
  constructor
  · intro failed
    rcases bind_eq_error_iff.mp failed with rejected | ⟨chosen, found, failed⟩
    · exact .inl rejected
    rcases bind_eq_error_iff.mp failed with rejected | ⟨size, _, failed⟩
    · exact .inr ⟨⟨chosen, found⟩, rejected⟩
    -- What can fail after the size is no fault of the fit.
    rcases bind_eq_error_iff.mp failed with rejected | ⟨_, _, untold⟩
    · cases Printout.fitFault?_of_check rejected
    · cases RunError.fitFault?_of_computed untold
  · rintro (rejected | ⟨⟨chosen, found⟩, rejected⟩)
    · simp [rejected]
    · simp [found, rejected]

end Loaded

variable {folder : Option String}

/-- What a run prints is its output with a line break at its end. -/
theorem run_eq_ok_iff {text : String} :
    invocation.run tree folder = .ok text ↔
      ∃ settings document printout, Loaded tree folder invocation settings document printout ∧
        ∃ printed, invocation.output tree settings = .ok printed ∧ text = endLine printed := by
  constructor
  · intro ran
    obtain ⟨settings, configured, ran⟩ := bind_eq_ok_iff.mp ran
    obtain ⟨printed, told, ran⟩ := bind_eq_ok_iff.mp ran
    -- There was an output, and so the document must have been loaded before.
    rcases output_loads_or_fails tree settings invocation with
      ⟨document, printout, held, loads⟩ | ⟨error, failed, _⟩
    · exact ⟨settings, document, printout, ⟨mapError_eq_ok_iff.mp configured, held, loads⟩,
        printed, told, (Except.ok.inj ran).symm⟩
    · rw [failed] at told
      cases told
  · rintro ⟨settings, document, printout, loaded, printed, told, rfl⟩
    simp only [run, loaded.configured, mapError_ok, ok_bind, told]
    rfl

/-- A run ends for want of a fit only after its settings and its document are loaded. -/
theorem run_eq_fit_error_iff {fault : KnitError} :
    invocation.run tree folder = .error (.fit fault) ↔
      ∃ settings document printout, Loaded tree folder invocation settings document printout ∧
        invocation.output tree settings = .error (.fit fault) := by
  constructor
  · intro failed
    rcases bind_eq_error_iff.mp failed with unset | ⟨settings, configured, failed⟩
    · -- Settings that cannot be loaded have errors of their own.
      obtain ⟨_, _, same⟩ := mapError_eq_error_iff.mp unset
      cases same
    rcases bind_eq_error_iff.mp failed with failed | ⟨_, _, printed⟩
    · rcases output_loads_or_fails tree settings invocation with
        ⟨document, printout, held, loads⟩ | ⟨error, early, noFit⟩
      · exact ⟨settings, document, printout, ⟨mapError_eq_ok_iff.mp configured, held, loads⟩,
          failed⟩
      · rw [early] at failed
        cases failed
        cases noFit
    · cases printed
  · rintro ⟨settings, document, printout, loaded, failed⟩
    simp [run, loaded.configured, failed]

end Invocation

end FlatKnit
