import FlatKnit.Proofs.CommandLine.Stages
import FlatKnit.Proofs.Settings.Valid

/-! Output of a run: nothing is printed before every check has passed. -/

namespace FlatKnit

/-- Everything that a run checks before it prints has passed, and what it prints can be told. -/
structure Ready (tree : FileTree) (folder : Option String) (invocation : Invocation)
    (settings : Settings) (document : Json) (printout : Printout) (fit : Fit) : Prop
    extends Loaded tree folder invocation settings document printout where
  valid : settings.Valid
  effective : EffectiveFit invocation document settings fit
  gauge : fit.gauge.usable = true
  size : isUsable fit.size = true
  shapes : ∀ shape ∈ printout.shapes,
    shape.checkDimensions = .ok () ∧ shape.checkStitches fit = .ok ()
  /-- No number on the way to the text leaves its word. -/
  told : (printout.text? invocation.options settings fit).isSome = true

/-- A run that tells of its failure by its exit code, and prints nothing. -/
structure Outcome.Rejected (outcome : Outcome) : Prop where
  exit : outcome.exit ≠ 0
  stdout : outcome.stdout = ""

/-- No error ends a run with the exit code of a success. -/
theorem RunError.exitCode_ne_zero (error : RunError) : error.exitCode ≠ 0 := by
  cases error <;> simp [exitCode]

variable {tree : FileTree} {folder : Option String} {words : List String} {invocation : Invocation}

namespace Invocation

/-- A run prints exactly when it is ready to, and then what its document says at its fit. -/
theorem run_ready_iff {text : String} :
    invocation.run tree folder = .ok text ↔
      ∃ settings document printout fit,
        Ready tree folder invocation settings document printout fit ∧
        text = endLine (printout.text invocation.options settings fit) := by
  rw [run_eq_ok_iff]
  constructor
  · -- Loading has checked the settings, and the stages after it everything else.
    rintro ⟨settings, document, printout, loaded, printed, told, rfl⟩
    obtain ⟨fit, effective, gauge, size, shapes, text⟩ :=
      (output_eq_ok_iff loaded.held loaded.loads).mp told
    exact ⟨settings, document, printout, fit, ⟨loaded,
      Settings.valid_of_loadOrStandard loaded.configured, effective, gauge, size, shapes,
      by rw [text]; rfl⟩, by rw [Printout.eq_of_text? text]⟩
  · rintro ⟨settings, document, printout, fit, ready, rfl⟩
    obtain ⟨text, told⟩ := Option.isSome_iff_exists.mp ready.told
    exact ⟨settings, document, printout, ready.toLoaded, _,
      (output_eq_ok_iff ready.held ready.loads).mpr
        ⟨fit, ready.effective, ready.gauge, ready.size, ready.shapes, told⟩,
      by rw [Printout.eq_of_text? told]⟩

end Invocation

/-- One panel that fails a check keeps a garment from being ready, wherever it stands. -/
theorem not_ready_of_broken {settings : Settings} {document : Json} {garment : Garment} {fit : Fit}
    (loaded : Loaded tree folder invocation settings document (.pattern garment))
    (effective : EffectiveFit invocation document settings fit) {panel : String × Shape}
    (member : panel ∈ garment.panels) (broken : panel.2.check fit ≠ .ok ()) :
    ∀ settings document printout fit,
      ¬ Ready tree folder invocation settings document printout fit := by
  intro found parsed printout chosen ready
  obtain ⟨rfl, rfl, rfl⟩ := loaded.unique ready.toLoaded
  obtain rfl := effective.unique ready.effective
  -- A run that is ready has checked all panels, this one among them.
  have checked := ready.shapes panel.2 (List.mem_map_of_mem member)
  exact broken (Shape.check_eq_ok_iff.mpr checked)

section Understood

variable (understood : Request.read words = .run invocation)
include understood

/-- A run that is ready exits with zero, and prints what its document says at its fit. -/
theorem runCommand_of_ready {settings : Settings} {document : Json} {printout : Printout}
    {fit : Fit} (ready : Ready tree folder invocation settings document printout fit) :
    runCommand tree folder words =
      ⟨0, Invocation.endLine (printout.text invocation.options settings fit), []⟩ := by
  have ran := Invocation.run_ready_iff.mpr ⟨settings, document, printout, fit, ready, rfl⟩
  rw [runCommand, understood, Request.answer, ran]

/-- A run that is not ready prints nothing. -/
theorem rejected_of_not_ready (unready : ∀ settings document printout fit,
      ¬ Ready tree folder invocation settings document printout fit) :
    (runCommand tree folder words).Rejected := by
  -- An error is answered by an exit code alone, and a text needs a run that is ready.
  rw [runCommand, understood, Request.answer]
  cases ran : invocation.run tree folder with
  | ok text =>
    obtain ⟨settings, document, printout, fit, ready, _⟩ := Invocation.run_ready_iff.mp ran
    exact absurd ready (unready settings document printout fit)
  | error error => exact ⟨error.exitCode_ne_zero, rfl⟩

/-- The exit code is zero exactly when the run is ready. -/
theorem exit_eq_zero_iff : (runCommand tree folder words).exit = 0 ↔
    ∃ settings document printout fit,
      Ready tree folder invocation settings document printout fit := by
  -- A run that is not ready is rejected, and a rejected run does not exit with zero.
  constructor
  · intro succeeded
    by_contra unready
    refine (rejected_of_not_ready understood ?_).exit succeeded
    intro settings document printout fit ready
    exact unready ⟨settings, document, printout, fit, ready⟩
  · rintro ⟨settings, document, printout, fit, ready⟩
    rw [runCommand_of_ready understood ready]

end Understood

/--
A command line prints only after every check has passed, and otherwise fails without any output.

The settings are loaded and valid, the document is read and loaded, the gauge and the size can be
used, and every shape that is printed passes both of its checks at that fit. A garment is printed
as a whole or not at all: one panel that fails a check leaves those before it unprinted. A run
whose numbers leave their words behind the checks fails without any output, too.
-/
theorem runCommand_checked (tree : FileTree) (folder : Option String) (words : List String) :
    (∀ invocation, Request.read words = .run invocation →
      ((runCommand tree folder words).exit = 0 ↔ ∃ settings document printout fit,
        Ready tree folder invocation settings document printout fit) ∧
      (∀ settings document printout fit,
        Ready tree folder invocation settings document printout fit →
          runCommand tree folder words =
            ⟨0, Invocation.endLine (printout.text invocation.options settings fit), []⟩) ∧
      ((∀ settings document printout fit,
        ¬ Ready tree folder invocation settings document printout fit) →
          (runCommand tree folder words).Rejected) ∧
      (∀ settings document garment fit,
        Loaded tree folder invocation settings document (.pattern garment) →
        EffectiveFit invocation document settings fit →
        ∀ earlier name shape later, garment.panels = earlier ++ (name, shape) :: later →
          shape.check fit ≠ .ok () → (runCommand tree folder words).Rejected)) ∧
    (Request.read words = .refused → (runCommand tree folder words).Rejected) := by
  refine ⟨?_, ?_⟩
  · intro invocation understood
    refine ⟨exit_eq_zero_iff understood, ?_, rejected_of_not_ready understood, ?_⟩
    · intro settings document printout fit ready
      exact runCommand_of_ready understood ready
    · intro settings document garment fit loaded effective earlier name shape later listed broken
      have member : (name, shape) ∈ garment.panels := by simp [listed]
      exact rejected_of_not_ready understood
        (not_ready_of_broken loaded effective member broken)
  · -- A command line that is not understood leads to no run at all.
    intro refused
    rw [runCommand, refused]
    exact ⟨Nat.succ_ne_zero 1, rfl⟩

/-- The text of a garment with two square panels, the second one of a given height. -/
def coat (height : String) : String :=
  "\x7b\"shapes\": \x7b\"front\": \x7b\"height\": 2, \"baseA\": 2, \"baseB\": 2\x7d, " ++
    "\"back\": \x7b\"height\": " ++ height ++ ", \"baseA\": 2, \"baseB\": 2\x7d\x7d\x7d"

/-- Two coats, the second one with a back whose height is below zero. -/
def wardrobe : FileTree where
  files := [(["whole.json"], coat "2"), (["torn.json"], coat "-2")]
  folders := []

/-- The garment command on a file, without any option. -/
def coatRun (path : String) : Invocation :=
  ⟨.garment, path, none, ⟨none, none, none, none, false, none⟩⟩

/-- The fit of a garment for which nobody says anything. -/
def standardFit : Fit := ⟨Gauge.standard, Settings.standard.size⟩

/-- The document that the file under a path holds. -/
def FileTree.document? (tree : FileTree) (path : String) : Option Json :=
  (tree.read path).toOption.bind Json.read

/-- A file holds the document that is found in it. -/
theorem FileTree.holds_of_document? {path : String} {document : Json}
    (found : tree.document? path = some document) : tree.Holds path document := by
  obtain ⟨text, read, parsed⟩ := Option.bind_eq_some_iff.mp found
  exact ⟨text, toOption_eq_some_iff.mp read, parsed⟩

/-- What is seen of a garment: its size labels, how its panels fare, and whether it can be told. -/
structure GarmentInspection where
  labels : List String
  /-- For each panel, whether it passes its checks. -/
  checks : List Bool
  /-- The plain text of the pattern can be told. -/
  told : Bool
  deriving DecidableEq

/-- Inspects the garment in a file at a fit. -/
def FileTree.inspection? (tree : FileTree) (path : String) (fit : Fit) :
    Option GarmentInspection :=
  (tree.document? path).bind fun document =>
    (Garment.ofJson document).toOption.map fun garment =>
      ⟨garment.sizes.map Prod.fst, garment.panels.map fun panel => (panel.2.check fit).isOk,
        ((garment.pattern? fit).bind (Pattern.text? .plain)).isSome⟩

/-- What can be inspected is in the file. -/
theorem FileTree.exists_of_inspection? {path : String} {fit : Fit}
    {inspection : GarmentInspection} (inspected : tree.inspection? path fit = some inspection) :
    ∃ document garment, tree.Holds path document ∧ Garment.ofJson document = .ok garment ∧
      garment.sizes.map Prod.fst = inspection.labels ∧
      (garment.panels.map fun panel => (panel.2.check fit).isOk) = inspection.checks ∧
      ((garment.pattern? fit).bind (Pattern.text? .plain)).isSome = inspection.told := by
  -- An inspection is a chain of steps, each of which gave a result.
  obtain ⟨document, found, inspected⟩ := Option.bind_eq_some_iff.mp inspected
  obtain ⟨garment, loaded, rfl⟩ := Option.map_eq_some_iff.mp inspected
  exact ⟨document, garment, holds_of_document? found, toOption_eq_some_iff.mp loaded,
    rfl, rfl, rfl⟩

/-- There is no settings file for the run to read. -/
theorem wardrobe_settings : Settings.loadOrStandard wardrobe (some "") none = .ok Settings.standard :=
  Settings.loadOrStandard_of_lost rfl

/-- Both panels of the first coat pass. -/
theorem wardrobe_whole :
    wardrobe.inspection? "whole.json" standardFit = some ⟨[], [true, true], true⟩ := by
  rw [FileTree.inspection?, FileTree.document?, FileTree.read,
    FileTree.resolve_eq_walk wardrobe (by decide)]
  decide +kernel

/-- The front of the second coat passes, and its back does not. -/
theorem wardrobe_torn :
    wardrobe.inspection? "torn.json" standardFit = some ⟨[], [true, false], true⟩ := by
  rw [FileTree.inspection?, FileTree.document?, FileTree.read,
    FileTree.resolve_eq_walk wardrobe (by decide)]
  decide +kernel

/-- A garment without sizes is knitted at the standard fit when nobody says anything else. -/
theorem coatRun_effectiveFit {path : String} {document : Json} {garment : Garment}
    (loaded : Garment.ofJson document = .ok garment) (unsized : garment.sizes.map Prod.fst = []) :
    EffectiveFit (coatRun path) document Settings.standard standardFit where
  gauge := Invocation.effectiveGauge_iff.mpr rfl
  size := by
    -- Without a size in its table, the garment leaves the size to the settings.
    have first := Garment.head?_sizes loaded
    rw [List.map_eq_nil_iff.mp unsized] at first
    exact GarmentSize.ofSettings rfl rfl rfl first.symm

/-- The run on the whole coat is ready. -/
theorem wardrobe_ready : ∃ settings document printout,
    Ready wardrobe (some "") (coatRun "whole.json") settings document printout standardFit := by
  obtain ⟨document, garment, held, loaded, unsized, checks, told⟩ :=
    FileTree.exists_of_inspection? wardrobe_whole
  refine ⟨Settings.standard, document, .pattern garment, ⟨wardrobe_settings, held, .garment loaded⟩,
    Settings.valid_standard, coatRun_effectiveFit loaded unsized, by decide, by decide, ?_, told⟩
  intro shape member
  obtain ⟨panel, listed, rfl⟩ := List.mem_map.mp member
  -- Every panel of the garment is among those that were inspected.
  have inspected : (panel.2.check standardFit).isOk ∈ [true, true] := by
    rw [← show _ = [true, true] from checks]
    exact List.mem_map.mpr ⟨panel, listed, rfl⟩
  exact Shape.check_eq_ok_iff.mp (isOk_iff.mp (by simpa using inspected))

/-- The whole coat is printed; nothing of the torn one is, though its front is as good. -/
theorem wardrobe_checked :
    (runCommand wardrobe (some "") ["garment", "whole.json"]).exit = 0 ∧
    (runCommand wardrobe (some "") ["garment", "torn.json"]).Rejected ∧
    (runCommand wardrobe (some "") ["garment"]).Rejected := by
  have decides := runCommand_checked wardrobe (some "")
  refine ⟨?_, ?_, (decides ["garment"]).2 rfl⟩
  · obtain ⟨settings, document, printout, ready⟩ := wardrobe_ready
    exact ((decides ["garment", "whole.json"]).1 (coatRun "whole.json") rfl).1.mpr
      ⟨settings, document, printout, standardFit, ready⟩
  · obtain ⟨document, garment, held, loaded, unsized, checks, _⟩ :=
      FileTree.exists_of_inspection? wardrobe_torn
    obtain ⟨front, others, panels, _, rest⟩ := List.map_eq_cons_iff.mp checks
    obtain ⟨back, later, rfl, failed, _⟩ := List.map_eq_cons_iff.mp rest
    -- The back comes after the front, and fails.
    refine ((decides ["garment", "torn.json"]).1 (coatRun "torn.json") rfl).2.2.2
      Settings.standard document garment standardFit ⟨wardrobe_settings, held, .garment loaded⟩
      (coatRun_effectiveFit loaded unsized) [front] back.1 back.2 later panels ?_
    intro passed
    rw [passed] at failed
    cases failed

end FlatKnit
