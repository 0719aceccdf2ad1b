import FlatKnit.Proofs.CommandLine.Precedence
import FlatKnit.Proofs.Panel.Reload

/-! Sizes of panels: the layers that a size comes from, and where a layer is passed over. -/

namespace FlatKnit

/-- The usable size of a panel document; a bare shape record has none, whatever it holds. -/
def Json.usableSize? : Json → Option Float
  | .object entries =>
    if (entries.lookup "shapes").isSome then Record.multiplier? entries "sizeModifier" else none
  | _ => none

/-- A panel document holds a size, which is not null and cannot be used. -/
inductive Json.HoldsUselessSize : Json → Prop where
  | intro {entries : List (String × Json)} {value : Json}
      (isPanel : (entries.lookup "shapes").isSome = true)
      (held : entries.lookup "sizeModifier" = some value) (notNull : value ≠ .null)
      (useless : Record.multiplierOf? value = none) : HoldsUselessSize (.object entries)

/-- A multiplier that is read from a value can be used. -/
theorem Record.isUsable_of_multiplierOf? {value : Json} {size : Float}
    (read : Record.multiplierOf? value = some size) : isUsable size = true :=
  (Option.filter_eq_some_iff.mp read).2

namespace Json

variable {document : Json}

/-- What a document supplies is the size that it holds, the standard one if that cannot be used. -/
theorem suppliedSize?_eq : document.suppliedSize?
    = (Invocation.documentValue? document "sizeModifier").map fun value =>
        (Record.multiplierOf? value).getD standardSize := by
  -- Only a document with shapes supplies a size, and null in it counts as nothing.
  cases document with
  | object entries =>
    cases present : entries.lookup "shapes" with
    | none => simp [suppliedSize?, Invocation.documentValue?, present]
    | some shapes =>
      cases found : entries.lookup "sizeModifier" with
      | none => simp [suppliedSize?, Invocation.documentValue?, present, found]
      | some value =>
        cases value <;> simp [suppliedSize?, Invocation.documentValue?, present, found]
  | _ => rfl

/-- The size that can be used is read from the size that a document holds; null cannot be used. -/
theorem usableSize?_eq : document.usableSize?
    = (Invocation.documentValue? document "sizeModifier").bind Record.multiplierOf? := by
  cases document with
  | object entries =>
    cases present : entries.lookup "shapes" with
    | none => simp [usableSize?, Invocation.documentValue?, present]
    | some shapes =>
      cases found : entries.lookup "sizeModifier" with
      | none =>
        simp [usableSize?, Invocation.documentValue?, Record.multiplier?, present, found]
      | some value =>
        cases value <;>
          simp [usableSize?, Invocation.documentValue?, Record.multiplier?, present, found]
        -- Null is no number, and so no multiplier.
        rfl
  | _ => rfl

/-- A size is useless when the document holds it and nothing can be read of it. -/
theorem holdsUselessSize_iff : document.HoldsUselessSize ↔
    ∃ value, Invocation.documentValue? document "sizeModifier" = some value ∧
      Record.multiplierOf? value = none := by
  constructor
  · rintro ⟨isPanel, held, notNull, useless⟩
    refine ⟨_, ?_, useless⟩
    simp [Invocation.documentValue?, isPanel, held]
  · rintro ⟨value, found, useless⟩
    -- A value is found in a document with shapes only, and only when it is not null.
    cases document with
    | object entries =>
      cases present : entries.lookup "shapes" with
      | none => simp [Invocation.documentValue?, present] at found
      | some shapes =>
        cases held : entries.lookup "sizeModifier" with
        | none => simp [Invocation.documentValue?, present, held] at found
        | some given =>
          cases given <;> simp only [Invocation.documentValue?, present, held] at found <;>
            cases found <;> exact .intro (by rw [present]; rfl) held (by simp) useless
    | _ => simp [Invocation.documentValue?] at found

/-- A document with a useless size supplies the standard one in its place. -/
theorem HoldsUselessSize.supplied (useless : document.HoldsUselessSize) :
    document.suppliedSize? = some standardSize ∧ document.usableSize? = none := by
  -- The value is there, and nothing is read of it.
  obtain ⟨value, held, unread⟩ := holdsUselessSize_iff.mp useless
  rw [suppliedSize?_eq, usableSize?_eq, held]
  exact ⟨by simp [unread], unread⟩

/-- Without a useless size, a document supplies the size that can be used, or none. -/
theorem suppliedSize?_of_not_useless (noneUseless : ¬ document.HoldsUselessSize) :
    document.suppliedSize? = document.usableSize? := by
  rw [suppliedSize?_eq, usableSize?_eq]
  -- The standard size steps in only where a value is held and nothing is read of it.
  cases held : Invocation.documentValue? document "sizeModifier" with
  | none => rfl
  | some value =>
    cases read : Record.multiplierOf? value with
    | none => exact absurd (holdsUselessSize_iff.mpr ⟨value, held, read⟩) noneUseless
    | some size => simp [read]

/-- Every size that a document supplies can be used. -/
theorem isUsable_of_suppliedSize? {size : Float} (supplied : document.suppliedSize? = some size) :
    isUsable size = true := by
  -- Either the value in the document can be used, or the standard size takes its place.
  rw [suppliedSize?_eq] at supplied
  obtain ⟨value, _, rfl⟩ := Option.map_eq_some_iff.mp supplied
  cases read : Record.multiplierOf? value with
  | none => exact isUsable_standardSize
  | some size => exact Record.isUsable_of_multiplierOf? read

end Json

/--
A layer is passed over for the standard size when nothing but a useless size stands before the
settings, unless the settings have the standard size themselves.
-/
theorem preferred_suppliedSize?_iff {option : Option Float} {document : Json}
    {settings size : Float} (preferred : Preferred option document.suppliedSize? settings size) :
    Preferred option document.usableSize? settings size ↔
      ¬ (option = none ∧ document.HoldsUselessSize ∧ settings ≠ standardSize) := by
  by_cases useless : document.HoldsUselessSize
  · obtain ⟨supplied, unusable⟩ := useless.supplied
    rw [preferred_iff, supplied] at preferred
    rw [preferred_iff, unusable]
    cases option with
    | some given => simpa using preferred
    | none =>
      -- The size is the standard one, and should be that of the settings.
      obtain rfl : standardSize = size := preferred
      simp [useless]
  · rw [← Json.suppliedSize?_of_not_useless useless]
    simp [useless, preferred]

namespace Invocation

variable {tree : FileTree} {folder : Option String} {invocation : Invocation} {settings : Settings}
  {document : Json} {printout : Printout}

/-- The effective size of a run on a panel comes from its option, its document, or the settings. -/
theorem effectiveSize_of_panel (onPanel : invocation.subcommand ≠ .garment) {options : Options}
    {size : Float} :
    invocation.subcommand.EffectiveSize options document settings size ↔
      Preferred options.size document.suppliedSize? settings.size size := by
  -- Only the garment has a table of sizes to ask before the layers.
  cases asked : invocation.subcommand with
  | garment => exact absurd asked onPanel
  | generate => rfl
  | rows => rfl

/-- A run on a panel looks for a gauge in its document. -/
theorem suppliedGauge?_of_panel (onPanel : invocation.subcommand ≠ .garment) :
    invocation.subcommand.suppliedGauge? document = document.suppliedGauge? := by
  -- Only a garment has no gauge in its document.
  cases asked : invocation.subcommand with
  | garment => exact absurd asked onPanel
  | generate => rfl
  | rows => rfl

/-- Of the layers of a valid run on a panel, only the option can hold a size that is of no use. -/
theorem option_of_unusable (valid : settings.Valid) {option : Option Float} {size : Float}
    (preferred : Preferred option document.suppliedSize? settings.size size)
    (unusable : isUsable size = false) : option = some size := by
  -- The document supplies the standard size for one of no use, and the settings were checked.
  cases preferred with
  | ofOption given => exact given
  | ofDocument _ supplied =>
    rw [Json.isUsable_of_suppliedSize? supplied] at unusable
    cases unusable
  | ofSettings =>
    rw [valid.size] at unusable
    cases unusable

/--
A run on a panel takes the size of its option, or else the usable size of its document, or else
that of the settings, with one exception.

When no option is given and the document holds a size that cannot be used, the run takes the
standard size, even where the settings have another. A run is rejected for no size but that of its
option.
-/
theorem panelSize_precedence (tree : FileTree) (folder : Option String) (invocation : Invocation)
    (onPanel : invocation.subcommand ≠ .garment)
    (loaded : Loaded tree folder invocation settings document printout) :
    (∀ text, invocation.run tree folder = .ok text ↔
      ∃ fit, Ready tree folder invocation settings document printout fit ∧
        text = endLine (printout.text invocation.options settings fit)) ∧
    (∀ fit, Ready tree folder invocation settings document printout fit →
      (Preferred invocation.options.size document.usableSize? settings.size fit.size ↔
        ¬ (invocation.options.size = none ∧ document.HoldsUselessSize ∧
          settings.size ≠ standardSize)) ∧
      (invocation.options.size = none → document.HoldsUselessSize → fit.size = standardSize)) ∧
    (∀ size, invocation.run tree folder = .error (.fit (.size size)) ↔
      (∃ gauge, EffectiveGauge invocation.options document.suppliedGauge? settings gauge ∧
        gauge.usable = true) ∧
      invocation.options.size = some size ∧ isUsable size = false) := by
  refine ⟨?_, ?_, ?_⟩
  · -- The run has loaded what is given, and can have loaded nothing else.
    intro text
    rw [run_ready_iff]
    constructor
    · rintro ⟨found, parsed, other, fit, ready, rfl⟩
      obtain ⟨rfl, rfl, rfl⟩ := loaded.unique ready.toLoaded
      exact ⟨fit, ready, rfl⟩
    · rintro ⟨fit, ready, rfl⟩
      exact ⟨settings, document, printout, fit, ready, rfl⟩
  · intro fit ready
    -- Without an option, a useless size of the document counts as the standard one before the
    -- layers are asked.
    have preferred := (effectiveSize_of_panel onPanel).mp ready.effective.size
    refine ⟨preferred_suppliedSize?_iff preferred, ?_⟩
    intro absent useless
    rw [preferred_iff, absent, useless.supplied.1] at preferred
    exact preferred.symm
  · intro size
    -- Neither the document nor the settings have a size to reject, which leaves the option.
    have valid := Settings.valid_of_loadOrStandard loaded.configured
    rw [run_eq_fit_error_iff]
    constructor
    · rintro ⟨found, parsed, other, again, failed⟩
      obtain ⟨rfl, rfl, rfl⟩ := loaded.unique again
      obtain ⟨passed, effective, unusable⟩ := (output_eq_size_error_iff loaded).mp failed
      rw [suppliedGauge?_of_panel onPanel] at passed
      exact ⟨passed, option_of_unusable valid ((effectiveSize_of_panel onPanel).mp effective)
        unusable, unusable⟩
    · rintro ⟨passed, given, unusable⟩
      refine ⟨settings, document, printout, loaded, (output_eq_size_error_iff loaded).mpr ?_⟩
      rw [suppliedGauge?_of_panel onPanel]
      exact ⟨passed, (effectiveSize_of_panel onPanel).mpr (.ofOption given), unusable⟩

/-- Settings with a size of their own, and two swatches, of which only one tells its size. -/
def sizedDrawer : FileTree where
  files := [
    (["large.json"], "\x7b\"generation\": \x7b\"size_modifier\": 1.5\x7d\x7d"),
    (["told.json"], "\x7b\"shapes\": \x7b\"height\": 2, \"baseA\": 2, \"baseB\": 2\x7d, " ++
      "\"sizeModifier\": \" 1.25 \"\x7d"),
    (["mumbled.json"], "\x7b\"shapes\": \x7b\"height\": 2, \"baseA\": 2, \"baseB\": 2\x7d, " ++
      "\"sizeModifier\": \"wide\"\x7d")]
  folders := []

/-- The command for the rows of a swatch with these settings, and without any option. -/
def sizedRun (path : String) : Invocation :=
  ⟨.rows, path, some "large.json", ⟨none, none, none, none, false, none⟩⟩

/-- What is seen of a swatch in a file: the sizes of its document, and how it fares at a size. -/
structure Inspection where
  /-- The size that the document supplies. -/
  supplied : Option Float
  /-- The size of the document that can be used. -/
  usable : Option Float
  /-- The document leaves the gauge to the settings. -/
  ungauged : Bool
  /-- The shapes of the swatch pass at the size. -/
  passes : Bool
  /-- The table of the rows of the swatch can be told at the size. -/
  told : Bool
  deriving DecidableEq

/-- Inspects the swatch in a file at a size. -/
def swatch? (path : String) (size : Float) : Option Inspection :=
  (sizedDrawer.document? path).bind fun document =>
    (Panel.ofJson document).toOption.map fun panel =>
      let fit : Fit := ⟨Gauge.standard, size⟩
      ⟨document.suppliedSize?, document.usableSize?, document.suppliedGauge?.isNone,
        (panel.shape.toList.all fun shape => (shape.check fit).isOk),
        ((panel.atFit fit).plans?.bind (rowsText? .text)).isSome⟩

/-- The settings have a size of their own, one swatch tells its size, and the other one does not. -/
theorem sizedDrawer_inspected :
    ((Settings.loadOrStandard sizedDrawer (some "") (some "large.json")).toOption.map
      fun settings => (settings.size, settings.gauge.stitches, settings.gauge.rows,
        settings.format)) = some (1.5, 19.0, 30.0, .text) ∧
    swatch? "told.json" 1.25 = some ⟨some 1.25, some 1.25, true, true, true⟩ ∧
    swatch? "mumbled.json" standardSize = some ⟨some standardSize, none, true, true, true⟩ := by
  -- With the ways to the three files known, all of them are read in one evaluation.
  simp (disch := decide) only [Settings.loadOrStandard, TextLayer.loadOrStandard,
    TextLayer.load, swatch?,
    FileTree.document?, FileTree.read, FileTree.resolve_eq_walk]
  decide +kernel

/-- A swatch that passes at the size that it supplies is ready to be printed at that size. -/
theorem sizedRun_ready {path : String} {size : Float} {usable : Option Float}
    (inspected : swatch? path size = some ⟨some size, usable, true, true, true⟩) :
    ∃ settings document printout,
      Ready sizedDrawer (some "") (sizedRun path) settings document printout ⟨Gauge.standard, size⟩ ∧
        settings.size = 1.5 ∧ document.suppliedSize? = some size ∧
        document.usableSize? = usable := by
  obtain ⟨settings, configured, same⟩ := Option.map_eq_some_iff.mp sizedDrawer_inspected.1
  simp only [Prod.mk.injEq] at same
  obtain ⟨ownSize, stitches, rows, format⟩ := same
  obtain ⟨document, found, inspected⟩ := Option.bind_eq_some_iff.mp inspected
  obtain ⟨panel, loads, same⟩ := Option.map_eq_some_iff.mp inspected
  simp only [Inspection.mk.injEq, List.all_eq_true, Option.isNone_iff_eq_none] at same
  obtain ⟨supplied, read, ungauged, checks, told⟩ := same
  have configured := toOption_eq_some_iff.mp configured
  refine ⟨settings, document, .rows panel, ⟨⟨configured, FileTree.holds_of_document? found,
    .rows (toOption_eq_some_iff.mp loads)⟩, Settings.valid_of_loadOrStandard configured, ⟨?_, ?_⟩,
    Settings.valid_standard.gauge, Json.isUsable_of_suppliedSize? supplied, ?_, ?_⟩, ownSize,
    supplied, read⟩
  · -- Neither an option nor the document has a gauge, so that of the settings stands.
    refine effectiveGauge_iff.mpr ?_
    simp [sizedRun, Subcommand.suppliedGauge?, ungauged, stitches, rows, Gauge.standard]
  · exact preferred_iff.mpr (by simp [sizedRun, supplied])
  · intro shape member
    exact Shape.check_eq_ok_iff.mp (isOk_iff.mp (checks shape member))
  · -- The settings ask for the table, and no option for anything else.
    rw [Printout.text?, format]
    exact told

/-- The swatch that tells its size is printed at it, though the settings have another one. -/
theorem told_size_preferred :
    ∃ settings document printout fit,
      Ready sizedDrawer (some "") (sizedRun "told.json") settings document printout fit ∧
        settings.size = 1.5 ∧ fit.size = 1.25 ∧
        Preferred none document.usableSize? settings.size fit.size := by
  obtain ⟨settings, document, printout, ready, ownSize, supplied, read⟩ :=
    sizedRun_ready sizedDrawer_inspected.2.1
  refine ⟨settings, document, printout, _, ready, ownSize, rfl, ?_⟩
  refine ((panelSize_precedence sizedDrawer (some "") (sizedRun "told.json") (by decide)
    ready.toLoaded).2.1 _ ready).1.mpr ?_
  -- The size that is told can be used.
  rintro ⟨_, useless, _⟩
  rw [useless.supplied.2] at read
  cases read

/-- The swatch with a useless size is printed at the standard one, not at that of the settings. -/
theorem mumbled_size_not_preferred :
    ∃ settings document printout fit,
      Ready sizedDrawer (some "") (sizedRun "mumbled.json") settings document printout fit ∧
        settings.size = 1.5 ∧ document.usableSize? = none ∧ fit.size = standardSize ∧
        ¬ Preferred none document.usableSize? settings.size fit.size := by
  obtain ⟨settings, document, printout, ready, ownSize, supplied, read⟩ :=
    sizedRun_ready sizedDrawer_inspected.2.2
  refine ⟨settings, document, printout, _, ready, ownSize, read, rfl, ?_⟩
  -- With no usable size in the document, the size would be that of the settings.
  rw [read, preferred_iff, ownSize]
  decide

end Invocation

end FlatKnit
