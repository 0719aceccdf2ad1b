import FlatKnit.Proofs.CommandLine.Checks

/-! Precedence: the layers that a run takes its fit from, and how it ends when it cannot use it. -/

namespace FlatKnit

namespace Invocation

variable {tree : FileTree} {folder : Option String} {invocation : Invocation} {options : Options}
  {settings : Settings}

/-- The layers always lead to one gauge, which may be of no use. -/
theorem existsUnique_effectiveGauge (options : Options) (document : Option Gauge)
    (settings : Settings) : ∃! merged, EffectiveGauge options document settings merged := by
  -- The merged gauge is given by an equation, and so there is one and no other.
  simp only [effectiveGauge_iff]
  exact ⟨_, rfl, fun _ same => same.symm⟩

/-- The layers lead to a size, unless a label is asked for that the table does not hold. -/
theorem existsUnique_garmentSize_iff {sizes : List (String × Json)} :
    (∃! size, GarmentSize options sizes settings size) ↔
      ¬ ∃ label, AskedLabel options settings label ∧
        Garment.multiplierAt? sizes label = none := by
  constructor
  · -- A size would have to come from the label that is missing, or from behind it.
    rintro ⟨size, effective, _⟩ ⟨label, ⟨absent, asked⟩, unlisted⟩
    cases effective <;> simp_all
  · intro noneUnlisted
    rcases exists_garmentSize options sizes settings with ⟨size, effective⟩ | unlisted
    · exact ⟨size, effective, fun other another => another.unique effective⟩
    · exact absurd unlisted noneUnlisted

section Loaded

variable {document : Json} {printout : Printout}
  (loaded : Loaded tree folder invocation settings document printout)
include loaded

/-- A loaded run is rejected for its gauge exactly when the merged gauge cannot be used. -/
theorem output_eq_gauge_error_iff {merged : Gauge} :
    invocation.output tree settings = .error (.fit (.gauge merged)) ↔
      EffectiveGauge invocation.options (invocation.subcommand.suppliedGauge? document) settings
          merged ∧ merged.usable = false := by
  rw [output_eq_fit_error_iff loaded.held loaded.loads, gauge_eq_error_iff,
    Printout.size_eq_error_iff loaded.held.wellFormed loaded.loads]
  constructor
  · rintro (⟨_, effective, unusable, same⟩ | ⟨_, ⟨_, _, _, same⟩ | ⟨_, _, _, _, _, same⟩⟩)
    · cases same
      exact ⟨effective, unusable⟩
    -- The errors of a size are no errors of a gauge.
    · cases same
    · cases same
  · rintro ⟨effective, unusable⟩
    exact .inl ⟨merged, effective, unusable, rfl⟩

/-- A loaded run whose gauge can be used is rejected for a size exactly when that cannot. -/
theorem output_eq_size_error_iff {size : Float} :
    invocation.output tree settings = .error (.fit (.size size)) ↔
      (∃ gauge, EffectiveGauge invocation.options
        (invocation.subcommand.suppliedGauge? document) settings gauge ∧ gauge.usable = true) ∧
      invocation.subcommand.EffectiveSize invocation.options document settings size ∧
      isUsable size = false := by
  simp only [output_eq_fit_error_iff loaded.held loaded.loads, gauge_eq_error_iff,
    gauge_eq_ok_iff, Printout.size_eq_error_iff loaded.held.wellFormed loaded.loads]
  constructor
  · -- Of the three ways to fail, only one names a size.
    rintro (⟨_, _, _, same⟩ | ⟨passed, ⟨_, effective, unusable, same⟩ | ⟨_, _, _, _, _, same⟩⟩)
    · cases same
    · cases same
      exact ⟨passed, effective, unusable⟩
    · cases same
  · rintro ⟨passed, effective, unusable⟩
    exact .inr ⟨passed, .inl ⟨size, effective, unusable, rfl⟩⟩

/-- A loaded run whose gauge can be used is rejected for a label that its table does not hold. -/
theorem output_eq_unknownSize_iff {label : String} {available : List String} :
    invocation.output tree settings
        = .error (.fit (.garment (.unknownSize label available))) ↔
      (∃ gauge, EffectiveGauge invocation.options
        (invocation.subcommand.suppliedGauge? document) settings gauge ∧ gauge.usable = true) ∧
      AskedLabel invocation.options settings label ∧
      Garment.multiplierAt? document.sizeTable label = none ∧
      ∃ garment, printout = .pattern garment ∧ available = garment.sizes.map Prod.fst := by
  simp only [output_eq_fit_error_iff loaded.held loaded.loads, gauge_eq_error_iff,
    gauge_eq_ok_iff, Printout.size_eq_error_iff loaded.held.wellFormed loaded.loads]
  constructor
  · -- Of the three ways to fail, only one names a label.
    rintro (⟨_, _, _, same⟩ | ⟨passed, ⟨_, _, _, same⟩ | ⟨garment, _, told, asked, unlisted, same⟩⟩)
    · cases same
    · cases same
    · cases same
      exact ⟨passed, asked, unlisted, garment, told, rfl⟩
  · rintro ⟨passed, asked, unlisted, garment, told, rfl⟩
    exact .inr ⟨passed, .inr ⟨garment, label, told, asked, unlisted, rfl⟩⟩

end Loaded

/--
Every number of the fit comes from the first layer that has it, and the run stands by it.

Each density is that of its option, or else of the gauge that the document supplies, or else of
the settings. The size of a garment is that of its option, or else of the label that is asked for,
or else the first that can be used, or else that of the settings. A run prints at that fit; it is
rejected for its gauge exactly when the merged gauge cannot be used, and for a label exactly when
that is asked for and not in the table.
-/
theorem fit_precedence (tree : FileTree) (folder : Option String) (invocation : Invocation) :
    (∀ text, invocation.run tree folder = .ok text ↔ ∃ settings document printout fit,
      Ready tree folder invocation settings document printout fit ∧
      text = endLine (printout.text invocation.options settings fit)) ∧
    (∀ document settings, ∃! merged, EffectiveGauge invocation.options
      (invocation.subcommand.suppliedGauge? document) settings merged) ∧
    (∀ merged, invocation.run tree folder = .error (.fit (.gauge merged)) ↔
      ∃ settings document printout, Loaded tree folder invocation settings document printout ∧
        EffectiveGauge invocation.options (invocation.subcommand.suppliedGauge? document) settings
          merged ∧ merged.usable = false) ∧
    (∀ sizes settings, (∃! size, GarmentSize invocation.options sizes settings size) ↔
      ¬ ∃ label, AskedLabel invocation.options settings label ∧
        Garment.multiplierAt? sizes label = none) ∧
    (∀ size, invocation.run tree folder = .error (.fit (.size size)) ↔
      ∃ settings document printout, Loaded tree folder invocation settings document printout ∧
        (∃ gauge, EffectiveGauge invocation.options
          (invocation.subcommand.suppliedGauge? document) settings gauge ∧ gauge.usable = true) ∧
        invocation.subcommand.EffectiveSize invocation.options document settings size ∧
        isUsable size = false) ∧
    (∀ label available,
      invocation.run tree folder
          = .error (.fit (.garment (.unknownSize label available))) ↔
        ∃ settings document garment,
          Loaded tree folder invocation settings document (.pattern garment) ∧
          (∃ gauge, EffectiveGauge invocation.options
            (invocation.subcommand.suppliedGauge? document) settings gauge ∧
              gauge.usable = true) ∧
          AskedLabel invocation.options settings label ∧
          Garment.multiplierAt? document.sizeTable label = none ∧
          available = garment.sizes.map Prod.fst) := by
  refine ⟨fun text => run_ready_iff, ?_, ?_, ?_, ?_, ?_⟩
  · -- Whichever source comes first for a density, there is one of it.
    intro document settings
    exact existsUnique_effectiveGauge invocation.options _ settings
  · -- A fit fails only in a run that has loaded all it reads.
    intro merged
    rw [run_eq_fit_error_iff]
    refine exists₃_congr ?_
    intro settings document printout
    exact and_congr_right fun loaded => output_eq_gauge_error_iff loaded
  · intro sizes settings
    exact existsUnique_garmentSize_iff
  · intro size
    rw [run_eq_fit_error_iff]
    refine exists₃_congr ?_
    intro settings document printout
    exact and_congr_right fun loaded => output_eq_size_error_iff loaded
  · -- Only a garment has a table to look a label up in.
    intro label available
    rw [run_eq_fit_error_iff]
    constructor
    · rintro ⟨settings, document, printout, loaded, failed⟩
      obtain ⟨passed, asked, unlisted, garment, rfl, rfl⟩ :=
        (output_eq_unknownSize_iff loaded).mp failed
      exact ⟨settings, document, garment, loaded, passed, asked, unlisted, rfl⟩
    · rintro ⟨settings, document, garment, loaded, passed, asked, unlisted, rfl⟩
      exact ⟨settings, document, .pattern garment, loaded, (output_eq_unknownSize_iff loaded).mpr
        ⟨passed, asked, unlisted, garment, rfl, rfl⟩⟩

/-- A swatch without a count of its stitches, and a coat in one size. -/
def drawer : FileTree where
  files := [
    (["swatch.json"], "\x7b\"shapes\": \x7b\"height\": 2, \"baseA\": 2, \"baseB\": 2\x7d, " ++
      "\"gauge\": \x7b\"stitches\": 0, \"rows\": 30\x7d\x7d"),
    (["coat.json"], "\x7b\"shapes\": \x7b\"front\": \x7b\"height\": 2\x7d\x7d, " ++
      "\"sizes\": \x7b\"M\": 1\x7d\x7d")]
  folders := []

/-- The command for the lines of the swatch, with or without a count of its stitches. -/
def swatchRun (stitches : Option Float) : Invocation :=
  ⟨.generate, "swatch.json", none, ⟨stitches, none, none, none, false, none⟩⟩

/-- The command for the coat in a size that it does not come in. -/
def largeRun : Invocation :=
  ⟨.garment, "coat.json", none, ⟨none, none, none, none, false, some "XL"⟩⟩

/-- There is no settings file for the runs to read. -/
theorem drawer_settings : Settings.loadOrStandard drawer (some "") none = .ok Settings.standard :=
  Settings.loadOrStandard_of_lost rfl

/--
Of the gauge of the swatch only the rows can be used. With twenty stitches it passes, and its lines
can be told.
-/
theorem drawer_swatch :
    ((drawer.document? "swatch.json").bind fun document =>
      (Panel.ofJson document).toOption.bind fun panel =>
        document.suppliedGauge?.map fun gauge =>
          let fit : Fit := ⟨⟨20.0, gauge.rows⟩, Settings.standard.size⟩
          (isUsable gauge.stitches, isUsable gauge.rows, document.suppliedSize?.isNone,
            (panel.shape.toList.all fun shape => (shape.check fit).isOk),
            ((panel.atFit fit).instructions?.bind (instructionsText? .plain)).isSome))
      = some (false, true, true, true, true) := by
  rw [FileTree.document?, FileTree.read, FileTree.resolve_eq_walk drawer (by decide)]
  decide +kernel

/-- The coat has a size that can be used, but it is not the one that is asked for. -/
theorem drawer_coat :
    ((drawer.document? "coat.json").bind fun document =>
      (Garment.ofJson document).toOption.map fun garment =>
        (garment.sizes.map Prod.fst, (Garment.multiplierAt? document.sizeTable "XL").isNone))
      = some (["M"], true) := by
  rw [FileTree.document?, FileTree.read, FileTree.resolve_eq_walk drawer (by decide)]
  decide +kernel

/-- An option repairs the gauge of the swatch; nothing stands in for a size that is not there. -/
theorem drawer_precedence :
    (∃ merged, (swatchRun none).run drawer (some "") = .error (.fit (.gauge merged))) ∧
    (∃ text, (swatchRun (some 20.0)).run drawer (some "") = .ok text) ∧
    largeRun.run drawer (some "") = .error (.fit (.garment (.unknownSize "XL" ["M"]))) := by
  obtain ⟨document, found, inspected⟩ := Option.bind_eq_some_iff.mp drawer_swatch
  obtain ⟨panel, loads, inspected⟩ := Option.bind_eq_some_iff.mp inspected
  obtain ⟨gauge, supplied, same⟩ := Option.map_eq_some_iff.mp inspected
  simp only [Prod.mk.injEq, List.all_eq_true, Option.isNone_iff_eq_none] at same
  obtain ⟨stitches, rows, unsized, checks, told⟩ := same
  have loaded : ∀ count, Loaded drawer (some "") (swatchRun count) Settings.standard document
      (.instructions panel) := fun count =>
    ⟨drawer_settings, FileTree.holds_of_document? found, .generate (toOption_eq_some_iff.mp loads)⟩
  refine ⟨⟨gauge, ?_⟩, ?_, ?_⟩
  · -- Without an option the stitches of the document stand, which are none.
    refine ((fit_precedence drawer (some "") (swatchRun none)).2.2.1 gauge).mpr
      ⟨_, _, _, loaded none, ?_, ?_⟩
    · exact effectiveGauge_iff.mpr (by simp [swatchRun, Subcommand.suppliedGauge?, supplied])
    · rw [Gauge.usable, stitches]
      rfl
  · -- With the option, the rows of the document and the twenty stitches make a gauge.
    refine ⟨_, ((fit_precedence drawer (some "") (swatchRun (some 20.0))).1 _).mpr
      ⟨_, _, _, ⟨⟨20.0, gauge.rows⟩, Settings.standard.size⟩, ⟨loaded _, Settings.valid_standard,
        ⟨?_, ?_⟩, ?_, ?_, ?_, told⟩, rfl⟩⟩
    · exact effectiveGauge_iff.mpr (by simp [swatchRun, Subcommand.suppliedGauge?, supplied])
    · exact preferred_iff.mpr (by simp [swatchRun, unsized])
    · have counted : isUsable 20.0 = true := by decide
      rw [Gauge.usable, rows, counted]
      rfl
    · exact Settings.valid_standard.size
    · intro shape member
      exact Shape.check_eq_ok_iff.mp (isOk_iff.mp (checks shape member))
  · -- The one size of the coat does not step in for the one that is asked for.
    obtain ⟨document, found, inspected⟩ := Option.bind_eq_some_iff.mp drawer_coat
    obtain ⟨garment, loads, same⟩ := Option.map_eq_some_iff.mp inspected
    simp only [Prod.mk.injEq, Option.isNone_iff_eq_none] at same
    exact ((fit_precedence drawer (some "") largeRun).2.2.2.2.2 "XL" ["M"]).mpr
      ⟨Settings.standard, document, garment, ⟨drawer_settings, FileTree.holds_of_document? found,
        .garment (toOption_eq_some_iff.mp loads)⟩, ⟨Gauge.standard, effectiveGauge_iff.mpr rfl,
        by decide⟩, ⟨rfl, .inl rfl⟩, same.2, same.1.symm⟩

end Invocation

end FlatKnit
