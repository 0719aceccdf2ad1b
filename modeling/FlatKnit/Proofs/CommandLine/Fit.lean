import FlatKnit.CommandLine.Run
import FlatKnit.Proofs.Chain
import FlatKnit.Proofs.Garment.Sizes
import FlatKnit.Proofs.Panel.Document

/-! The fit of a run: each of its numbers comes from the first layer that has one. -/

namespace FlatKnit

/-- A value comes from an option, or else from the document, or else from the settings. -/
inductive Preferred {α : Type} (option document : Option α) (settings : α) : α → Prop where
  | ofOption {value : α} (given : option = some value) : Preferred option document settings value
  | ofDocument {value : α} (absent : option = none) (supplied : document = some value) :
    Preferred option document settings value
  | ofSettings (absent : option = none) (missing : document = none) :
    Preferred option document settings settings

/-- There is exactly one preferred value. -/
theorem preferred_iff {α : Type} {option document : Option α} {settings value : α} :
    Preferred option document settings value ↔ option.getD (document.getD settings) = value := by
  constructor
  · -- A layer has its say only when those before it have nothing.
    rintro (given | ⟨absent, supplied⟩ | ⟨absent, missing⟩)
    · simp [given]
    · simp [absent, supplied]
    · simp [absent, missing]
  · rintro rfl
    cases option with
    | some value => exact .ofOption rfl
    | none =>
      cases document with
      | some value => exact .ofDocument rfl rfl
      | none => exact .ofSettings rfl rfl

/-- The gauge that a document supplies: that of a panel document, unless it is missing or null. -/
def Json.suppliedGauge? : Json → Option Gauge
  | .object entries =>
    match entries.lookup "shapes", entries.lookup "gauge" with
    -- A bare shape record supplies none, whatever it holds.
    | none, _ => none
    | some _, none => none
    | some _, some .null => none
    | some _, some record => (Gauge.ofJson record).toOption
  | _ => none

/-- The size that a document supplies; one that cannot be used counts as the standard size. -/
def Json.suppliedSize? : Json → Option Float
  | .object entries =>
    match entries.lookup "shapes", entries.lookup "sizeModifier" with
    | none, _ => none
    | some _, none => none
    | some _, some .null => none
    | some _, some value => some ((Record.multiplierOf? value).getD standardSize)
  | _ => none

/-- Each density of a gauge comes from the first layer that has one, whatever the other does. -/
structure EffectiveGauge (options : Options) (document : Option Gauge) (settings : Settings)
    (gauge : Gauge) : Prop where
  stitches : Preferred options.stitches (document.map Gauge.stitches) settings.gauge.stitches
    gauge.stitches
  rows : Preferred options.rows (document.map Gauge.rows) settings.gauge.rows gauge.rows

/--
The size of a garment, with the size table of its document.

A label that is asked for has to be in the table; there is no other size in its place.
-/
inductive GarmentSize (options : Options) (sizes : List (String × Json)) (settings : Settings) :
    Float → Prop where
  | ofOption {size : Float} (given : options.size = some size) :
    GarmentSize options sizes settings size
  | ofLabel {label : String} {size : Float} (absent : options.size = none)
    (asked : options.sizeLabel = some label)
    (listed : Garment.multiplierAt? sizes label = some size) :
    GarmentSize options sizes settings size
  | ofSettingsLabel {label : String} {size : Float} (absent : options.size = none)
    (unlabelled : options.sizeLabel = none) (configured : settings.sizeLabel = some label)
    (listed : Garment.multiplierAt? sizes label = some size) :
    GarmentSize options sizes settings size
  | ofTable {size : Float} (absent : options.size = none)
    (unlabelled : options.sizeLabel = none) (unconfigured : settings.sizeLabel = none)
    (first : Garment.firstMultiplier? sizes = some size) :
    GarmentSize options sizes settings size
  | ofSettings (absent : options.size = none)
    (unlabelled : options.sizeLabel = none) (unconfigured : settings.sizeLabel = none)
    (empty : Garment.firstMultiplier? sizes = none) :
    GarmentSize options sizes settings settings.size

/-- A garment has one size at most, for each layer is asked only when those before it are silent. -/
theorem GarmentSize.unique {options : Options} {sizes : List (String × Json)}
    {settings : Settings} {one other : Float} (first : GarmentSize options sizes settings one)
    (second : GarmentSize options sizes settings other) : one = other := by
  cases first <;> cases second <;> simp_all

/-- The label that is asked for when no size is given: by the options, or else by the settings. -/
structure AskedLabel (options : Options) (settings : Settings) (label : String) : Prop where
  absent : options.size = none
  asked : options.sizeLabel = some label ∨
    options.sizeLabel = none ∧ settings.sizeLabel = some label

/-- A multiplier fails its check when it cannot be used. -/
theorem checkedSize_eq_error_iff {size : Float} {error : KnitError} :
    checkedSize size = .error error ↔ isUsable size = false ∧ .size size = error := by
  rw [checkedSize, guard_eq_error_iff, Bool.not_eq_true]

/-- A multiplier passes its check when it can be used. -/
theorem checkedSize_eq_ok_iff {size checked : Float} :
    checkedSize size = .ok checked ↔ isUsable checked = true ∧ size = checked := by
  rw [checkedSize, guard_eq_ok_iff]
  constructor
  · rintro ⟨usable, rfl⟩
    exact ⟨usable, rfl⟩
  · rintro ⟨usable, rfl⟩
    exact ⟨usable, rfl⟩

namespace Invocation

variable {options : Options} {settings : Settings}

/-- Both densities of the merged gauge are the preferred ones. -/
theorem effectiveGauge_iff {document : Option Gauge} {merged : Gauge} :
    EffectiveGauge options document settings merged ↔
      (⟨options.stitches.getD (document.getD settings.gauge).stitches,
        options.rows.getD (document.getD settings.gauge).rows⟩ : Gauge) = merged := by
  obtain ⟨stitches, rows⟩ := merged
  rw [Gauge.mk.injEq]
  constructor
  · -- With or without a gauge of the document, both sides fall back to the same density.
    rintro ⟨stitches, rows⟩
    rw [preferred_iff] at stitches rows
    cases document <;> exact ⟨stitches, rows⟩
  · rintro ⟨stitches, rows⟩
    refine ⟨preferred_iff.mpr ?_, preferred_iff.mpr ?_⟩
    · cases document <;> exact stitches
    · cases document <;> exact rows

/-- The gauge of a run is the merged one, if it can be used. -/
theorem gauge_eq_ok_iff {document : Option Gauge} {chosen : Gauge} :
    gauge options document settings = .ok chosen ↔
      EffectiveGauge options document settings chosen ∧ chosen.usable = true := by
  -- The check hands on the merged gauge as it is, or not at all.
  rw [gauge, mapError_eq_ok_iff, Gauge.checked, guard_eq_ok_iff, effectiveGauge_iff]
  constructor
  · rintro ⟨usable, rfl⟩
    exact ⟨rfl, usable⟩
  · rintro ⟨rfl, usable⟩
    exact ⟨usable, rfl⟩

/-- The gauge check rejects a run when the merged gauge cannot be used. -/
theorem gauge_eq_error_iff {document : Option Gauge} {error : RunError} :
    gauge options document settings = .error error ↔
      ∃ merged, EffectiveGauge options document settings merged ∧ merged.usable = false ∧
        error = .fit (.gauge merged) := by
  rw [gauge, mapError_eq_error_iff, Gauge.checked]
  simp only [guard_eq_error_iff, effectiveGauge_iff, Bool.not_eq_true]
  -- The merged gauge is unique, so that the one in the error is the one that was checked.
  constructor
  · rintro ⟨_, ⟨unusable, rfl⟩, rfl⟩
    exact ⟨_, rfl, unusable, rfl⟩
  · rintro ⟨_, rfl, unusable, rfl⟩
    exact ⟨_, ⟨unusable, rfl⟩, rfl⟩

/-- The gauge that a run takes from the document of its panel is the one that it supplies. -/
theorem suppliedGauge?_of_ofJson {document : Json} {panel : Panel}
    (loaded : Panel.ofJson document = .ok panel) :
    (documentValue? document "gauge").map (fun _ => panel.fit.gauge)
      = document.suppliedGauge? := by
  cases document with
  | object entries =>
    cases present : entries.lookup "shapes" with
    | none => simp [documentValue?, Json.suppliedGauge?, present]
    | some shapes =>
      rw [Panel.ofJson_document present] at loaded
      cases found : entries.lookup "gauge" with
      | none => simp [documentValue?, Json.suppliedGauge?, present, found]
      | some record =>
        -- The panel has the gauge that the record reads as, unless the record is null.
        cases record with
        | null => simp [documentValue?, Json.suppliedGauge?, present, found]
        | _ =>
          rw [found, Panel.gaugeOf_some (by simp)] at loaded
          obtain ⟨gauge, read, rfl⟩ := map_eq_ok_iff.mp loaded
          simp [documentValue?, Json.suppliedGauge?, present, found, read, Except.toOption]
  | _ => rfl

/-- The size that a run takes from the document of its panel is the one that it supplies. -/
theorem suppliedSize?_of_ofJson {document : Json} {panel : Panel}
    (loaded : Panel.ofJson document = .ok panel) :
    (documentValue? document "sizeModifier").map (fun _ => panel.fit.size)
      = document.suppliedSize? := by
  cases document with
  | object entries =>
    cases present : entries.lookup "shapes" with
    | none => simp [documentValue?, Json.suppliedSize?, present]
    | some shapes =>
      rw [Panel.ofJson_document present] at loaded
      obtain ⟨gauge, _, rfl⟩ := map_eq_ok_iff.mp loaded
      cases found : entries.lookup "sizeModifier" with
      | none => simp [documentValue?, Json.suppliedSize?, present, found]
      | some value =>
        -- What the loader puts in place of a size that cannot be used counts as supplied.
        cases value <;>
          simp [documentValue?, Json.suppliedSize?, present, found, Record.multiplier?]
  | _ => rfl

/-- The size of a run on a panel is the preferred one, if it can be used. -/
theorem panelSize_eq_ok_iff {document : Option Float} {chosen : Float} :
    panelSize options document settings = .ok chosen ↔
      Preferred options.size document settings.size chosen ∧ isUsable chosen = true := by
  rw [panelSize, mapError_eq_ok_iff, checkedSize_eq_ok_iff, preferred_iff, and_comm]

/-- The size check rejects a run on a panel when the preferred size cannot be used. -/
theorem panelSize_eq_error_iff {document : Option Float} {error : RunError} :
    panelSize options document settings = .error error ↔
      ∃ size, Preferred options.size document settings.size size ∧ isUsable size = false ∧
        error = .fit (.size size) := by
  rw [panelSize, mapError_eq_error_iff]
  simp only [checkedSize_eq_error_iff, preferred_iff]
  -- The preferred size is unique, and it is the one in the error.
  constructor
  · rintro ⟨_, ⟨unusable, rfl⟩, rfl⟩
    exact ⟨_, rfl, unusable, rfl⟩
  · rintro ⟨_, rfl, unusable, rfl⟩
    exact ⟨_, ⟨unusable, rfl⟩, rfl⟩

section Garments

variable {document : Json} {garment : Garment}

/-- The size of a run on a garment is only checked once it is found. -/
theorem garmentSize_eq (wellFormed : document.WellFormed)
    (loaded : Garment.ofJson document = .ok garment) {size : Float}
    (effective : GarmentSize options document.sizeTable settings size) :
    garmentSize options garment settings = (checkedSize size).mapError .fit := by
  -- Whichever layer has the size, the search ends there and only the check is left.
  rcases effective with given | ⟨absent, asked, listed⟩ |
    ⟨absent, unlabelled, configured, listed⟩ | ⟨absent, unlabelled, unconfigured, first⟩ |
    ⟨absent, unlabelled, unconfigured, empty⟩
  · simp only [garmentSize, given]
    rfl
  · simp only [garmentSize, absent, asked, Option.some_or, Garment.size_eq wellFormed loaded,
      listed]
    rfl
  · simp only [garmentSize, absent, unlabelled, configured, Option.none_or,
      Garment.size_eq wellFormed loaded, listed]
    rfl
  · simp only [garmentSize, absent, unlabelled, unconfigured, Option.none_or,
      Garment.head?_sizes loaded, first]
    rfl
  · simp only [garmentSize, absent, unlabelled, unconfigured, Option.none_or,
      Garment.head?_sizes loaded, empty]
    rfl

/-- A label that is asked for and not in the table ends the search. -/
theorem garmentSize_of_unlisted (wellFormed : document.WellFormed)
    (loaded : Garment.ofJson document = .ok garment) {label : String}
    (asked : AskedLabel options settings label)
    (unlisted : Garment.multiplierAt? document.sizeTable label = none) :
    garmentSize options garment settings
      = .error (.fit (.garment (.unknownSize label (garment.sizes.map Prod.fst)))) := by
  -- The search is made for one label, that of the options before that of the settings.
  have chosen : options.sizeLabel.or settings.sizeLabel = some label := by
    rcases asked.asked with given | ⟨unlabelled, configured⟩
    · rw [given, Option.some_or]
    · rw [unlabelled, configured, Option.none_or]
  simp only [garmentSize, asked.absent, chosen, Garment.size_eq wellFormed loaded, unlisted]
  rfl

/-- Either there is a size, or a label is asked for that is not in the table. -/
theorem exists_garmentSize (options : Options) (sizes : List (String × Json))
    (settings : Settings) : (∃ size, GarmentSize options sizes settings size) ∨
      ∃ label, AskedLabel options settings label ∧ Garment.multiplierAt? sizes label = none := by
  cases absent : options.size with
  | some size => exact .inl ⟨size, .ofOption absent⟩
  | none =>
    cases given : options.sizeLabel with
    | some label =>
      cases listed : Garment.multiplierAt? sizes label with
      | some size => exact .inl ⟨size, .ofLabel absent given listed⟩
      | none => exact .inr ⟨label, ⟨absent, .inl given⟩, listed⟩
    | none =>
      cases configured : settings.sizeLabel with
      | some label =>
        cases listed : Garment.multiplierAt? sizes label with
        | some size => exact .inl ⟨size, .ofSettingsLabel absent given configured listed⟩
        | none => exact .inr ⟨label, ⟨absent, .inr ⟨given, configured⟩⟩, listed⟩
      | none =>
        -- Nobody asks for a label, so the table or the settings have a size.
        cases first : Garment.firstMultiplier? sizes with
        | some size => exact .inl ⟨size, .ofTable absent given configured first⟩
        | none => exact .inl ⟨settings.size, .ofSettings absent given configured first⟩

/-- The size of a run on a garment is the one of its layers, if it can be used. -/
theorem garmentSize_eq_ok_iff (wellFormed : document.WellFormed)
    (loaded : Garment.ofJson document = .ok garment) {chosen : Float} :
    garmentSize options garment settings = .ok chosen ↔
      GarmentSize options document.sizeTable settings chosen ∧ isUsable chosen = true := by
  constructor
  · -- A size was found, so no label was asked for in vain, and the check let the size pass.
    intro given
    rcases exists_garmentSize options document.sizeTable settings with
      ⟨size, effective⟩ | ⟨label, asked, unlisted⟩
    · rw [garmentSize_eq wellFormed loaded effective, mapError_eq_ok_iff,
        checkedSize_eq_ok_iff] at given
      obtain ⟨usable, rfl⟩ := given
      exact ⟨effective, usable⟩
    · rw [garmentSize_of_unlisted wellFormed loaded asked unlisted] at given
      cases given
  · rintro ⟨effective, usable⟩
    rw [garmentSize_eq wellFormed loaded effective, mapError_eq_ok_iff, checkedSize_eq_ok_iff]
    exact ⟨usable, rfl⟩

/--
The search for the size of a garment fails at a size that cannot be used, or at a label.

A label fails when it is asked for and not in the table, whatever else the table holds.
-/
theorem garmentSize_eq_error_iff (wellFormed : document.WellFormed)
    (loaded : Garment.ofJson document = .ok garment) {error : RunError} :
    garmentSize options garment settings = .error error ↔
      (∃ size, GarmentSize options document.sizeTable settings size ∧ isUsable size = false ∧
        error = .fit (.size size)) ∨
      ∃ label, AskedLabel options settings label ∧
        Garment.multiplierAt? document.sizeTable label = none ∧
        error = .fit (.garment (.unknownSize label (garment.sizes.map Prod.fst))) := by
  constructor
  · intro failed
    rcases exists_garmentSize options document.sizeTable settings with
      ⟨size, effective⟩ | ⟨label, asked, unlisted⟩
    · -- A size that is found can only fail its check.
      rw [garmentSize_eq wellFormed loaded effective, mapError_eq_error_iff] at failed
      obtain ⟨_, checked, rfl⟩ := failed
      obtain ⟨unusable, rfl⟩ := checkedSize_eq_error_iff.mp checked
      exact .inl ⟨size, effective, unusable, rfl⟩
    · rw [garmentSize_of_unlisted wellFormed loaded asked unlisted] at failed
      exact .inr ⟨label, asked, unlisted, (Except.error.inj failed).symm⟩
  · rintro (⟨size, effective, unusable, rfl⟩ | ⟨label, asked, unlisted, rfl⟩)
    · rw [garmentSize_eq wellFormed loaded effective, mapError_eq_error_iff]
      exact ⟨_, checkedSize_eq_error_iff.mpr ⟨unusable, rfl⟩, rfl⟩
    · exact garmentSize_of_unlisted wellFormed loaded asked unlisted

end Garments

end Invocation

end FlatKnit
