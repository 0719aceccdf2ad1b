import FlatKnit.Proofs.Chain
import FlatKnit.Proofs.Json.WellFormed
import FlatKnit.Proofs.Panel.Document
import FlatKnit.Proofs.Shape.Record

/-! Reloading: the document of a panel loads as the panel, but for numbers that no text can hold. -/

namespace FlatKnit

/-- What is not finite cannot be used. -/
theorem isUsable_of_not_isFinite {value : Float} (infinite : ¬ value.isFinite = true) :
    isUsable value = false := by
  simp [isUsable, Bool.eq_false_of_not_eq_true infinite]

/-- A multiplier that was written reads back when it can be used. -/
theorem Record.multiplier?_of_lookup {entries : List (String × Json)} {key : String}
    (value : Float) (found : entries.lookup key = some (.ofFloat value)) :
    multiplier? entries key = if isUsable value then some value else none := by
  rw [multiplier?, found, Option.bind_some, multiplierOf?]
  by_cases finite : value.isFinite = true
  · rw [Json.ofFloat, if_pos finite]
    exact Option.filter_some
  · -- Null is no number, and neither was there one that could be used.
    rw [Json.ofFloat, if_neg finite, isUsable_of_not_isFinite finite]
    rfl

namespace Gauge

/-- Both densities are finite. -/
structure FiniteDensities (gauge : Gauge) : Prop where
  stitches : gauge.stitches.isFinite = true
  rows : gauge.rows.isFinite = true

/-- A density that was written reads back, and null is none. -/
theorem readDensity_ofFloat (value : Float) : readDensity (.ofFloat value)
    = if value.isFinite then .ok value else .error (.notNumber .null) := by
  -- A number that is not finite is written as null.
  by_cases finite : value.isFinite = true
  · simp [readDensity, Json.ofFloat, Json.number?, finite]
  · simp [readDensity, Json.ofFloat, Json.number?, finite]

/-- A gauge that was written is read density by density. -/
theorem ofJson_toJson (gauge : Gauge) : ofJson gauge.toJson = (do
    let stitches ← readDensity (.ofFloat gauge.stitches)
    let rows ← readDensity (.ofFloat gauge.rows)
    return ⟨stitches, rows⟩) := by
  -- Each of the two keys names its density, and neither comes twice.
  rfl

/-- A gauge with finite densities reads back as it was. -/
theorem ofJson_toJson_of_finite {gauge : Gauge} (finite : gauge.FiniteDensities) :
    ofJson gauge.toJson = .ok gauge := by
  rw [ofJson_toJson, readDensity_ofFloat, readDensity_ofFloat, if_pos finite.stitches,
    if_pos finite.rows]
  rfl

/-- A gauge with a density that is not finite does not read back. -/
theorem ofJson_toJson_of_not_finite {gauge : Gauge} (infinite : ¬ gauge.FiniteDensities) :
    ofJson gauge.toJson = .error (.notNumber .null) := by
  rw [ofJson_toJson, readDensity_ofFloat, readDensity_ofFloat]
  -- The first density that is not finite was written as null, which is no number.
  by_cases stitches : gauge.stitches.isFinite = true
  · have rows : ¬ gauge.rows.isFinite = true := fun rows => infinite ⟨stitches, rows⟩
    rw [if_pos stitches, if_neg rows]
    rfl
  · rw [if_neg stitches]
    rfl

/-- A gauge with finite densities equals itself. -/
theorem same_self {gauge : Gauge} (finite : gauge.FiniteDensities) :
    gauge.same gauge = true := by
  simp [same, beq_self_of_isFinite finite.stitches, beq_self_of_isFinite finite.rows]

end Gauge

/-- The size that loads for a size that was written: itself, or else the standard one. -/
def usableOrStandard (size : Float) : Float :=
  if isUsable size then size else standardSize

/-- A document without a size has one that can be used. -/
theorem isUsable_standardSize : isUsable standardSize = true := by
  decide +kernel

/-- Only a size that can be used loads as itself. -/
theorem usableOrStandard_eq_self_iff (size : Float) :
    usableOrStandard size = size ↔ isUsable size = true := by
  by_cases usable : isUsable size = true
  · simp [usableOrStandard, usable]
  · -- The standard size can be used, so it is not one that cannot.
    rw [usableOrStandard, if_neg usable]
    refine ⟨fun same => ?_, fun usable' => absurd usable' usable⟩
    rw [← same]
    exact isUsable_standardSize

/-- As a number, too, only a size that can be used loads as itself. -/
theorem usableOrStandard_beq_iff (size : Float) :
    (usableOrStandard size == size) = true ↔ isUsable size = true := by
  by_cases usable : isUsable size = true
  · -- Comparison with itself fails only for what is no number, and that cannot be used.
    have finite : size.isFinite = true := by
      by_contra infinite
      rw [isUsable_of_not_isFinite infinite] at usable
      cases usable
    simp [usableOrStandard, usable, beq_self_of_isFinite finite]
  · rw [usableOrStandard, if_neg usable]
    refine ⟨fun equal => ?_, fun usable' => absurd usable' usable⟩
    -- A size that equals the standard one could be used as well as that.
    rw [← isUsable_eq_of_beq equal]
    exact isUsable_standardSize

namespace Panel

/-- The panels that can be made: from a shape and a fit, by the builders, and from documents. -/
inductive Reachable : Panel → Prop where
  | plain (shape : Option Shape) (gauge : Gauge) (size : Float) : Reachable (plain shape gauge size)
  | withGauge {panel : Panel} (before : Reachable panel) (gauge : Gauge) :
    Reachable (panel.withGauge gauge)
  | withSize {panel : Panel} (before : Reachable panel) (size : Float) :
    Reachable (panel.withSize size)
  | withMotif {panel : Panel} (before : Reachable panel) (motif : Json) :
    Reachable (panel.withMotif motif)
  | ofJson {value : Json} {panel : Panel} (loaded : ofJson value = .ok panel) : Reachable panel

/-- No way to make a panel leaves null as its motif. -/
theorem Reachable.motif_ne_null {panel : Panel} (reachable : panel.Reachable) :
    panel.motif ≠ some .null := by
  -- A panel gets its motif in two ways only, and null is taken for no motif in both.
  induction reachable with
  | plain => simp [Panel.plain]
  | withGauge _ _ ih => exact ih
  | withSize _ _ ih => exact ih
  | withMotif _ motif _ => exact fun null => (motifOf_eq_some_iff.mp null).1 rfl
  | ofJson loaded => exact fun null => (motif_of_ofJson loaded null).1 rfl

/-- What a document keeps of a panel: finite dimensions, and a size that can be used. -/
def cleaned (panel : Panel) : Panel :=
  { panel with
    shape := panel.shape.map Shape.cleaned
    fit := { panel.fit with size := usableOrStandard panel.fit.size } }

/-- Every dimension is finite, if there is a shape. -/
def FiniteDimensions (panel : Panel) : Prop :=
  ∀ shape, panel.shape = some shape → shape.FiniteDimensions

/-- Every number of the panel can be written, and loads. -/
structure Storable (panel : Panel) : Prop where
  dimensions : panel.FiniteDimensions
  gauge : panel.fit.gauge.FiniteDensities
  size : isUsable panel.fit.size = true

/-- The motif is a value that a document can hold. -/
def WellFormedMotif (panel : Panel) : Prop :=
  ∀ motif, panel.motif = some motif → motif.WellFormed

/-- The motif of a panel that was read from a text is one that a document can hold. -/
theorem wellFormedMotif_of_read {text : String} {panel : Panel} (loaded : read text = .ok panel) :
    panel.WellFormedMotif := by
  intro motif given
  cases document : Json.read text with
  | none =>
    rw [read, document] at loaded
    cases loaded
  | some value =>
    rw [read, document] at loaded
    obtain ⟨-, entries, rfl, found⟩ := motif_of_ofJson (mapError_eq_ok_iff.mp loaded) given
    -- What a document holds at any key is as well formed as the whole of it.
    have wellFormed := Json.wellFormed_read document
    rw [Json.WellFormed, Json.entriesWellFormed_iff] at wellFormed
    exact wellFormed.2 ("visualMotif", motif) (mem_of_lookup found)

/-- The shape of a panel reads back with finite dimensions, and no shape as none. -/
theorem ofJson?_shape (shape : Option Shape) :
    Shape.ofJson? ((shape.map Shape.toJson).getD .null) = shape.map Shape.cleaned := by
  cases shape with
  | none => rfl
  | some shape => exact shape.ofJson?_toJson

/-- A motif other than null reads back, and no motif as none. -/
theorem motifOf_getD {motif : Option Json} (notNull : motif ≠ some .null) :
    motifOf (motif.getD .null) = motif := by
  -- A missing motif is written as null, which reads as missing.
  cases motif with
  | none => rfl
  | some motif =>
    have other : motif ≠ .null := fun null => notNull (congrArg some null)
    exact motifOf_eq_some_iff.mpr ⟨other, rfl⟩

/-- The document of a panel loads when its gauge reads back, whatever else it holds. -/
theorem ofJson_toJson {panel : Panel} (notNull : panel.motif ≠ some .null) :
    ofJson panel.toJson
      = (Gauge.ofJson panel.fit.gauge.toJson).map panel.cleaned.withGauge := by
  rw [toJson, ofJson_document rfl, Record.multiplier?_of_lookup panel.fit.size rfl,
    ofJson?_shape]
  -- The gauge is written as an object, so it is not passed over as null is.
  show (Gauge.ofJson panel.fit.gauge.toJson).map (fun gauge => (⟨panel.shape.map Shape.cleaned,
    ⟨gauge, _⟩, motifOf (panel.motif.getD .null)⟩ : Panel)) = _
  rw [motifOf_getD notNull]
  congr
  funext gauge
  rw [cleaned, withGauge, usableOrStandard]
  split <;> rfl

/-- A panel with a finite gauge reloads with finite dimensions and a usable size. -/
theorem ofJson_toJson_of_finite {panel : Panel} (notNull : panel.motif ≠ some .null)
    (finite : panel.fit.gauge.FiniteDensities) : ofJson panel.toJson = .ok panel.cleaned := by
  rw [ofJson_toJson notNull, Gauge.ofJson_toJson_of_finite finite]
  rfl

/-- A panel with a density that is not finite does not reload. -/
theorem ofJson_toJson_of_not_finite {panel : Panel} (notNull : panel.motif ≠ some .null)
    (infinite : ¬ panel.fit.gauge.FiniteDensities) :
    ofJson panel.toJson = .error (.notNumber .null) := by
  rw [ofJson_toJson notNull, Gauge.ofJson_toJson_of_not_finite infinite]
  rfl

/-- Only a panel with finite dimensions and a usable size is not changed by its document. -/
theorem cleaned_eq_self_iff (panel : Panel) :
    panel.cleaned = panel ↔ panel.FiniteDimensions ∧ isUsable panel.fit.size = true := by
  -- Of the fields of a panel only its shape and its size are cleaned.
  obtain ⟨shape, ⟨gauge, size⟩, motif⟩ := panel
  simp only [cleaned, mk.injEq, Fit.mk.injEq, true_and, and_true,
    usableOrStandard_eq_self_iff, FiniteDimensions]
  cases shape with
  | none => simp
  | some shape => simp [shape.cleaned_eq_self_iff]

/-- As numbers, too, only finite dimensions and a usable size are not changed. -/
theorem same_cleaned_iff {panel : Panel} (wellFormed : panel.WellFormedMotif)
    (finite : panel.fit.gauge.FiniteDensities) :
    panel.cleaned.same panel = true
      ↔ panel.FiniteDimensions ∧ isUsable panel.fit.size = true := by
  obtain ⟨shape, ⟨gauge, size⟩, motif⟩ := panel
  have sameGauge := Gauge.same_self finite
  simp only [same, cleaned, sameGauge, Bool.and_eq_true, and_true, usableOrStandard_beq_iff,
    FiniteDimensions]
  -- Without a shape there are no dimensions, and a motif that can be written equals itself.
  cases motif with
  | none =>
    cases shape with
    | none => simp
    | some shape => simp [shape.same_cleaned_iff]
  | some motif =>
    have sameMotif := Json.same_self (wellFormed motif rfl)
    cases shape with
    | none => simp [sameMotif]
    | some shape => simp [sameMotif, shape.same_cleaned_iff]

/-- What loads is as good as the panel exactly when the panel can be stored. -/
theorem exists_reload_iff {panel : Panel} (notNull : panel.motif ≠ some .null)
    (holds : Panel → Prop) (unchanged : panel.fit.gauge.FiniteDensities →
      (holds panel.cleaned ↔ panel.FiniteDimensions ∧ isUsable panel.fit.size = true)) :
    (∃ reloaded, ofJson panel.toJson = .ok reloaded ∧ holds reloaded) ↔ panel.Storable := by
  constructor
  · rintro ⟨reloaded, loaded, kept⟩
    -- Something loads, so the gauge is finite, and it is the cleaned panel.
    have finite : panel.fit.gauge.FiniteDensities := by
      by_contra infinite
      rw [ofJson_toJson_of_not_finite notNull infinite] at loaded
      cases loaded
    rw [ofJson_toJson_of_finite notNull finite] at loaded
    obtain rfl := Except.ok.inj loaded
    obtain ⟨dimensions, size⟩ := (unchanged finite).mp kept
    exact ⟨dimensions, finite, size⟩
  · rintro ⟨dimensions, finite, size⟩
    exact ⟨panel.cleaned, ofJson_toJson_of_finite notNull finite,
      (unchanged finite).mpr ⟨dimensions, size⟩⟩

/--
The document of a panel loads unless a density is not finite. It then gives the panel with every
dimension that is not finite replaced by zero, and a size that cannot be used by the standard one.

So a panel is what its document loads as, field by field or as numbers, exactly when all its numbers
can be stored.
-/
theorem reload_eq {panel : Panel} (reachable : panel.Reachable) :
    ((∃ fault, ofJson panel.toJson = .error fault) ↔ ¬ panel.fit.gauge.FiniteDensities) ∧
    (panel.fit.gauge.FiniteDensities → ofJson panel.toJson = .ok panel.cleaned) ∧
    (ofJson panel.toJson = .ok panel ↔ panel.Storable) ∧
    (panel.WellFormedMotif →
      ((∃ reloaded, ofJson panel.toJson = .ok reloaded ∧ reloaded.same panel = true)
        ↔ panel.Storable)) := by
  have notNull := reachable.motif_ne_null
  -- Both ways of being the same panel are met through the panel that is loaded, the cleaned one.
  refine ⟨?_, ofJson_toJson_of_finite notNull, ?_, ?_⟩
  · constructor
    · rintro ⟨fault, failed⟩ finite
      rw [ofJson_toJson_of_finite notNull finite] at failed
      cases failed
    · exact fun infinite => ⟨_, ofJson_toJson_of_not_finite notNull infinite⟩
  · rw [← exists_reload_iff notNull (· = panel) fun _ => panel.cleaned_eq_self_iff]
    constructor
    · exact fun loaded => ⟨panel, loaded, rfl⟩
    · rintro ⟨reloaded, loaded, rfl⟩
      exact loaded
  · exact fun wellFormed =>
      exists_reload_iff notNull (·.same panel = true) (same_cleaned_iff wellFormed)

/-- A panel with an endless root, a successor without a width, and a size that cannot be used. -/
def unmeasured : Panel :=
  (plain
    (some (.node (Segment.plain (1.0 / 0.0) 4.0 4.0)
      [.node { Segment.plain 4.0 (0.0 / 0.0) 4.0 with notes := [""], label := some "" } []]))
    Gauge.standard (-1.0)).withMotif (.object [("kind", .text "stripes")])

/-- The unmeasured panel reloads without its three broken numbers, and so as another panel. -/
theorem unmeasured_reload : unmeasured.Reachable ∧ unmeasured.fit.gauge.FiniteDensities ∧
    unmeasured.WellFormedMotif ∧ ofJson unmeasured.toJson = .ok unmeasured.cleaned ∧
    ofJson unmeasured.toJson ≠ .ok unmeasured ∧
    ¬ ∃ reloaded, ofJson unmeasured.toJson = .ok reloaded ∧ reloaded.same unmeasured = true := by
  have reachable : unmeasured.Reachable := .withMotif (.plain _ _ _) _
  have finite : unmeasured.fit.gauge.FiniteDensities := ⟨by decide +kernel, by decide +kernel⟩
  have wellFormed : unmeasured.WellFormedMotif := by
    rintro _ ⟨⟩
    simp [Json.WellFormed, Json.EntriesWellFormed]
  -- A size that cannot be used is enough for it not to be stored.
  have notStorable : ¬ unmeasured.Storable := by
    intro storable
    exact absurd storable.size (by decide +kernel)
  obtain ⟨_, reloads, same, sameNumbers⟩ := reload_eq reachable
  exact ⟨reachable, finite, wellFormed, reloads finite, fun whole => notStorable (same.mp whole),
    fun whole => notStorable ((sameNumbers wellFormed).mp whole)⟩

end Panel

end FlatKnit
