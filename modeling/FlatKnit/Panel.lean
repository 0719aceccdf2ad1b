import FlatKnit.Error
import FlatKnit.Json.Reader
import FlatKnit.Shape.Record
import FlatKnit.Shape.Timeline

/-! Panels: a shape with the fit it is knitted at, from cast-on to the last bind-off. -/

namespace FlatKnit

/-- The size multiplier of a document that has none. -/
def standardSize : Float := 1.006

/-- A shape bound to a fit, with a reference to a motif that is kept and never read. -/
structure Panel where
  shape : Option Shape
  fit : Fit
  motif : Option Json
  deriving Repr, Inhabited

namespace Panel

/-- A panel without a motif. -/
def plain (shape : Option Shape) (gauge : Gauge) (size : Float) : Panel :=
  ⟨shape, ⟨gauge, size⟩, none⟩

/-- The panel at another gauge. -/
def withGauge (panel : Panel) (gauge : Gauge) : Panel :=
  { panel with fit := { panel.fit with gauge := gauge } }

/-- The panel at another size. -/
def withSize (panel : Panel) (size : Float) : Panel :=
  { panel with fit := { panel.fit with size := size } }

/-- A motif value; null is no motif. -/
def motifOf : Json → Option Json
  | .null => none
  | motif => some motif

/-- The panel with another motif. -/
def withMotif (panel : Panel) (motif : Json) : Panel :=
  { panel with motif := motifOf motif }

/-- The gauge of a document; without one it is the standard gauge. -/
def gaugeOf : Option Json → Except GaugeFault Gauge
  | none => .ok Gauge.standard
  | some .null => .ok Gauge.standard
  | some value => Gauge.ofJson value

/-- Reads a panel document, or a bare shape record; only a broken gauge is refused. -/
def ofJson (value : Json) : Except GaugeFault Panel :=
  match value with
  | .object entries =>
    match entries.lookup "shapes" with
    -- Without shapes the record is a bare shape, and its other keys are those of a segment.
    | none => .ok (plain (Shape.ofJson? value) Gauge.standard standardSize)
    | some shapes => do
      -- The gauge is the one part that is not passed over when it is broken.
      let gauge ← gaugeOf (entries.lookup "gauge")
      let size := (Record.multiplier? entries "sizeModifier").getD standardSize
      return {
        shape := Shape.ofJson? shapes
        fit := ⟨gauge, size⟩
        motif := (entries.lookup "visualMotif").bind motifOf }
  | _ => .ok (plain none Gauge.standard standardSize)

/-- Reads the text of a panel document. -/
def read (text : String) : Except KnitError Panel :=
  match Json.read text with
  | none => .error .notJson
  | some value => (ofJson value).mapError .gaugeRecord

/-- The document of a panel. -/
def toJson (panel : Panel) : Json :=
  .object [("shapes", (panel.shape.map Shape.toJson).getD .null),
    ("gauge", panel.fit.gauge.toJson), ("sizeModifier", .ofFloat panel.fit.size),
    ("visualMotif", panel.motif.getD .null)]

/-- Whether two panels are equal, numbers as numbers. -/
def same (left right : Panel) : Bool :=
  (match left.shape, right.shape with
    | none, none => true
    | some left, some right => left.same right
    | _, _ => false) &&
  left.fit.gauge.same right.fit.gauge && left.fit.size == right.fit.size &&
  (match left.motif, right.motif with
    | none, none => true
    | some left, some right => left.same right
    | _, _ => false)

/-- Every line of the panel, from row one on; a panel without a shape has none. -/
def instructions (panel : Panel) : List Instruction :=
  match panel.shape with
  | some shape => shape.instructions panel.fit 1 true
  | none => []

/-- Every line of the panel, unless a number on the way to them leaves its word. -/
def instructions? (panel : Panel) : Option (List Instruction) :=
  match panel.shape with
  | some shape => shape.instructions? panel.fit 1 true
  | none => some []

/-- The plans of every knitted segment, from row one on. -/
def plans (panel : Panel) : List StitchPlan :=
  match panel.shape with
  | some shape => shape.plans panel.fit 1
  | none => []

/-- The plans of every knitted segment, unless a number on the way to them leaves its word. -/
def plans? (panel : Panel) : Option (List StitchPlan) :=
  match panel.shape with
  | some shape => shape.plans? panel.fit 1
  | none => some []

/-- Checks the shape at the fit of the panel; a panel without a shape passes. -/
def check (panel : Panel) : Except CheckStop Unit :=
  match panel.shape with
  | some shape => shape.check panel.fit
  | none => .ok ()

end Panel

end FlatKnit
