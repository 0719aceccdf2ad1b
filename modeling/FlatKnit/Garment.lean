import FlatKnit.Panel
import FlatKnit.Pattern

/-! Garments: named panels with a table of sizes, and what is done after knitting. -/

namespace FlatKnit

/-- A garment document; panels and sizes keep the order of the document. -/
structure Garment where
  permalink : String
  title : String
  description : String
  /-- Size labels with their multipliers. -/
  sizes : List (String × Float)
  /-- Panel names with their shapes. -/
  panels : List (String × Shape)
  notes : List String
  deriving Repr, Inhabited

namespace Garment

/-- The entries that hold a shape, under their names. -/
def shapesOf (entries : List (String × Json)) : List (String × Shape) :=
  entries.filterMap fun (name, value) => (Shape.ofJson? value).map fun shape => (name, shape)

/-- The entries that hold a multiplier that can be used, under their labels. -/
def sizesOf (entries : List (String × Json)) : List (String × Float) :=
  -- An entry without a usable multiplier is left out, as if it were not there.
  entries.filterMap fun (label, value) =>
    (Record.multiplierOf? value).map fun multiplier => (label, multiplier)

/-- The entries of an object; another value has none. -/
def entriesOf : Option Json → List (String × Json)
  | some (.object entries) => entries
  | _ => []

/-- Reads a garment document, which must hold at least one shape. -/
def ofJson : Json → Except GarmentFault Garment
  | .object entries =>
    let title := (Record.label? entries "title").getD ""
    match entries.lookup "shapes" with
    | none => .error (.missingField "shapes")
    | some shapes =>
      -- Entries that hold no shape are left out before the panels are counted.
      let panels := shapesOf (entriesOf (some shapes))
      if panels.isEmpty then .error (.noPanels title)
      else .ok {
        permalink := (Record.label? entries "permalink").getD ""
        title := title
        description := (Record.label? entries "description").getD ""
        sizes := sizesOf (entriesOf (entries.lookup "sizes"))
        panels := panels
        notes := Record.texts entries "finishingSteps" }
  | _ => .error (.missingField "shapes")

/-- Reads the text of a garment document. -/
def read (text : String) : Except KnitError Garment :=
  match Json.read text with
  | none => .error .notJson
  | some value => (ofJson value).mapError .garment

/-- The multiplier of a size label. -/
def size (garment : Garment) (label : String) : Except GarmentFault Float :=
  match garment.sizes.lookup label with
  | some multiplier => .ok multiplier
  | none => .error (.unknownSize label (garment.sizes.map Prod.fst))

/-- The panels of a garment at a fit. -/
def panelsAt (garment : Garment) (fit : Fit) : List (String × Panel) :=
  garment.panels.map fun (name, shape) => (name, Panel.plain (some shape) fit.gauge fit.size)

/-- The pattern of a garment at a fit. -/
def pattern (garment : Garment) (fit : Fit) : Pattern where
  title := garment.title
  size := fit.size
  panels := (garment.panelsAt fit).map fun (name, panel) => ⟨name, panel.instructions⟩
  notes := garment.notes

/-- The pattern of a garment at a fit, unless a number on the way to its lines leaves its word. -/
def pattern? (garment : Garment) (fit : Fit) : Option Pattern := do
  let panels ← (garment.panelsAt fit).mapM fun (name, panel) => do
    let instructions ← panel.instructions?
    return (⟨name, instructions⟩ : PanelLines)
  return ⟨garment.title, fit.size, panels, garment.notes⟩

end Garment

end FlatKnit
