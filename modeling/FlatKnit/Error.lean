import FlatKnit.Shape.Check

/-! Errors of loading and checking documents, by their causes. -/

namespace FlatKnit

/-- Why a document is not a garment, or lacks what is asked of it. -/
inductive GarmentFault where
  | unknownSize (label : String) (available : List String)
  | noPanels (title : String)
  | missingField (field : String)
  deriving Repr

/-- The words for a fault of a garment. -/
def GarmentFault.message : GarmentFault → String
  | unknownSize label available =>
    "Unknown size '" ++ label ++ "' (available: " ++ ", ".intercalate available ++ ")"
  | noPanels title => "Garment '" ++ title ++ "' has no panels"
  | missingField field => "Missing '" ++ field ++ "' in pattern document"

/-- Why a document cannot be knitted. -/
inductive KnitError where
  | gauge (gauge : Gauge)
  | size (value : Float)
  | shape (fault : ShapeFault)
  | garment (fault : GarmentFault)
  /-- The gauge of a document is not the record of a gauge. -/
  | gaugeRecord (fault : GaugeFault)
  /-- The text is not a JSON document. -/
  | notJson
  deriving Repr

namespace KnitError

/-- The words for an error; a text that is not JSON has none of its own. -/
def message? : KnitError → Option String
  | gauge measured =>
    some ("Invalid gauge: " ++ plainText measured.stitches ++ " stitches / " ++
      plainText measured.rows ++ " rows per 4 inches")
  | size value => some ("Invalid size modifier: " ++ plainText value)
  | shape fault => some fault.message
  | garment fault => some fault.message
  | gaugeRecord fault => some ("JSON error: " ++ fault.message)
  | notJson => none

end KnitError

/-- A gauge that can be used, or the error that it cannot. -/
def Gauge.checked (gauge : Gauge) : Except KnitError Gauge :=
  if gauge.usable then .ok gauge else .error (.gauge gauge)

/-- A size multiplier that can be used, or the error that it cannot. -/
def checkedSize (size : Float) : Except KnitError Float :=
  if isUsable size then .ok size else .error (.size size)

end FlatKnit
