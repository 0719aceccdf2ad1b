import FlatKnit.Decimal.Notation
import FlatKnit.Json.Printer
import FlatKnit.Text.Quoted

/-! Gauges: how many stitches and rows a knitter gets across four inches. -/

namespace FlatKnit

/-- The density of a fabric, counted across four inches. -/
structure Gauge where
  stitches : Float
  rows : Float
  deriving Repr, Inhabited

/-- Whether a density or a multiplier can be used: positive and finite. -/
def isUsable (value : Float) : Bool :=
  -- What is no number is not finite, and so it is never compared.
  value.isFinite && value > 0.0

namespace Gauge

/-- The gauge of a fabric whose swatch nobody has measured. -/
def standard : Gauge := ⟨19.0, 30.0⟩

/-- Whether both densities can be used. -/
def usable (gauge : Gauge) : Bool :=
  isUsable gauge.stitches && isUsable gauge.rows

/-- Stitches across one inch. -/
def stitchesPerInch (gauge : Gauge) : Float :=
  gauge.stitches / 4.0

/-- Rows along one inch. -/
def rowsPerInch (gauge : Gauge) : Float :=
  gauge.rows / 4.0

/-- Whether two gauges have equal densities. -/
def same (left right : Gauge) : Bool :=
  left.stitches == right.stitches && left.rows == right.rows

/-- The line that names a gauge. -/
def text (gauge : Gauge) : String :=
  plainText gauge.stitches ++ " sts x " ++ plainText gauge.rows ++ " rows per 4in"

/-- The record of a gauge. -/
def toJson (gauge : Gauge) : Json :=
  .object [("stitchesPerFourInches", .ofFloat gauge.stitches),
    ("rowsPerFourInches", .ofFloat gauge.rows)]

end Gauge

/-- One of the two densities of a gauge. -/
inductive Density where
  | stitches
  | rows
  deriving Repr, DecidableEq

namespace Density

/-- The name under which a density is written. -/
def name : Density → String
  | stitches => "stitchesPerFourInches"
  | rows => "rowsPerFourInches"

/-- The names under which a density is read. -/
def names : Density → List String
  | stitches => [stitches.name, "stitchesPer4Inches", "stitches"]
  | rows => [rows.name, "rowsPer4Inches", "rows"]

/-- The density that a key names. -/
def ofKey (key : String) : Option Density :=
  if stitches.names.contains key then some stitches
  else if rows.names.contains key then some rows
  else none

end Density

/-- Why a record is not a gauge. -/
inductive GaugeFault where
  | notGauge (value : Json)
  | notNumber (value : Json)
  | missing (density : Density)
  | repeated (density : Density)
  | tooShort (length : Nat)
  | tooLong (length : Nat)
  deriving Repr

namespace GaugeFault

/-- What a value is, in a message. -/
def described : Json → String
  | .null => "null"
  | .flag value => "boolean `" ++ (if value then "true" else "false") ++ "`"
  | .whole value => "integer `" ++ toString value ++ "`"
  | .decimal value => "floating point `" ++ Json.decimalText value ++ "`"
  | .text value => "string " ++ quotedVisibly value
  | .list _ => "sequence"
  | .object _ => "map"

/-- The words for a fault of a gauge record. -/
def message : GaugeFault → String
  | notGauge value => "invalid type: " ++ described value ++ ", expected struct Gauge"
  | notNumber value => "invalid type: " ++ described value ++ ", expected f64"
  | missing density => "missing field `" ++ density.name ++ "`"
  | repeated density => "duplicate field `" ++ density.name ++ "`"
  | tooShort length =>
    "invalid length " ++ toString length ++ ", expected struct Gauge with 2 elements"
  | tooLong length => "invalid length " ++ toString length ++ ", expected fewer elements in array"

end GaugeFault

/-- The double of a number. -/
def Json.number? : Json → Option Float
  | .whole value => some (Float.ofInt value)
  | .decimal value => some value
  | _ => none

namespace Gauge

/-- Reads a density, which must be a number. -/
def readDensity (value : Json) : Except GaugeFault Float :=
  match value.number? with
  | some density => .ok density
  | none => .error (.notNumber value)

/-- Reads the entries of a gauge record in their order, onto the densities read so far. -/
def readEntries (stitches rows : Option Float) : List (String × Json) → Except GaugeFault Gauge
  | [] =>
    match stitches, rows with
    | some stitches, some rows => .ok ⟨stitches, rows⟩
    | none, _ => .error (.missing .stitches)
    | some _, none => .error (.missing .rows)
  | (key, value) :: rest =>
    match Density.ofKey key with
    -- A key that names no density is skipped with whatever it holds.
    | none => readEntries stitches rows rest
    | some .stitches =>
      -- Two names of one density count as the same key.
      if stitches.isSome then .error (.repeated .stitches)
      else do
        let density ← readDensity value
        readEntries (some density) rows rest
    | some .rows =>
      if rows.isSome then .error (.repeated .rows)
      else do
        let density ← readDensity value
        readEntries stitches (some density) rest

/-- Reads a gauge from a record with named densities, or from a list of the two. -/
def ofJson (value : Json) : Except GaugeFault Gauge :=
  match value with
  | .object entries => readEntries none none entries
  | .list [] => .error (.tooShort 0)
  -- The first density is read before it is found that there is no other.
  | .list [first] => do
    let _ ← readDensity first
    throw (.tooShort 1)
  | .list (first :: second :: rest) => do
    let stitches ← readDensity first
    let rows ← readDensity second
    if rest.isEmpty then return ⟨stitches, rows⟩ else throw (.tooLong (rest.length + 2))
  | other => .error (.notGauge other)

end Gauge

end FlatKnit
