import FlatKnit.Inches
import FlatKnit.Json.Printer
import FlatKnit.Gauge

/-! Fields of records written by hand: numbers may be texts, and what cannot be read is left out. -/

namespace FlatKnit

namespace Record

/-- The length under a key; one that is missing or unreadable is zero. -/
def inches (entries : List (String × Json)) (key : String) : Float :=
  match entries.lookup key with
  | some (.whole value) => Float.ofInt value
  | some (.decimal value) => value
  -- A text that is no length counts as missing.
  | some (.text text) => (readInches text).toOption.getD 0.0
  | _ => 0.0

/-- The number that a value or its text holds. -/
def number? : Json → Option Float
  | .whole value => some (Float.ofInt value)
  | .decimal value => some value
  -- Unlike a length, a number has no marks of inches and no fractions.
  | .text text => readDecimal (trimBlanks text.toList)
  | _ => none

/-- The multiplier that a value holds, if it can be used. -/
def multiplierOf? (value : Json) : Option Float :=
  (number? value).filter isUsable

/-- The multiplier under a key, if it is there and can be used. -/
def multiplier? (entries : List (String × Json)) (key : String) : Option Float :=
  (entries.lookup key).bind multiplierOf?

/-- The text of a value: null has none, and a value that is not a text is written out. -/
def text? : Json → Option String
  | .null => none
  | .text text => some text
  | other => some other.compact

/-- The text under a key. -/
def label? (entries : List (String × Json)) (key : String) : Option String :=
  (entries.lookup key).bind text?

/-- The texts under a key; a lone value is a list of one. -/
def texts (entries : List (String × Json)) (key : String) : List String :=
  match entries.lookup key with
  -- Items without a text are left out, and the others keep their order.
  | some (.list items) => items.filterMap text?
  | some other => (text? other).toList
  | none => []

/-- The flag under a key; numbers other than zero and texts that are not empty are set. -/
def flag (entries : List (String × Json)) (key : String) : Bool :=
  match entries.lookup key with
  | some (.flag value) => value
  | some (.whole value) => value != 0
  | some (.decimal value) => value != 0.0
  | some (.text text) => !text.isEmpty
  | _ => false

end Record

end FlatKnit
