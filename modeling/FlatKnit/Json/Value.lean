/-! JSON values: whole numbers and doubles apart, and objects in the order of their document. -/

namespace FlatKnit

/-- A JSON value. -/
inductive Json where
  | null
  | flag (value : Bool)
  | whole (value : Int)
  | decimal (value : Float)
  | text (value : String)
  | list (items : List Json)
  | object (entries : List (String × Json))
  deriving Repr, Inhabited

/-- Entries with one key set: a known key keeps its place, a new one goes to the end. -/
def setEntry (key : String) {α : Type} (value : α) : List (String × α) → List (String × α)
  | [] => [(key, value)]
  | (name, old) :: rest =>
    -- The search stops at the first entry with the key.
    if name == key then (name, value) :: rest else (name, old) :: setEntry key value rest

/-- Entries read one after another, a repeated key taking its last value. -/
def gatherEntries {α : Type} (entries : List (String × α)) : List (String × α) :=
  entries.foldl (fun gathered (key, value) => setEntry key value gathered) []

namespace Json

/-- The number for a double; values that are not finite have no number. -/
def ofFloat (value : Float) : Json :=
  if value.isFinite then decimal value else null

/-- The text for a text, or null for none. -/
def ofTextOption : Option String → Json
  | some value => text value
  | none => null

/-- A list of texts. -/
def ofTexts (texts : List String) : Json :=
  list (texts.map text)

mutual

/-- Whether two values are equal, the order of object keys aside; numbers compare as numbers. -/
def same : Json → Json → Bool
  | null, null => true
  | flag left, flag right => left == right
  | whole left, whole right => left == right
  | decimal left, decimal right => left == right
  | text left, text right => left == right
  | list left, list right => sameItems left right
  -- Equal numbers of entries leave none of the others without its counterpart.
  | object left, object right => left.length == right.length && sameEntries left right
  | _, _ => false

/-- Whether two lists are equal item by item. -/
def sameItems : List Json → List Json → Bool
  | [], [] => true
  | left :: lefts, right :: rights => same left right && sameItems lefts rights
  | _, _ => false

/-- Whether every entry has an equal one under its key in the other entries. -/
def sameEntries : List (String × Json) → List (String × Json) → Bool
  | [], _ => true
  | (key, left) :: lefts, rights =>
    (match rights.lookup key with
      | some right => same left right
      | none => false) && sameEntries lefts rights

end

end Json

end FlatKnit
