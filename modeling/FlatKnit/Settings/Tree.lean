import FlatKnit.Json.Written
import FlatKnit.Toml.Value

/-! Settings trees: what documents of both formats hold, before it is known which parts matter. -/

namespace FlatKnit

/-- A part of a settings document; one that cannot be evaluated matters only where it is read. -/
inductive SettingsTree where
  | null
  | flag (value : Bool)
  | number (value : Float)
  | text (value : String)
  | list (items : List SettingsTree)
  /-- Entries in the order of the document; a key that cannot be evaluated is none. -/
  | table (entries : List (Option String × SettingsTree))
  /-- A date or a time, which reads as a table without any known key. -/
  | moment
  | unreadable
  deriving Repr, Inhabited

namespace SettingsTree

mutual

/-- The tree of a JSON value. -/
def ofJson : Json → SettingsTree
  | .null => null
  | .flag value => flag value
  -- Whole numbers become doubles here, since every number of the settings is one.
  | .whole value => number (Float.ofInt value)
  | .decimal value => number value
  | .text value => text value
  | .list items => list (ofJsonItems items)
  | .object entries => table (ofJsonEntries entries)

/-- The trees of the items of a list. -/
def ofJsonItems : List Json → List SettingsTree
  | [] => []
  | item :: items => ofJson item :: ofJsonItems items

/-- The trees of the entries of an object. -/
def ofJsonEntries : List (String × Json) → List (Option String × SettingsTree)
  | [] => []
  | (key, item) :: entries => (some key, ofJson item) :: ofJsonEntries entries

end

mutual

/-- The tree of a JSON document as written. -/
def ofWritten : WrittenJson → SettingsTree
  | .null => null
  | .flag value => flag value
  | .number literal => if literal.double.isFinite then number literal.double else unreadable
  | .text units =>
    match unitsText units with
    | some value => text value
    | none => unreadable
  | .list items => list (ofWrittenItems items)
  | .object entries => table (ofWrittenEntries entries)

/-- The trees of the items of a list. -/
def ofWrittenItems : List WrittenJson → List SettingsTree
  | [] => []
  | item :: items => ofWritten item :: ofWrittenItems items

/-- The trees of the entries of an object. -/
def ofWrittenEntries : List (List Nat × WrittenJson) → List (Option String × SettingsTree)
  | [] => []
  | (key, item) :: entries => (unitsText key, ofWritten item) :: ofWrittenEntries entries

end

mutual

/-- The tree of a TOML value. -/
def ofToml : Toml → SettingsTree
  | .text value => text value
  | .whole value => number (Float.ofInt value)
  | .decimal value => number value
  | .flag value => flag value
  | .moment _ => moment
  | .list items => list (ofTomlItems items)
  | .table entries => table (ofTomlEntries entries)

/-- The trees of the items of a list. -/
def ofTomlItems : List Toml → List SettingsTree
  | [] => []
  | item :: items => ofToml item :: ofTomlItems items

/-- The trees of the entries of a table. -/
def ofTomlEntries : List (String × Toml) → List (Option String × SettingsTree)
  | [] => []
  | (key, item) :: entries => (some key, ofToml item) :: ofTomlEntries entries

end

/-- The tree of the sections of a TOML document. -/
def ofSections (sections : List (String × List (String × Toml))) : SettingsTree :=
  table (ofTomlEntries (sections.map fun (header, entries) => (header, .table entries)))

end SettingsTree

end FlatKnit
