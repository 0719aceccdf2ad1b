import FlatKnit.Json.Value

/-! TOML values, and the tables that headers and dotted keys build up. -/

namespace FlatKnit

/-- A TOML value; a date or a time is kept as it is written. -/
inductive Toml where
  | text (value : String)
  | whole (value : Int)
  | decimal (value : Float)
  | flag (value : Bool)
  | moment (written : String)
  | list (items : List Toml)
  | table (entries : List (String × Toml))
  deriving Repr, Inhabited

/-- How a table came to be: by its own header, on the way to another header, or by dotted keys. -/
inductive TableOrigin where
  | stated
  | implied
  | dotted
  deriving Repr, DecidableEq

/-- What stands under a key while a document is read. -/
inductive TomlNode where
  | value (value : Toml)
  | table (origin : TableOrigin) (entries : List (String × TomlNode))
  /-- A list of tables, of which the last one can still grow. -/
  | tables (elements : List (List (String × TomlNode)))
  deriving Repr, Inhabited

/-- The entries of a table while a document is read. -/
abbrev TomlEntries := List (String × TomlNode)

namespace TomlEntries

/-- Changes the table at a path, creating missing tables on the way with an origin. -/
def within (created : TableOrigin) (change : TableOrigin → TomlEntries → Option TomlEntries) :
    List String → TableOrigin → TomlEntries → Option TomlEntries
  | [], origin, entries => change origin entries
  | key :: path, _, entries =>
    match entries.lookup key with
    | none => do
      let inner ← within created change path created []
      return entries ++ [(key, .table created inner)]
    -- A value is no table, and so nothing can be put under it.
    | some (.value _) => none
    | some (.table origin inner) =>
      -- Dotted keys may not reach into a table that has its own header.
      if created == .dotted && origin == .stated then none
      else do
        let inner ← within created change path origin inner
        return setEntry key (.table origin inner) entries
    | some (.tables elements) => do
      -- A path through a list of tables leads into the last one.
      let last ← elements.getLast?
      let last ← within created change path .stated last
      return setEntry key (.tables (elements.dropLast ++ [last])) entries

/-- Adds a value under a new key at a dotted path, which may end only in a table of dotted keys. -/
def addValue (path : List String) (key : String) (value : Toml) (entries : TomlEntries) :
    Option TomlEntries :=
  let add := fun (origin : TableOrigin) (entries : TomlEntries) =>
    -- Only the table of the header itself takes a value without a path.
    if (origin == .dotted) == path.isEmpty then none
    else if (entries.lookup key).isSome then none
    else some (entries ++ [(key, .value value)])
  within .dotted add path .stated entries

/-- Opens a table by its header; it may have been implied before, but not stated. -/
def openTable (path : List String) (key : String) (entries : TomlEntries) : Option TomlEntries :=
  let add := fun (_ : TableOrigin) (entries : TomlEntries) =>
    match entries.lookup key with
    | none => some (entries ++ [(key, .table .stated [])])
    -- What was put under it on the way to other headers stays.
    | some (.table .implied inner) => some (setEntry key (.table .stated inner) entries)
    | some _ => none
  within .implied add path .stated entries

/-- Opens a new table at the end of a list of tables. -/
def openElement (path : List String) (key : String) (entries : TomlEntries) : Option TomlEntries :=
  let add := fun (_ : TableOrigin) (entries : TomlEntries) =>
    match entries.lookup key with
    | none => some (entries ++ [(key, .tables [[]])])
    | some (.tables elements) => some (setEntry key (.tables (elements ++ [[]])) entries)
    | some _ => none
  within .implied add path .stated entries

/-- Adds a value in the table that the last header opened. -/
def addValueUnder (header path : List String) (key : String) (value : Toml)
    (entries : TomlEntries) : Option TomlEntries :=
  within .implied (fun _ entries => addValue path key value entries) header .stated entries

end TomlEntries

namespace TomlNode

mutual

/-- The value that a node has grown to. -/
def toToml : TomlNode → Toml
  | value plain => plain
  | table _ entries => .table (toEntries entries)
  | tables elements => .list (toTables elements)

/-- The values of the entries of a table. -/
def toEntries : List (String × TomlNode) → List (String × Toml)
  | [] => []
  | (key, node) :: entries => (key, toToml node) :: toEntries entries

/-- The values of a list of tables. -/
def toTables : List (List (String × TomlNode)) → List Toml
  | [] => []
  | entries :: elements => .table (toEntries entries) :: toTables elements

end

end TomlNode

end FlatKnit
