import FlatKnit.Proofs.Garment.Sizes
import FlatKnit.Proofs.Shape.Noise

/-! Garment documents: when one loads, and which of its panels and sizes the garment has. -/

namespace FlatKnit

/-- What a reading keeps of named entries: all that can be read, by name and in their order. -/
inductive Keeps {α β : Type} (Reads : α → β → Prop) :
    List (String × α) → List (String × β) → Prop where
  | nil : Keeps Reads [] []
  | kept (name : String) {value : α} {result : β} {entries : List (String × α)}
      {results : List (String × β)} (read : Reads value result)
      (rest : Keeps Reads entries results) :
      Keeps Reads ((name, value) :: entries) ((name, result) :: results)
  | passed (name : String) {value : α} {entries : List (String × α)}
      {results : List (String × β)} (unread : ∀ result, ¬ Reads value result)
      (rest : Keeps Reads entries results) : Keeps Reads ((name, value) :: entries) results

section Keeps

variable {α β : Type} {Reads : α → β → Prop} {entries : List (String × α)}
  {results : List (String × β)}

/-- A reader that follows a relation keeps of entries what the relation keeps. -/
theorem keeps_filterMap {read? : α → Option β}
    (exact : ∀ value result, read? value = some result ↔ Reads value result)
    (entries : List (String × α)) : Keeps Reads entries
      (entries.filterMap fun (name, value) => (read? value).map fun result => (name, result)) := by
  induction entries with
  | nil => exact .nil
  | cons entry rest ih =>
    obtain ⟨name, value⟩ := entry
    cases read : read? value with
    | some result =>
      simp only [List.filterMap_cons, read, Option.map_some]
      exact .kept name ((exact value result).mp read) ih
    | none =>
      -- What the reader refuses, the relation relates to nothing.
      have unread : ∀ result, ¬ Reads value result := by
        intro result related
        have found := (exact value result).mpr related
        rw [read] at found
        cases found
      simp only [List.filterMap_cons, read, Option.map_none]
      exact .passed name unread ih

/-- The names of what is kept stand in the order of the entries. -/
theorem Keeps.names_sublist (keeps : Keeps Reads entries results) :
    (results.map Prod.fst).Sublist (entries.map Prod.fst) := by
  -- The induction is on the entries that were gone through; a kept one adds its name, a passed one
  -- does not.
  induction keeps with
  | nil => exact .slnil
  | kept name _ _ ih => exact ih.cons_cons name
  | passed name _ _ ih => exact ih.cons name

/-- Something is kept exactly when there is an entry that can be read. -/
theorem Keeps.ne_nil_iff (keeps : Keeps Reads entries results) :
    results ≠ [] ↔ ∃ entry ∈ entries, ∃ result, Reads entry.2 result := by
  induction keeps with
  | nil => simp
  | kept name read rest ih =>
    exact iff_of_true (List.cons_ne_nil _ _) ⟨_, List.mem_cons_self, _, read⟩
  | passed name unread rest ih =>
    -- The entry that is passed over cannot be the one.
    simp [ih, unread]

end Keeps

namespace Json

/-- What an object has under a key; another value has nothing there. -/
def under? (key : String) : Json → Option Json
  | object entries => entries.lookup key
  | _ => none

/-- An object with another object among its values. -/
def HoldsObject (value : Json) : Prop :=
  ∃ entries, value = object entries ∧ ∃ entry ∈ entries, entry.2.isObject = true

/-- A value is a number, or a text that reads as one with blanks around it. -/
inductive HoldsNumber : Json → Float → Prop where
  | whole (number : Int) : HoldsNumber (whole number) (Float.ofInt number)
  | decimal (number : Float) : HoldsNumber (decimal number) number
  | text {literal : String} {number : Float}
      (read : readDecimal (trimBlanks literal.toList) = some number) :
      HoldsNumber (text literal) number

/-- A value holds a number that is finite and above zero. -/
structure HoldsMultiplier (value : Json) (multiplier : Float) : Prop where
  number : value.HoldsNumber multiplier
  finite : multiplier.isFinite = true
  positive : 0.0 < multiplier

/-- A value is the record of a shape; every object is one. -/
inductive HoldsShape : Json → Shape → Prop where
  | record (entries : List (String × Json)) : HoldsShape (object entries)
      (.node (Segment.ofEntries entries) (Shape.successorsIn entries))

end Json

/-- The reader of numbers finds what a value holds. -/
theorem Record.number?_eq_some_iff (value : Json) (number : Float) :
    number? value = some number ↔ value.HoldsNumber number := by
  constructor
  · intro read
    -- Three kinds of values can hold a number, and the others are never read as one.
    cases value with
    | whole whole =>
      obtain rfl := Option.some.inj read
      exact .whole whole
    | decimal decimal =>
      obtain rfl := Option.some.inj read
      exact .decimal decimal
    | text literal => exact .text read
    | _ => cases read
  · rintro (_ | _ | read)
    · rfl
    · rfl
    · exact read

/-- The reader of multipliers finds what a value holds. -/
theorem Record.multiplierOf?_eq_some_iff (value : Json) (multiplier : Float) :
    multiplierOf? value = some multiplier ↔ value.HoldsMultiplier multiplier := by
  -- A multiplier is a number that passes the test for one, and the test is a pair of conditions.
  rw [multiplierOf?, Option.filter_eq_some_iff, number?_eq_some_iff, isUsable, Bool.and_eq_true,
    decide_eq_true_iff]
  constructor
  · rintro ⟨number, finite, positive⟩
    exact ⟨number, finite, positive⟩
  · rintro ⟨number, finite, positive⟩
    exact ⟨number, finite, positive⟩

/-- The reader of shapes finds what a value holds. -/
theorem Shape.ofJson?_eq_some_iff (value : Json) (shape : Shape) :
    ofJson? value = some shape ↔ value.HoldsShape shape := by
  constructor
  · intro read
    -- Any record is a shape, since whatever it lacks has a default.
    cases value with
    | object entries =>
      rw [ofJson?] at read
      obtain rfl := Option.some.inj read
      exact .record entries
    | _ => simp [ofJson?] at read
  · rintro ⟨entries⟩
    rw [ofJson?]

/-- The values that hold a shape are the objects. -/
theorem Json.exists_holdsShape_iff (value : Json) :
    (∃ shape, value.HoldsShape shape) ↔ value.isObject = true := by
  constructor
  · rintro ⟨_, ⟨entries⟩⟩
    rfl
  · intro object
    cases value with
    | object entries => exact ⟨_, .record entries⟩
    | _ => cases object

namespace Garment

/-- The title of a document; without one it is empty. -/
def titleIn (document : Json) : String :=
  ((document.under? "title").bind Record.text?).getD ""

/-- Of named values the garment keeps the shapes. -/
theorem keeps_shapesOf (table : List (String × Json)) :
    Keeps Json.HoldsShape table (shapesOf table) :=
  keeps_filterMap Shape.ofJson?_eq_some_iff table

/-- Of labelled values the garment keeps the multipliers. -/
theorem keeps_sizesOf (table : List (String × Json)) :
    Keeps Json.HoldsMultiplier table (sizesOf table) :=
  keeps_filterMap Record.multiplierOf?_eq_some_iff table

/-- There is a shape among the entries of a value exactly when it holds an object. -/
theorem shapesOf_ne_nil_iff (shapes : Json) :
    shapesOf (entriesOf (some shapes)) ≠ [] ↔ shapes.HoldsObject := by
  -- Something is kept when some entry holds a shape, and those are the objects.
  rw [(keeps_shapesOf _).ne_nil_iff]
  simp only [Json.exists_holdsShape_iff]
  cases shapes with
  | object entries => simp [entriesOf, Json.HoldsObject]
  | _ => simp [entriesOf, Json.HoldsObject]

/-- The three ways in which loading a garment document can end. -/
theorem ofJson_cases (document : Json) :
    (document.under? "shapes" = none ∧ ofJson document = .error (.missingField "shapes")) ∨
    (∃ shapes, document.under? "shapes" = some shapes ∧ ¬ shapes.HoldsObject ∧
      ofJson document = .error (.noPanels (titleIn document))) ∨
    ∃ table garment, document.under? "shapes" = some (.object table) ∧
      (Json.object table).HoldsObject ∧ ofJson document = .ok garment ∧
      garment.panels = shapesOf table := by
  cases document with
  | object entries =>
    cases present : entries.lookup "shapes" with
    | none =>
      left
      -- Without a field of that name, the document has no panels to read.
      exact ⟨present, by simp [ofJson, present]⟩
    | some shapes =>
      right
      have panels := shapesOf_ne_nil_iff shapes
      by_cases holds : shapes.HoldsObject
      · -- Only an object holds another one, and its entries are the table.
        right
        obtain ⟨table, rfl, _⟩ := id holds
        have isEmpty := List.isEmpty_eq_false_iff.mpr (panels.mpr holds)
        have loaded : ∃ garment, ofJson (.object entries) = .ok garment ∧
            garment.panels = shapesOf table := by
          simp only [ofJson, present, isEmpty]
          exact ⟨_, rfl, rfl⟩
        obtain ⟨garment, loaded, kept⟩ := loaded
        exact ⟨table, garment, present, holds, loaded, kept⟩
      · left
        -- Nothing that is no object becomes a panel, so that none are left.
        have isEmpty := List.isEmpty_iff.mpr (not_not.mp (mt panels.mp holds))
        refine ⟨shapes, present, holds, ?_⟩
        simp only [ofJson, present, isEmpty]
        rfl
  | _ => exact .inl ⟨rfl, rfl⟩

variable {document : Json} {garment : Garment} {label : String}

/-- A size is found under a label only when the garment has it. -/
theorem mem_of_size {multiplier : Float} (found : garment.size label = .ok multiplier) :
    (label, multiplier) ∈ garment.sizes := by
  -- The label is looked up among the sizes, and only what is found there is given back.
  unfold size at found
  split at found
  · rename_i listed
    obtain rfl := Except.ok.inj found
    exact mem_of_lookup listed
  · cases found

/-- With distinct labels, each size of the garment is found under its label. -/
theorem size_of_mem {multiplier : Float} (unique : (garment.sizes.map Prod.fst).Nodup)
    (member : (label, multiplier) ∈ garment.sizes) : garment.size label = .ok multiplier := by
  simp only [size, lookup_of_mem unique member]

/-- Under a label that no size has, the error names it and the labels that there are. -/
theorem size_of_absent (absent : ∀ multiplier, (label, multiplier) ∉ garment.sizes) :
    garment.size label = .error (.unknownSize label (garment.sizes.map Prod.fst)) := by
  cases listed : garment.sizes.lookup label with
  | none => simp only [size, listed]
  | some multiplier => exact absurd (mem_of_lookup listed) (absent multiplier)

/--
What a garment takes from its document.

The panels are the objects in the table of shapes, and the sizes the multipliers in the table of
sizes, each in the order of the document. Labels are distinct, and a size is known exactly under
its label.
-/
structure TakenFrom (document : Json) (garment : Garment) : Prop where
  panels : ∃ table, document.under? "shapes" = some (.object table) ∧
    Keeps Json.HoldsShape table garment.panels
  somePanel : garment.panels ≠ []
  sizes : Keeps Json.HoldsMultiplier document.sizeTable garment.sizes
  labels : (garment.sizes.map Prod.fst).Nodup
  known : ∀ label multiplier,
    garment.size label = .ok multiplier ↔ (label, multiplier) ∈ garment.sizes
  unknown : ∀ label fault, garment.size label = .error fault ↔
    (∀ multiplier, (label, multiplier) ∉ garment.sizes) ∧
      fault = .unknownSize label (garment.sizes.map Prod.fst)

/-- A garment that loads takes its panels and sizes from the document. -/
theorem takenFrom_of_ofJson (wellFormed : document.WellFormed)
    (loaded : ofJson document = .ok garment) : TakenFrom document garment := by
  -- No key comes twice in the size table, and the labels are some of its keys.
  have sizes : Keeps Json.HoldsMultiplier document.sizeTable garment.sizes := by
    rw [sizes_of_ofJson loaded]
    exact keeps_sizesOf document.sizeTable
  have unique := (Json.nodup_sizeTable wellFormed).sublist sizes.names_sublist
  obtain ⟨_, failed⟩ | ⟨_, _, _, failed⟩ | ⟨table, other, present, holds, loads, panels⟩ :=
    ofJson_cases document
  · rw [failed] at loaded
    cases loaded
  · rw [failed] at loaded
    cases loaded
  · obtain rfl := Except.ok.inj (loads.symm.trans loaded)
    refine ⟨⟨table, present, ?_⟩, ?_, sizes, unique, ?_, ?_⟩
    · rw [panels]
      exact keeps_shapesOf table
    · rw [panels]
      exact (shapesOf_ne_nil_iff (.object table)).mpr holds
    · exact fun label multiplier => ⟨mem_of_size, size_of_mem unique⟩
    · intro label fault
      constructor
      · intro refused
        -- A size that the garment had under the label would have been found.
        have absent : ∀ multiplier, (label, multiplier) ∉ other.sizes := by
          intro multiplier member
          rw [size_of_mem unique member] at refused
          cases refused
        exact ⟨absent, Except.error.inj (refused.symm.trans (size_of_absent absent))⟩
      · rintro ⟨absent, rfl⟩
        exact size_of_absent absent

/--
A garment document loads exactly when it has shapes, and an object is among them.

Without shapes, the field is missing; with shapes of which none is an object, there are no panels.
-/
theorem loading_exact (document : Json) :
    (∀ field, ofJson document = .error (.missingField field) ↔
      field = "shapes" ∧ document.under? "shapes" = none) ∧
    (∀ title, ofJson document = .error (.noPanels title) ↔ title = titleIn document ∧
      ∃ shapes, document.under? "shapes" = some shapes ∧ ¬ shapes.HoldsObject) ∧
    ((∃ garment, ofJson document = .ok garment) ↔
      ∃ shapes, document.under? "shapes" = some shapes ∧ shapes.HoldsObject) ∧
    (document.WellFormed → ∀ garment, ofJson document = .ok garment →
      TakenFrom document garment) := by
  refine ⟨?_, ?_, ?_, fun wellFormed garment loaded => takenFrom_of_ofJson wellFormed loaded⟩
  -- In each of the three cases, the document tells which of the results it is.
  all_goals
    obtain ⟨absent, ended⟩ | ⟨shapes, present, holds, ended⟩ |
      ⟨table, garment, present, holds, ended, _⟩ := ofJson_cases document
  · simp [absent, ended, eq_comm]
  · simp [present, ended]
  · simp [present, ended]
  · simp [absent, ended]
  · simp [present, holds, ended, eq_comm]
  · simp [present, holds, ended]
  · simp [absent, ended]
  · simp [present, holds, ended]
  · simp [present, holds, ended]

/-- A document with a panel behind an empty one, and with unusable sizes between others. -/
def scarf : Json :=
  .object [("title", .text "Plain Scarf"),
    ("sizes", .object [("Short", .decimal 0.5), ("Flat", .whole 0), ("Long", .whole 1),
      ("Broken", .text "wide"), ("Wide", .text " 1.5 ")]),
    ("shapes", .object [("Nothing", .null), ("Body", .object [("height", .whole 4)])])]

/-- The scarf loads with its one panel, and with three sizes under their labels. -/
theorem scarf_loaded : scarf.WellFormed ∧ ∃ garment, ofJson scarf = .ok garment ∧
    garment.panels ≠ [] ∧ garment.size "Long" = .ok (Float.ofInt 1) ∧
    garment.size "Broken" = .error (.unknownSize "Broken" ["Short", "Long", "Wide"]) := by
  have wellFormed : scarf.WellFormed := by
    simp [scarf, Json.WellFormed, Json.EntriesWellFormed]
    decide +kernel
  obtain ⟨_, _, loads, taken⟩ := loading_exact scarf
  -- The first panel is no shape, so that the one behind it has to be the one that loads.
  obtain ⟨garment, loaded⟩ := loads.mpr
    ⟨_, rfl, _, rfl, ("Body", _), List.mem_cons_of_mem _ List.mem_cons_self, rfl⟩
  have scarfTaken := taken wellFormed garment loaded
  have labels : garment.sizes.map Prod.fst = ["Short", "Long", "Wide"] := by
    rw [sizes_of_ofJson loaded]
    decide +kernel
  -- The multiplier of the long size is a number, and that of the broken one is not.
  have long : ("Long", Float.ofInt 1) ∈ garment.sizes := by
    have usable : Json.HoldsMultiplier (.whole 1) (Float.ofInt 1) :=
      ⟨.whole 1, by decide +kernel, by decide +kernel⟩
    rw [sizes_of_ofJson loaded, sizesOf, List.mem_filterMap]
    refine ⟨("Long", .whole 1), .tail _ (.tail _ (.head _)), ?_⟩
    simp [(Record.multiplierOf?_eq_some_iff _ _).mpr usable]
  have broken : ∀ multiplier, ("Broken", multiplier) ∉ garment.sizes := by
    intro multiplier member
    have listed : "Broken" ∈ garment.sizes.map Prod.fst := List.mem_map.mpr ⟨_, member, rfl⟩
    rw [labels] at listed
    exact absurd listed (by decide)
  refine ⟨wellFormed, garment, loaded, scarfTaken.somePanel, (scarfTaken.known _ _).mpr long, ?_⟩
  rw [scarfTaken.unknown, labels]
  exact ⟨broken, rfl⟩

end Garment

end FlatKnit
