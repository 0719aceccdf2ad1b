import FlatKnit.Garment
import FlatKnit.Proofs.Json.WellFormed

/-! Size tables: what a garment takes from the sizes of its document, by label and in order. -/

namespace FlatKnit

/-- With distinct keys, a key leads to what is read of its value, if something can be read. -/
theorem lookup_filterMap {α β : Type} {entries : List (String × α)} (read? : α → Option β)
    (unique : (entries.map Prod.fst).Nodup) (key : String) :
    (entries.filterMap fun (name, value) => (read? value).map fun kept => (name, kept)).lookup key
      = (entries.lookup key).bind read? := by
  induction entries with
  | nil => rfl
  | cons entry rest ih =>
    obtain ⟨name, value⟩ := entry
    obtain ⟨absent, distinct⟩ := List.nodup_cons.mp unique
    have later := ih distinct
    by_cases same : key = name
    · subst same
      -- The key does not come again, so a value that cannot be read leaves nothing to find.
      have noOther : rest.lookup key = none := by
        rw [List.lookup_eq_none_iff]
        intro entry member
        rw [bne_iff_ne]
        rintro rfl
        exact absent (List.mem_map.mpr ⟨_, member, rfl⟩)
      rw [noOther, Option.bind_none] at later
      cases read : read? value with
      | none => simp [read, later]
      | some kept => simp [read]
    · -- An entry with another key is passed over, whether or not its value can be read.
      have passed : (key == name) = false := beq_eq_false_iff_ne.mpr same
      cases read : read? value with
      | none => simpa [read, List.lookup_cons, passed] using later
      | some kept => simpa [read, List.lookup_cons, passed] using later

/-- The entries of the size table of a garment document. -/
def Json.sizeTable : Json → List (String × Json)
  | .object entries => Garment.entriesOf (entries.lookup "sizes")
  | _ => []

/-- No label comes twice in the size table of a well-formed document. -/
theorem Json.nodup_sizeTable {document : Json} (wellFormed : document.WellFormed) :
    (document.sizeTable.map Prod.fst).Nodup := by
  cases document with
  | object entries =>
    rw [WellFormed, entriesWellFormed_iff] at wellFormed
    rw [sizeTable]
    cases found : entries.lookup "sizes" with
    | none => exact List.nodup_nil
    | some table =>
      -- The table is a value of the document, and well formed as the document is.
      have held := wellFormed.2 ("sizes", table) (mem_of_lookup found)
      cases table with
      | object sizes =>
        rw [WellFormed] at held
        exact held.1
      | _ => exact List.nodup_nil
  | _ => exact List.nodup_nil

namespace Garment

/-- The first multiplier of a size table that can be used. -/
def firstMultiplier? (sizes : List (String × Json)) : Option Float :=
  sizes.findSome? fun entry => Record.multiplierOf? entry.2

/-- The multiplier of a label in a size table, if there is one and it can be used. -/
def multiplierAt? (sizes : List (String × Json)) (label : String) : Option Float :=
  (sizes.lookup label).bind Record.multiplierOf?

variable {document : Json} {garment : Garment}

/-- The sizes of a garment are those of its document that can be used. -/
theorem sizes_of_ofJson (loaded : ofJson document = .ok garment) :
    garment.sizes = sizesOf document.sizeTable := by
  cases document with
  | object entries =>
    -- A document that loads has shapes, of which at least one can be read.
    unfold ofJson at loaded
    dsimp only at loaded
    split at loaded
    · cases loaded
    · split at loaded
      · cases loaded
      · obtain rfl := Except.ok.inj loaded
        rfl
  | _ => cases loaded

/-- The first size of a garment is the first of its document that can be used. -/
theorem head?_sizes (loaded : ofJson document = .ok garment) :
    garment.sizes.head?.map Prod.snd = firstMultiplier? document.sizeTable := by
  -- The first of what is kept is the first that can be kept.
  rw [sizes_of_ofJson loaded, sizesOf, List.head?_filterMap, List.map_findSome?, firstMultiplier?]
  congr 1
  funext entry
  simp [Function.comp_def]

/-- The size of a label is its multiplier in the document, and without one the label is unknown. -/
theorem size_eq (wellFormed : document.WellFormed) (loaded : ofJson document = .ok garment)
    (label : String) :
    garment.size label = match multiplierAt? document.sizeTable label with
      | some multiplier => .ok multiplier
      | none => .error (.unknownSize label (garment.sizes.map Prod.fst)) := by
  -- No label is there twice, so that dropping unusable sizes cannot bring up another one.
  have found : garment.sizes.lookup label = multiplierAt? document.sizeTable label := by
    rw [sizes_of_ofJson loaded, multiplierAt?]
    exact lookup_filterMap Record.multiplierOf? (Json.nodup_sizeTable wellFormed) label
  cases known : multiplierAt? document.sizeTable label <;> simp [size, found, known]

end Garment

end FlatKnit
