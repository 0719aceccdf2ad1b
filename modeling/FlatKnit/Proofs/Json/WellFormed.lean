import FlatKnit.Json.Reader
import FlatKnit.Proofs.Decimal.Equality

/-! Well-formed JSON values: what a document holds is one, and such a value equals itself. -/

namespace FlatKnit

section Entries

variable {α : Type} {key : String} {value : α}

/-- A key that is set keeps its place among the keys, or comes last. -/
theorem keys_setEntry (entries : List (String × α)) :
    (setEntry key value entries).map Prod.fst
      = if key ∈ entries.map Prod.fst then entries.map Prod.fst
        else entries.map Prod.fst ++ [key] := by
  induction entries with
  | nil => simp [setEntry]
  | cons entry rest ih =>
    obtain ⟨name, old⟩ := entry
    by_cases same : name = key
    · simp [setEntry, same]
    · -- The search goes on behind a key that is another one.
      have other : key ≠ name := fun equal => same equal.symm
      by_cases among : key ∈ rest.map Prod.fst
      · rw [if_pos among] at ih
        simp [setEntry, same, ih, List.mem_map.mp among]
      · rw [if_neg among] at ih
        rw [if_neg (by simpa [other] using among)]
        simp [setEntry, same, ih]

/-- Setting a key leaves no key twice. -/
theorem nodup_setEntry {entries : List (String × α)} (unique : (entries.map Prod.fst).Nodup) :
    ((setEntry key value entries).map Prod.fst).Nodup := by
  -- A key that is set is one that was there, or it is new and comes last.
  rw [keys_setEntry]
  split
  · exact unique
  · rename_i absent
    rw [← List.concat_eq_append]
    exact unique.concat absent

/-- What is among the entries after one is set is that one, or was there before. -/
theorem mem_setEntry {entries : List (String × α)} {entry : String × α}
    (member : entry ∈ setEntry key value entries) : entry = (key, value) ∨ entry ∈ entries := by
  -- The induction follows the search for the key, which stops at the first entry that has it.
  induction entries with
  | nil => simpa [setEntry] using member
  | cons first rest ih =>
    obtain ⟨name, old⟩ := first
    rw [setEntry] at member
    split at member
    · rename_i same
      obtain rfl := beq_iff_eq.mp same
      rcases List.mem_cons.mp member with rfl | later
      · exact .inl rfl
      · exact .inr (List.mem_cons_of_mem _ later)
    · rcases List.mem_cons.mp member with rfl | later
      · exact .inr List.mem_cons_self
      · rcases ih later with rfl | before
        · exact .inl rfl
        · exact .inr (List.mem_cons_of_mem _ before)

/-- Gathering sets the entries one after another. -/
theorem gatherEntries_eq (entries : List (String × α)) : gatherEntries entries
    = entries.foldl (fun gathered entry => setEntry entry.1 entry.2 gathered) [] :=
  rfl

/-- Gathered entries hold no key twice. -/
theorem nodup_gatherEntries (entries : List (String × α)) :
    ((gatherEntries entries).map Prod.fst).Nodup := by
  -- The keys are distinct before the first entry, and setting one more keeps them so.
  have general : ∀ gathered : List (String × α), (gathered.map Prod.fst).Nodup →
      ((entries.foldl (fun gathered entry => setEntry entry.1 entry.2 gathered) gathered).map
        Prod.fst).Nodup := by
    induction entries with
    | nil => exact fun _ unique => unique
    | cons entry rest ih => exact fun _ unique => ih _ (nodup_setEntry unique)
  rw [gatherEntries_eq]
  exact general [] List.nodup_nil

/-- Gathering entries makes up none of its own. -/
theorem mem_gatherEntries {entries : List (String × α)} {entry : String × α}
    (member : entry ∈ gatherEntries entries) : entry ∈ entries := by
  rw [gatherEntries_eq] at member
  -- What is gathered was gathered before, or is the entry that is set.
  have general : ∀ gathered : List (String × α),
      entry ∈ entries.foldl (fun gathered entry => setEntry entry.1 entry.2 gathered) gathered →
        entry ∈ gathered ∨ entry ∈ entries := by
    clear member
    induction entries with
    | nil => exact fun _ member => .inl member
    | cons first rest ih =>
      intro gathered member
      rcases ih _ member with before | later
      · rcases mem_setEntry before with rfl | earlier
        · exact .inr List.mem_cons_self
        · exact .inl earlier
      · exact .inr (List.mem_cons_of_mem _ later)
  rcases general [] member with none | among
  · cases none
  · exact among

/-- With distinct keys, the key of an entry leads to its value. -/
theorem lookup_of_mem {entries : List (String × α)} (unique : (entries.map Prod.fst).Nodup)
    (member : (key, value) ∈ entries) : entries.lookup key = some value := by
  induction entries with
  | nil => cases member
  | cons entry rest ih =>
    obtain ⟨absent, distinct⟩ := List.nodup_cons.mp unique
    rcases List.mem_cons.mp member with rfl | later
    · exact List.lookup_cons_self
    · -- A key that occurs later is not the first one.
      have other : (key == entry.1) = false := by
        rw [beq_eq_false_iff_ne]
        rintro rfl
        exact absent (List.mem_map.mpr ⟨_, later, rfl⟩)
      rw [List.lookup_cons, other]
      exact ih distinct later

/-- The value that a key leads to is that of an entry with this key. -/
theorem mem_of_lookup {entries : List (String × α)} (found : entries.lookup key = some value) :
    (key, value) ∈ entries := by
  obtain ⟨before, after, listed, -⟩ := List.lookup_eq_some_iff.mp found
  simp [listed]

/-- Nothing is found under a key that no entry has. -/
theorem lookup_absent {entries : List (String × α)} (absent : key ∉ entries.map Prod.fst) :
    entries.lookup key = none := by
  -- A lookup compares keys only.
  rw [List.lookup_eq_none_iff]
  intro entry member
  rw [bne_iff_ne]
  rintro rfl
  exact absent (List.mem_map_of_mem member)

/-- Something is found under every key that an entry has. -/
theorem exists_lookup {entries : List (String × α)} (present : key ∈ entries.map Prod.fst) :
    ∃ value, entries.lookup key = some value := by
  cases found : entries.lookup key with
  | some value => exact ⟨value, rfl⟩
  | none =>
    -- The entry with the key would have been found.
    obtain ⟨entry, member, rfl⟩ := List.mem_map.mp present
    simpa using List.lookup_eq_none_iff.mp found entry member

/-- With distinct keys, the order of the entries does not change what is found. -/
theorem lookup_reordered {entries other : List (String × α)}
    (unique : (entries.map Prod.fst).Nodup) (same : entries.Perm other) (key : String) :
    entries.lookup key = other.lookup key := by
  have otherUnique : (other.map Prod.fst).Nodup := (same.map Prod.fst).nodup_iff.mp unique
  cases found : entries.lookup key with
  | some value => exact (lookup_of_mem otherUnique (same.mem_iff.mp (mem_of_lookup found))).symm
  | none =>
    -- What the other entries led to would be among these entries, too.
    cases led : other.lookup key with
    | none => rfl
    | some value =>
      rw [lookup_of_mem unique (same.mem_iff.mpr (mem_of_lookup led))] at found
      cases found

end Entries

namespace Json

mutual

/-- Numbers are finite, and no object holds a key twice. -/
def WellFormed : Json → Prop
  | null => True
  | flag _ => True
  | whole _ => True
  | decimal value => value.isFinite = true
  | text _ => True
  | list items => AllWellFormed items
  | object entries => (entries.map Prod.fst).Nodup ∧ EntriesWellFormed entries

/-- All items of a list are well formed. -/
def AllWellFormed : List Json → Prop
  | [] => True
  | item :: items => WellFormed item ∧ AllWellFormed items

/-- The values of all entries are well formed. -/
def EntriesWellFormed : List (String × Json) → Prop
  | [] => True
  | (_, value) :: entries => WellFormed value ∧ EntriesWellFormed entries

end

/-- Entries are well formed when each value is. -/
theorem entriesWellFormed_iff (entries : List (String × Json)) :
    EntriesWellFormed entries ↔ ∀ entry ∈ entries, entry.2.WellFormed := by
  induction entries with
  | nil => simp [EntriesWellFormed]
  | cons entry rest ih => simp [EntriesWellFormed, ih]

mutual

/-- A well-formed value equals itself. -/
theorem same_self : ∀ {value : Json}, value.WellFormed → value.same value = true
  | null, _ => by rw [same]
  | flag _, _ => by rw [same, beq_self_eq_true]
  | whole _, _ => by rw [same, beq_self_eq_true]
  | decimal _, finite => by
    rw [WellFormed] at finite
    rw [same]
    exact beq_self_of_isFinite finite
  | text _, _ => by rw [same, beq_self_eq_true]
  | list _, holds => by
    rw [WellFormed] at holds
    rw [same]
    exact sameItems_self holds
  | object entries, holds => by
    rw [WellFormed] at holds
    obtain ⟨unique, values⟩ := holds
    rw [same, beq_self_eq_true, Bool.true_and]
    -- Since keys are distinct, each entry finds itself.
    exact sameEntries_self values fun _ _ member => lookup_of_mem unique member

/-- A list of well-formed values equals itself. -/
theorem sameItems_self : ∀ {items : List Json}, AllWellFormed items →
    sameItems items items = true
  | [], _ => by rw [sameItems]
  | item :: items, holds => by
    rw [AllWellFormed] at holds
    rw [sameItems, same_self holds.1, sameItems_self holds.2, Bool.true_and]

/-- Well-formed entries have equal ones in entries where their keys lead to their values. -/
theorem sameEntries_self {others : List (String × Json)} :
    ∀ {entries : List (String × Json)}, EntriesWellFormed entries →
      (∀ key value, (key, value) ∈ entries → others.lookup key = some value) →
        sameEntries entries others = true
  | [], _, _ => by rw [sameEntries]
  | (key, value) :: entries, holds, found => by
    rw [EntriesWellFormed] at holds
    -- Each entry is looked up among the others, and finds its own value again.
    have here := found key value List.mem_cons_self
    have later := sameEntries_self holds.2 fun name old member =>
      found name old (List.mem_cons_of_mem _ member)
    rw [sameEntries, here, later, Bool.and_true]
    exact same_self holds.1

end

end Json

namespace WrittenJson

/-- The number of a literal is well formed. -/
theorem wellFormed_number {literal : NumberLiteral} {value : Json}
    (read : literal.json? = some value) : value.WellFormed := by
  rw [NumberLiteral.json?] at read
  split at read
  · obtain rfl := Option.some.inj read
    simp [Json.WellFormed]
  · -- A double that is too large is no number of a document.
    split at read
    · rename_i finite
      obtain rfl := Option.some.inj read
      rw [Json.WellFormed]
      exact finite
    · cases read

mutual

/-- The value of a written document is well formed. -/
theorem wellFormed_value? : ∀ {depth : Nat} {written : WrittenJson} {value : Json},
    written.value? depth = some value → value.WellFormed
  | _, null, _, read => by
    rw [value?] at read
    obtain rfl := Option.some.inj read
    simp [Json.WellFormed]
  | _, flag _, _, read => by
    rw [value?] at read
    obtain rfl := Option.some.inj read
    simp [Json.WellFormed]
  | _, number _, _, read => by
    rw [value?] at read
    exact wellFormed_number read
  | _, text _, _, read => by
    rw [value?, Option.map_eq_some_iff] at read
    obtain ⟨_, _, rfl⟩ := read
    simp [Json.WellFormed]
  | 0, list _, _, read => by
    -- At the last depth no list is taken, so there is nothing to show.
    rw [value?] at read
    cases read
  | depth + 1, list items, _, read => by
    rw [value?, Option.map_eq_some_iff] at read
    obtain ⟨values, taken, rfl⟩ := read
    rw [Json.WellFormed]
    exact wellFormed_values? taken
  | 0, object _, _, read => by
    rw [value?] at read
    cases read
  | depth + 1, object entries, _, read => by
    rw [value?, Option.map_eq_some_iff] at read
    obtain ⟨values, taken, rfl⟩ := read
    have each := (Json.entriesWellFormed_iff values).mp (wellFormed_entryValues? taken)
    -- Gathering keeps one value for each key, and each is among those that were read.
    rw [Json.WellFormed, Json.entriesWellFormed_iff]
    exact ⟨nodup_gatherEntries values, fun entry member => each entry (mem_gatherEntries member)⟩

/-- The values of the items of a list are well formed. -/
theorem wellFormed_values? : ∀ {depth : Nat} {items : List WrittenJson} {values : List Json},
    values? depth items = some values → Json.AllWellFormed values
  | _, [], _, read => by
    rw [values?] at read
    obtain rfl := Option.some.inj read
    simp [Json.AllWellFormed]
  | _, item :: items, _, read => by
    rw [values?] at read
    obtain ⟨value, first, read⟩ := Option.bind_eq_some_iff.mp read
    obtain ⟨values, others, read⟩ := Option.bind_eq_some_iff.mp read
    obtain rfl := Option.some.inj read
    rw [Json.AllWellFormed]
    exact ⟨wellFormed_value? first, wellFormed_values? others⟩

/-- The values of the entries of an object are well formed. -/
theorem wellFormed_entryValues? : ∀ {depth : Nat} {entries : List (List Nat × WrittenJson)}
    {values : List (String × Json)},
    entryValues? depth entries = some values → Json.EntriesWellFormed values
  | _, [], _, read => by
    rw [entryValues?] at read
    obtain rfl := Option.some.inj read
    simp [Json.EntriesWellFormed]
  | _, (_, item) :: entries, _, read => by
    rw [entryValues?] at read
    obtain ⟨name, _, read⟩ := Option.bind_eq_some_iff.mp read
    obtain ⟨value, first, read⟩ := Option.bind_eq_some_iff.mp read
    obtain ⟨values, others, read⟩ := Option.bind_eq_some_iff.mp read
    obtain rfl := Option.some.inj read
    rw [Json.EntriesWellFormed]
    exact ⟨wellFormed_value? first, wellFormed_entryValues? others⟩

end

end WrittenJson

/-- Every document that is read is well formed. -/
theorem Json.wellFormed_read {text : String} {value : Json} (read : Json.read text = some value) :
    value.WellFormed := by
  obtain ⟨written, _, read⟩ := Option.bind_eq_some_iff.mp read
  exact WrittenJson.wellFormed_value? read

end FlatKnit
