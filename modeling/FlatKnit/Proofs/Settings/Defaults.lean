import FlatKnit.Proofs.Chain
import FlatKnit.Proofs.Settings.Entries
import FlatKnit.Settings.Store

/-! Settings documents that say a part: what they leave out keeps its standard. -/

namespace FlatKnit

namespace Settings

open SettingsTree

/-- The settings that a document can say. -/
inductive Setting where
  | stitches
  | rows
  | size
  | sizeLabel
  | format
  | numbered
  | logLevel
  | logJson
  deriving Repr, DecidableEq

/-- The sections of a settings document. -/
inductive Section where
  | gauge
  | generation
  | output
  | logging
  deriving Repr, DecidableEq

namespace Section

/-- All sections. -/
def all : List Section :=
  [gauge, generation, output, logging]

/-- The key of a section. -/
def key : Section → String
  | gauge => "gauge"
  | generation => "generation"
  | output => "output"
  | logging => "logging"

/-- The settings in a section. -/
def settings : Section → List Setting
  | gauge => [.stitches, .rows]
  | generation => [.size, .sizeLabel]
  | output => [.format, .numbered]
  | logging => [.logLevel, .logJson]

end Section

namespace Setting

/-- The section that a setting is in. -/
def inside : Setting → Section
  | stitches | rows => .gauge
  | size | sizeLabel => .generation
  | format | numbered => .output
  | logLevel | logJson => .logging

/-- The key of a setting in its section. -/
def key : Setting → String
  | stitches => "stitches_per_four_inches"
  | rows => "rows_per_four_inches"
  | size => "size_modifier"
  | sizeLabel => "size_label"
  | format => "format"
  | numbered => "numbered"
  | logLevel => "level"
  | logJson => "json"

/-- The type of the values of a setting. -/
abbrev Value : Setting → Type
  | stitches | rows | size => Float
  | sizeLabel => Option String
  | format => OutputFormat
  | numbered | logJson => Bool
  | logLevel => String

/-- The value of a part for a setting; a part of another type has none. -/
def value? (document : FileFormat) : (setting : Setting) → SettingsTree → Option setting.Value
  | stitches | rows | size => number?
  | sizeLabel => label?
  | format => format? document
  | numbered | logJson => flag?
  | logLevel => text?

/-- The value of a setting. -/
def get : (setting : Setting) → Settings → setting.Value
  | stitches, settings => settings.gauge.stitches
  | rows, settings => settings.gauge.rows
  | size, settings => settings.size
  | sizeLabel, settings => settings.sizeLabel
  | format, settings => settings.format
  | numbered, settings => settings.numbered
  | logLevel, settings => settings.logLevel
  | logJson, settings => settings.logJson

/-- All settings, with another value for one of them. -/
def set : (setting : Setting) → setting.Value → Settings → Settings
  | stitches, value, settings =>
    { settings with gauge := { settings.gauge with stitches := value } }
  | rows, value, settings => { settings with gauge := { settings.gauge with rows := value } }
  | size, value, settings => { settings with size := value }
  | sizeLabel, value, settings => { settings with sizeLabel := value }
  | format, value, settings => { settings with format := value }
  | numbered, value, settings => { settings with numbered := value }
  | logLevel, value, settings => { settings with logLevel := value }
  | logJson, value, settings => { settings with logJson := value }

/-- A setting has the value that it was set to. -/
theorem get_set_self (setting : Setting) (value : setting.Value) (settings : Settings) :
    setting.get (setting.set value settings) = value := by
  cases setting <;> rfl

/-- Setting one setting does not change another one. -/
theorem get_set_other {setting other : Setting} (unlike : other ≠ setting) (value : other.Value)
    (settings : Settings) : setting.get (other.set value settings) = setting.get settings := by
  cases setting <;> cases other <;> first | rfl | exact absurd rfl unlike

/-- Settings are the same when every setting has the same value. -/
theorem ext {one other : Settings}
    (same : ∀ setting : Setting, setting.get one = setting.get other) : one = other := by
  -- Every field of the settings is the value of one of them.
  obtain ⟨⟨_, _⟩, _, _, _, _, _, _⟩ := one
  obtain ⟨⟨_, _⟩, _, _, _, _, _, _⟩ := other
  have stitches := same .stitches
  have rows := same .rows
  have size := same .size
  have sizeLabel := same .sizeLabel
  have format := same .format
  have numbered := same .numbered
  have logLevel := same .logLevel
  have logJson := same .logJson
  simp only [get] at stitches rows size sizeLabel format numbered logLevel logJson
  simp only [stitches, rows, size, sizeLabel, format, numbered, logLevel, logJson]

/-- The reader of a setting. -/
def reader (document : FileFormat) (setting : Setting) : FieldReader :=
  fun part settings => (setting.value? document part).map (setting.set · settings)

end Setting

/-- The readers of the settings in a section, by key. -/
def Section.fields (document : FileFormat) (inside : Section) : List (String × FieldReader) :=
  inside.settings.map fun setting => (setting.key, setting.reader document)

/-- The sections are read by their keys, each by the readers of its settings. -/
theorem sections_eq (document : FileFormat) : sections document =
    Section.all.map fun inside => (inside.key, readFields document (inside.fields document)) :=
  rfl

/-- The types of what stands under the keys of a section: each setting must have a value there. -/
def Section.types (document : FileFormat) (inside : Section) :
    List (String × (SettingsTree → Prop)) :=
  inside.settings.map fun setting => (setting.key, fun part => setting.value? document part ≠ none)

/-- A part is a table whose known keys have the right types. -/
def IsTable (types : List (String × (SettingsTree → Prop))) (part : SettingsTree) : Prop :=
  ∃ fields, part = .table fields ∧ Typed types fields

/-- The types of the sections themselves: tables of settings. -/
def sectionTypes (document : FileFormat) : List (String × (SettingsTree → Prop)) :=
  Section.all.map fun inside => (inside.key, IsTable (inside.types document))

/--
Entries of a document in table form, with values of the right types.

Any section may be missing, and so may any setting of a section.
-/
def WellTyped (document : FileFormat) (entries : Entries) : Prop :=
  Typed (sectionTypes document) entries

/-- What stands under a key in a table; other parts have nothing there. -/
def inTable (key : String) : SettingsTree → Option SettingsTree
  | .table fields => (under key fields).head?
  | _ => none

/-- What stands under the key of a setting in its section. -/
def Setting.found (setting : Setting) (entries : Entries) : Option SettingsTree :=
  (under setting.inside.key entries).head?.bind (inTable setting.key)

/-- The value that a document says for a setting, if it says any. -/
def Setting.said (document : FileFormat) (entries : Entries) (setting : Setting) :
    Option setting.Value :=
  (setting.found entries).bind (setting.value? document)

section Reading

variable {document : FileFormat} {entries : Entries} {settings : Settings}

/-- Every section is read by its key. -/
theorem lookup_sections (document : FileFormat) (inside : Section) :
    (sections document).lookup inside.key =
      some (readFields document (inside.fields document)) := by
  cases inside <;> rfl

/-- Every setting is read by its key. -/
theorem lookup_fields (document : FileFormat) (setting : Setting) :
    (setting.inside.fields document).lookup setting.key = some (setting.reader document) := by
  cases setting <;> rfl

/-- The settings in a section are those that are inside it. -/
theorem inside_of_mem {inside : Section} {setting : Setting} (member : setting ∈ inside.settings) :
    setting.inside = inside := by
  -- Both are finite tables.
  revert member
  cases inside <;> cases setting <;> decide

/-- A setting is one of those in the section that it is inside. -/
theorem Setting.mem_inside (setting : Setting) : setting ∈ setting.inside.settings := by
  cases setting <;> decide

/-- The readers of the settings in a section accept the right types. -/
theorem accepts_fields (document : FileFormat) (inside : Section) :
    ∀ field ∈ inside.fields document, ∃ type, (field.1, type) ∈ inside.types document ∧
      ∀ part, type part → ∀ settings, ∃ read, field.2 part settings = some read := by
  -- A part has the type of a setting when a value is found in it, and then the reader sets that
  -- value.
  intro field member
  obtain ⟨setting, listed, rfl⟩ := List.mem_map.mp member
  refine ⟨_, List.mem_map_of_mem listed, fun part has settings => ?_⟩
  obtain ⟨value, found⟩ := Option.ne_none_iff_exists'.mp has
  exact ⟨setting.set value settings, by simp [Setting.reader, found]⟩

/-- The readers of the sections accept tables of settings of the right types. -/
theorem accepts_sections (document : FileFormat) :
    ∀ field ∈ sections document, ∃ type, (field.1, type) ∈ sectionTypes document ∧
      ∀ part, type part → ∀ settings, ∃ read, field.2 part settings = some read := by
  rw [sections_eq]
  intro field member
  obtain ⟨inside, listed, rfl⟩ := List.mem_map.mp member
  -- The table of a section is read as a document is, by readers that accept what it holds.
  refine ⟨_, List.mem_map_of_mem listed, ?_⟩
  rintro _ ⟨fields, rfl, typed⟩ settings
  exact exists_readEntries (accepts_fields document inside) typed (by simp)

/-- What stands under the key of a section is a table of settings of the right types. -/
theorem WellTyped.isTable (typed : WellTyped document entries) (inside : Section) :
    ∀ part ∈ under inside.key entries, IsTable (inside.types document) part := by
  have listed : inside ∈ Section.all := by cases inside <;> decide
  exact typed.right _ (List.mem_map_of_mem listed)

/-- A setting is left at the value under its key, or as it was. -/
theorem leaves_setting (setting : Setting) (part : SettingsTree) :
    Leaves setting.get (setting.value? document part) (setting.reader document) part :=
  leaves_own setting.get_set_self part

/-- The reader of another setting leaves a setting as it was. -/
theorem leaves_other_setting {setting other : Setting} (unlike : other ≠ setting)
    (part : SettingsTree) : Leaves setting.get none (other.reader document) part :=
  leaves_other (Setting.get_set_other unlike) part

/-- A table of settings leaves a setting of its section at what it says, or as it was. -/
theorem leaves_own_section (setting : Setting) (fields : Entries) :
    Leaves setting.get ((inTable setting.key (.table fields)).bind (setting.value? document))
      (readFields document (setting.inside.fields document)) (.table fields) := by
  intro settings read done
  -- A field under another key is that of another setting, which leaves this one as it was.
  have others : ∀ field ∈ setting.inside.fields document, field.1 ≠ setting.key →
      ∀ part ∈ under field.1 fields, Leaves setting.get none field.2 part := by
    intro field member unlike part _
    obtain ⟨other, _, rfl⟩ := List.mem_map.mp member
    exact leaves_other_setting (fun same => unlike (congrArg Setting.key same)) part
  have result := readEntries_own (lookup_fields document setting)
    (fun part _ => leaves_setting setting part) others done
  rw [if_neg List.not_mem_nil] at result
  exact result

/-- A table of settings leaves the settings of other sections as they were. -/
theorem leaves_other_section {setting : Setting} {inside : Section}
    (unlike : inside ≠ setting.inside) (fields : Entries) :
    Leaves setting.get none (readFields document (inside.fields document)) (.table fields) := by
  intro settings read done
  show setting.get read = setting.get settings
  -- A setting is inside one section only.
  refine readEntries_other (fun field member => ?_) done
  obtain ⟨other, listed, rfl⟩ := List.mem_map.mp member
  refine leaves_other_setting ?_
  rintro rfl
  exact unlike (inside_of_mem listed).symm

/-- A setting is read from where a document says it, and is its standard where it does not. -/
theorem get_of_ofTree (typed : WellTyped document entries)
    (read : ofTree document (.table entries) = some settings) (setting : Setting) :
    setting.get settings = (setting.said document entries).getD (setting.get standard) := by
  -- The sections are read by their keys, just as the settings are read in each of them.
  have own : ∀ part ∈ under setting.inside.key entries,
      Leaves setting.get ((inTable setting.key part).bind (setting.value? document))
        (readFields document (setting.inside.fields document)) part := by
    intro part member
    obtain ⟨fields, rfl, _⟩ := typed.isTable setting.inside part member
    exact leaves_own_section setting fields
  have others : ∀ field ∈ sections document, field.1 ≠ setting.inside.key →
      ∀ part ∈ under field.1 entries, Leaves setting.get none field.2 part := by
    rw [sections_eq]
    intro field member unlike part among
    obtain ⟨inside, _, rfl⟩ := List.mem_map.mp member
    obtain ⟨fields, rfl, _⟩ := typed.isTable inside part among
    exact leaves_other_section (fun same => unlike (congrArg Section.key same)) fields
  have result := readEntries_own (lookup_sections document setting.inside) own others read
  rw [if_neg List.not_mem_nil] at result
  rw [result, Setting.said, Setting.found, Option.bind_assoc]

/--
A document of the right types is read, setting by setting: each one is what the document says, or
its standard where the document does not say it.
-/
theorem exists_ofTree (typed : WellTyped document entries) : ∃ settings : Settings,
    ofTree document (.table entries) = some settings ∧ ∀ setting : Setting,
      setting.get settings = (setting.said document entries).getD (setting.get standard) := by
  -- Every part has the right type, so that no reader fails; what is read is then known setting by
  -- setting.
  obtain ⟨settings, read⟩ : ∃ settings, ofTree document (.table entries) = some settings :=
    exists_readEntries (accepts_sections document) typed (by simp)
  exact ⟨settings, read, get_of_ofTree typed read⟩

end Reading

section Changes

/--
One change of a document that does not change its settings.

It is made among the sections, or among the settings in one of them.
-/
inductive Rearranged : Entries → Entries → Prop where
  | sections {entries other : Entries}
      (change : Noise (Section.all.map Section.key) entries other) : Rearranged entries other
  | inside (before after : Entries) (inside : Section) {fields other : Entries}
      (change : Noise (inside.settings.map Setting.key) fields other) :
      Rearranged (before ++ (some inside.key, .table fields) :: after)
        (before ++ (some inside.key, .table other) :: after)

variable {document : FileFormat} {entries other : Entries}

/-- Sections with the same key are the same. -/
theorem key_injective {one other : Section} (same : one.key = other.key) : one = other := by
  revert same
  cases one <;> cases other <;> decide

/-- The parts under the key of a section, where one of its tables is changed. -/
theorem under_changed (before after : Entries) (inside : Section) (part : SettingsTree)
    (other : Section) :
    under other.key (before ++ (some inside.key, part) :: after) =
      under other.key before ++ (if inside = other then [part] else []) ++
        under other.key after := by
  rw [under_append]
  -- The changed table is under one key only, since no two sections share theirs.
  by_cases same : inside = other
  · rw [same, under_cons_self, if_pos rfl, List.append_assoc]
    rfl
  · have unlike : some inside.key ≠ some other.key := by
      rintro keys
      exact same (key_injective (Option.some.inj keys))
    rw [under_cons_other unlike, if_neg same, List.append_nil]

/-- A table in the place of another one fits when it has the right types as well. -/
theorem wellTyped_replace {before after : Entries} {inside : Section} {part replaced : SettingsTree}
    (same : IsTable (inside.types document) part → IsTable (inside.types document) replaced)
    (typed : WellTyped document (before ++ (some inside.key, part) :: after)) :
    WellTyped document (before ++ (some inside.key, replaced) :: after) := by
  -- Under the keys of other sections stands what stood there before.
  constructor
  · -- The keys are the same as before, and so all of them can be read.
    have readable := typed.readable
    simp only [List.forall_mem_append, List.forall_mem_cons] at readable ⊢
    exact readable
  · -- One entry takes the place of one, so that no type is given twice.
    intro type member
    have once := typed.once type member
    obtain ⟨other, _, rfl⟩ := List.mem_map.mp member
    rw [under_changed] at once ⊢
    by_cases here : inside = other
    · rw [if_pos here] at once ⊢
      simpa using once
    · rw [if_neg here] at once ⊢
      exact once
  · intro type member found among
    have right := typed.right type member
    obtain ⟨other, _, rfl⟩ := List.mem_map.mp member
    rw [under_changed] at right among
    by_cases here : inside = other
    · subst here
      rw [if_pos rfl] at right among
      simp only [List.mem_append, List.mem_singleton] at right among
      -- What stood before or behind the entry is unchanged, and the entry is a table if it was one.
      rcases among with (earlier | rfl) | later
      · exact right found (.inl (.inl earlier))
      · exact same (right part (.inl (.inr rfl)))
      · exact right found (.inr later)
    · rw [if_neg here] at right among
      exact right found among

/-- The keys of a section are those of its settings, in any format. -/
theorem types_keys (document : FileFormat) (inside : Section) :
    (inside.types document).map Prod.fst = inside.settings.map Setting.key := by
  simp [Section.types, Function.comp_def]

/-- The right types are kept by a change, and they were there before it. -/
theorem Rearranged.wellTyped_iff (change : Rearranged entries other) :
    WellTyped document entries ↔ WellTyped document other := by
  cases change with
  | sections change => exact @Noise.typed_iff _ _ (sectionTypes document) change
  | inside before after inside change =>
    rename_i fields changed
    -- The table has the right types before its own change exactly when it has them after it.
    rw [← types_keys document] at change
    constructor
    · refine wellTyped_replace ?_
      rintro ⟨_, ⟨⟩, typed⟩
      exact ⟨changed, rfl, change.typed_iff.mp typed⟩
    · refine wellTyped_replace ?_
      rintro ⟨_, ⟨⟩, typed⟩
      exact ⟨fields, rfl, change.typed_iff.mpr typed⟩

/-- What stands under the key of a setting stands there after a change. -/
theorem Rearranged.found_eq (change : Rearranged entries other)
    (typed : WellTyped document entries) (setting : Setting) :
    setting.found entries = setting.found other := by
  have listed : setting.inside ∈ Section.all := by cases setting <;> decide
  have once := typed.once _ (List.mem_map_of_mem listed)
  cases change with
  | sections change =>
    rw [Setting.found, Setting.found, change.under_eq (List.mem_map_of_mem listed) once]
  | inside before after inside change =>
    rename_i fields changed
    rw [Setting.found, Setting.found, under_changed, under_changed]
    rw [under_changed] at once
    by_cases here : inside = setting.inside
    · subst here
      -- The changed table is the only one under the key.
      obtain ⟨_, ⟨⟩, inTyped⟩ := typed.isTable setting.inside (.table fields) (by
        rw [under_changed]
        simp)
      have inOnce := inTyped.once _ (List.mem_map_of_mem setting.mem_inside)
      have same := change.under_eq (List.mem_map_of_mem setting.mem_inside) inOnce
      have first : under setting.inside.key before = [] := by
        rw [if_pos rfl] at once
        simp only [List.length_append, List.length_singleton] at once
        exact List.eq_nil_of_length_eq_zero (by omega)
      rw [first, if_pos rfl, if_pos rfl]
      exact congrArg List.head? same
    · -- The changed table is that of another section.
      rw [if_neg here, if_neg here]

/-- Any number of changes keep the right types, and what stands under the keys of the settings. -/
theorem eqvGen_rearranged (same : Relation.EqvGen Rearranged entries other) :
    (WellTyped document entries ↔ WellTyped document other) ∧
      (WellTyped document entries → ∀ setting : Setting,
        setting.found entries = setting.found other) := by
  -- The types are carried along, since what is found is kept only where they are right.
  induction same with
  | rel _ _ change => exact ⟨change.wellTyped_iff, change.found_eq⟩
  | refl _ => exact ⟨Iff.rfl, fun _ _ => rfl⟩
  | symm _ _ _ ih =>
    obtain ⟨types, found⟩ := ih
    exact ⟨types.symm, fun typed setting => (found (types.mpr typed) setting).symm⟩
  | trans _ _ _ _ _ first second =>
    obtain ⟨types, found⟩ := first
    obtain ⟨types', found'⟩ := second
    refine ⟨types.trans types', fun typed setting => ?_⟩
    rw [found typed setting, found' (types.mp typed) setting]

end Changes

section Formats

variable {one other : FileFormat} {entries : Entries}

/-- A part that has a value for a setting in both formats has the same in both. -/
theorem Setting.value?_eq (setting : Setting) {part : SettingsTree}
    (inOne : setting.value? one part ≠ none) (inOther : setting.value? other part ≠ none) :
    setting.value? one part = setting.value? other part := by
  cases setting
  case format =>
    -- Only here is the format asked: whether the part under the name of an output format is idle.
    simp only [Setting.value?] at inOne inOther ⊢
    unfold format? at inOne inOther ⊢
    split at inOne <;> simp_all
  all_goals rfl

/-- What stands under the key of a setting has a value. -/
theorem value_of_found {setting : Setting} {part : SettingsTree} (typed : WellTyped one entries)
    (found : setting.found entries = some part) : setting.value? one part ≠ none := by
  -- The section is a table of settings, and the part is among those under the key in it.
  obtain ⟨table, among, inside⟩ := Option.bind_eq_some_iff.mp found
  obtain ⟨fields, rfl, inTyped⟩ :=
    typed.isTable setting.inside table (List.mem_of_mem_head? among)
  exact inTyped.right _ (List.mem_map_of_mem setting.mem_inside) part
    (List.mem_of_mem_head? inside)

/-- A document says the same in both formats, if it has the right types in both. -/
theorem said_eq (inOne : WellTyped one entries) (inOther : WellTyped other entries)
    (setting : Setting) : setting.said one entries = setting.said other entries := by
  -- What is found does not depend on the format, and a part of the right type reads alike in both.
  unfold Setting.said
  cases found : setting.found entries with
  | none => rfl
  | some part => exact setting.value?_eq (value_of_found inOne found) (value_of_found inOther found)

end Formats

section Documents

/-- The tree that the text of a document holds, if it is a text of its format. -/
def treeOf (document : FileFormat) (text : String) : Option SettingsTree :=
  match document with
  | .json => (JsonText.read text).map ofWritten
  | .toml => (Toml.read text).map fun entries => .table (ofTomlEntries entries)

variable {document : FileFormat} {text : String} {entries : Entries}

/-- Settings are read from the tree of a document. -/
theorem parse_of_treeOf {part : SettingsTree} {settings : Settings}
    (held : treeOf document text = some part) (read : ofTree document part = some settings) :
    parse document text = .ok settings := by
  -- In both formats the tree of the text is what the settings are read from.
  cases document with
  | json =>
    rw [treeOf] at held
    simp only [parse, TextLayer.parse, TextLayer.own, held, Option.bind_some, read]
  | toml =>
    rw [treeOf] at held
    simp only [parse, TextLayer.parse, TextLayer.own, held, Option.bind_some, read]

/--
A document lies over the standard, setting by setting.

Whatever sections and settings it leaves out, each setting is what it says, or else the standard.
Unknown keys, the order of keys, and the format of the document have no part in the settings.
-/
theorem parse_overStandard (held : treeOf document text = some (.table entries))
    (typed : WellTyped document entries) : ∃ settings : Settings,
      parse document text = .ok settings ∧
      (∀ setting : Setting,
        setting.get settings = (setting.said document entries).getD (setting.get standard)) ∧
      (∀ tree path, FileFormat.ofPath path = .ok document → tree.read path = .ok text →
        load tree path = settings.checked) ∧
      ∀ document' text' entries', treeOf document' text' = some (.table entries') →
        WellTyped document' entries' → Relation.EqvGen Rearranged entries entries' →
          parse document' text' = .ok settings := by
  obtain ⟨settings, read, values⟩ := exists_ofTree typed
  have parsed := parse_of_treeOf held read
  refine ⟨settings, parsed, values, ?_, ?_⟩
  · intro tree path format told
    rw [load, TextLayer.load, format, ok_bind, told, mapError_ok, ok_bind]
    exact congrArg (· >>= checked) parsed
  · intro document' text' entries' held' typed' same
    obtain ⟨settings', read', values'⟩ := exists_ofTree typed'
    -- The changes are made in the first document, which has the right types in either format.
    have inOther : WellTyped document' entries := (eqvGen_rearranged same).1.mpr typed'
    have found := (eqvGen_rearranged same).2 typed
    have settled : settings' = settings := by
      refine Setting.ext fun setting => ?_
      rw [values, values', said_eq typed inOther, Setting.said, Setting.said, found]
    exact settled ▸ parse_of_treeOf held' read'

/-- A JSON document that says one setting, beside a section that nothing reads. -/
def loggedJson : String :=
  "\x7b\"logging\": \x7b\"json\": true\x7d, \"colour\": null\x7d"

/-- A TOML document that says the same, beside a setting that nothing reads. -/
def loggedToml : String :=
  "[logging]\nyarn = 'wool'\njson = true\n"

/-- The entries of the document in JSON. -/
def loggedEntries : Entries :=
  [(some "logging", .table [(some "json", .flag true)]), (some "colour", .null)]

/-- The entries of the document have the right types in either format. -/
theorem wellTyped_logged (document : FileFormat) : WellTyped document loggedEntries where
  readable := by simp [loggedEntries]
  once type member := by
    obtain ⟨inside, _, rfl⟩ := List.mem_map.mp member
    cases inside <;> simp [loggedEntries, under, Section.key]
  right type member part among := by
    obtain ⟨inside, _, rfl⟩ := List.mem_map.mp member
    -- Only the table of the log has an entry, so that under any other section there is nothing to
    -- type.
    cases inside with
    | logging =>
      obtain rfl := List.mem_singleton.mp among
      refine ⟨_, rfl, by simp, ?_, ?_⟩ <;>
        simp [Section.types, Section.settings, under, Setting.key, Setting.value?, flag?]
    | _ => cases among

/-- Both documents are read as the standard settings with a log in JSON. -/
theorem logged_overStandard :
    parse .json loggedJson = .ok { standard with logJson := true } ∧
      parse .toml loggedToml = .ok { standard with logJson := true } := by
  have inJson : treeOf .json loggedJson = some (.table loggedEntries) := by cbv
  have inToml : treeOf .toml loggedToml = some (.table
      [(some "logging", .table [(some "yarn", .text "wool"), (some "json", .flag true)])]) := by
    cbv
  -- One change takes the unknown section away, another one adds the unknown setting.
  have same : Relation.EqvGen Rearranged loggedEntries
      [(some "logging", .table [(some "yarn", .text "wool"), (some "json", .flag true)])] := by
    refine .trans _ _ _ (.symm _ _ (.rel _ _ (.sections (.unknown [_] [] "colour" .null
      (by decide))))) ?_
    exact .rel _ _ (.inside [] [] .logging (.unknown [] [_] "yarn" (.text "wool") (by decide)))
  obtain ⟨settings, parsed, values, _, others⟩ := parse_overStandard inJson (wellTyped_logged .json)
  obtain rfl : settings = { standard with logJson := true } := by
    refine Setting.ext fun setting => (values setting).trans ?_
    cases setting <;> rfl
  have typed := (eqvGen_rearranged same).1.mp (wellTyped_logged .toml)
  exact ⟨parsed, others .toml loggedToml _ inToml typed same⟩

end Documents

end Settings

end FlatKnit
