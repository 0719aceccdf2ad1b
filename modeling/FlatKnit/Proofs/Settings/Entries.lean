import FlatKnit.Proofs.Json.WellFormed
import FlatKnit.Settings.Sections

/-! Entries of settings documents: what is read under the known keys, and what has no part in it. -/

namespace FlatKnit

namespace SettingsTree

/-- The entries of a table. -/
abbrev Entries := List (Option String × SettingsTree)

/-- The parts that stand under a key. -/
def under (key : String) (entries : Entries) : List SettingsTree :=
  entries.filterMap fun (name, part) => if name = some key then some part else none

/--
The known keys have the right types of parts, each given as a predicate.

Every key can be evaluated, and each known one comes once or not at all, with a part of its type.
-/
structure Typed (types : List (String × (SettingsTree → Prop))) (entries : Entries) : Prop where
  readable : ∀ entry ∈ entries, entry.1 ≠ none
  once : ∀ type ∈ types, (under type.1 entries).length ≤ 1
  right : ∀ type ∈ types, ∀ part ∈ under type.1 entries, type.2 part

section Under

variable {key : String} {part : SettingsTree} {entries rest : Entries}

/-- An entry under a key comes first among those that come behind it. -/
theorem under_cons_self : under key ((some key, part) :: rest) = part :: under key rest := by
  simp [under]

/-- An entry under another key is passed over. -/
theorem under_cons_other {name : Option String} (other : name ≠ some key) :
    under key ((name, part) :: rest) = under key rest := by
  simp [under, other]

/-- What stands under a key in entries stands there in those behind them as well. -/
theorem under_append (before after : Entries) :
    under key (before ++ after) = under key before ++ under key after :=
  List.filterMap_append

/-- What stands under a key still does with an entry in front. -/
theorem mem_under_cons {entry : Option String × SettingsTree} (member : part ∈ under key rest) :
    part ∈ under key (entry :: rest) := by
  -- The entry in front may add a part under the key, but takes none away.
  obtain ⟨name, first⟩ := entry
  by_cases same : name = some key
  · rw [same, under_cons_self]
    exact List.mem_cons_of_mem _ member
  · rwa [under_cons_other same]

/-- Entries have the right types when they have them with one more in front. -/
theorem Typed.tail {types : List (String × (SettingsTree → Prop))}
    {entry : Option String × SettingsTree} (typed : Typed types (entry :: rest)) :
    Typed types rest where
  readable later member := typed.readable later (List.mem_cons_of_mem _ member)
  once type member := by
    -- An entry in front can only add to how often a key is found.
    refine Nat.le_trans (List.Sublist.length_le ?_) (typed.once type member)
    exact (List.sublist_cons_self entry rest).filterMap _
  right type member part among := typed.right type member part (mem_under_cons among)

end Under

section Noise

/-- One change of entries that has no part in what is read under the known keys. -/
inductive Noise (known : List String) : Entries → Entries → Prop where
  -- The entries stand in another order.
  | reordered {entries other : Entries} (same : entries.Perm other) : Noise known entries other
  -- An entry is added under a key that is not known.
  | unknown (before after : Entries) (key : String) (part : SettingsTree) (unread : key ∉ known) :
      Noise known (before ++ after) (before ++ (some key, part) :: after)

variable {known : List String} {entries other : Entries} {key : String}

/-- The same parts stand under a known key, but for their order. -/
theorem Noise.under_perm (change : Noise known entries other) (member : key ∈ known) :
    (under key entries).Perm (under key other) := by
  cases change with
  | reordered same => exact same.filterMap _
  | unknown before after name part unread =>
    -- The added key is not the known one, so that its part is passed over.
    have unlike : some name ≠ some key := by
      rintro ⟨⟩
      exact unread member
    rw [under_append, under_append, under_cons_other unlike]

/-- A lone part under a known key stays there. -/
theorem Noise.under_eq (change : Noise known entries other) (member : key ∈ known)
    (once : (under key entries).length ≤ 1) : under key entries = under key other := by
  have same := change.under_perm member
  -- At most one part stands there, and one part has a single order.
  match found : under key entries with
  | [] =>
    rw [found] at same
    exact (List.nil_perm.mp same).symm
  | [part] =>
    rw [found] at same
    exact List.singleton_perm.mp same
  | _ :: _ :: _ => simp [found] at once

/-- The known keys have the right types before the change exactly when they have them after it. -/
theorem Noise.typed_iff {types : List (String × (SettingsTree → Prop))}
    (change : Noise (types.map Prod.fst) entries other) :
    Typed types entries ↔ Typed types other := by
  have same : ∀ type ∈ types, (under type.1 entries).Perm (under type.1 other) :=
    fun type member => change.under_perm (List.mem_map_of_mem member)
  -- The key that is added can be evaluated, and no other key is new.
  have readable : (∀ entry ∈ entries, entry.1 ≠ none) ↔ ∀ entry ∈ other, entry.1 ≠ none := by
    cases change with
    | reordered same => simp only [same.mem_iff]
    | unknown before after key part unread => simp [or_imp, forall_and]
  constructor
  · intro typed
    refine ⟨readable.mp typed.readable, fun type member => ?_, fun type member part among => ?_⟩
    · exact (same type member).length_eq ▸ typed.once type member
    · exact typed.right type member part ((same type member).mem_iff.mpr among)
  · intro typed
    refine ⟨readable.mpr typed.readable, fun type member => ?_, fun type member part among => ?_⟩
    · exact (same type member).length_eq ▸ typed.once type member
    · exact typed.right type member part ((same type member).mem_iff.mp among)

end Noise

section Readers

variable {α β : Type} {view : Settings → α} {fields : List (String × FieldReader)}
  {seen : List String} {entries : Entries} {settings read : Settings}

/-- A reader leaves a setting at a value, or as it was. -/
def Leaves (view : Settings → α) (value : Option α) (reader : FieldReader) (part : SettingsTree) :
    Prop :=
  ∀ ⦃settings read : Settings⦄, reader part settings = some read →
    view read = value.getD (view settings)

/-- A reader of one setting leaves it at what it has read. -/
theorem leaves_own {value? : SettingsTree → Option α} {set : α → Settings → Settings}
    (own : ∀ value settings, view (set value settings) = value) (part : SettingsTree) :
    Leaves view (value? part) (fun part settings => (value? part).map (set · settings)) part := by
  -- The part was read, and what was read was set.
  intro settings read done
  obtain ⟨value, found, rfl⟩ := Option.map_eq_some_iff.mp done
  rw [own, found, Option.getD_some]

/-- A reader of one setting leaves the others as they were. -/
theorem leaves_other {value? : SettingsTree → Option β} {set : β → Settings → Settings}
    (kept : ∀ value settings, view (set value settings) = view settings) (part : SettingsTree) :
    Leaves view none (fun part settings => (value? part).map (set · settings)) part := by
  intro settings read done
  obtain ⟨value, _, rfl⟩ := Option.map_eq_some_iff.mp done
  exact kept value settings

/-- What all readers leave as it was stays as it was. -/
theorem readEntries_other
    (others : ∀ field ∈ fields, ∀ part, Leaves view none field.2 part)
    (done : readEntries fields seen entries settings = some read) : view read = view settings := by
  -- The readers of the first entries change the settings that the later ones start from.
  induction entries generalizing seen settings with
  | nil =>
    obtain rfl := Option.some.inj done
    rfl
  | cons entry rest ih =>
    obtain ⟨_ | name, part⟩ := entry
    · cases done
    rw [readEntries] at done
    split at done
    case h_1 => exact ih done
    case h_2 reader known =>
      split at done
      case isTrue => cases done
      case isFalse =>
        obtain ⟨middle, first, later⟩ := Option.bind_eq_some_iff.mp done
        rw [ih later]
        exact others (name, reader) (mem_of_lookup known) part first

/--
A setting is left at what its reader makes of the part under its key, or else as it was.

A key that has been seen does not come again.
-/
theorem readEntries_own {key : String} {reader : FieldReader} {value : SettingsTree → Option α}
    (known : fields.lookup key = some reader)
    (own : ∀ part ∈ under key entries, Leaves view (value part) reader part)
    (others : ∀ field ∈ fields, field.1 ≠ key → ∀ part ∈ under field.1 entries,
      Leaves view none field.2 part)
    (done : readEntries fields seen entries settings = some read) :
    view read = (if key ∈ seen then none else (under key entries).head?.bind value).getD
      (view settings) := by
  -- The keys seen so far grow on the way, and the settings change.
  induction entries generalizing seen settings with
  | nil =>
    obtain rfl := Option.some.inj done
    simp [under]
  | cons entry rest ih =>
    obtain ⟨_ | name, part⟩ := entry
    · cases done
    have ownLater : ∀ later ∈ under key rest, Leaves view (value later) reader later :=
      fun later member => own later (mem_under_cons member)
    have othersLater : ∀ field ∈ fields, field.1 ≠ key → ∀ later ∈ under field.1 rest,
        Leaves view none field.2 later :=
      fun field member unlike later among => others field member unlike later (mem_under_cons among)
    rw [readEntries] at done
    split at done
    case h_1 unknown =>
      -- An unknown key is not the one of the setting.
      have unlike : some name ≠ some key := by
        rintro ⟨⟩
        simp [known] at unknown
      rw [under_cons_other unlike]
      exact ih ownLater othersLater done
    case h_2 found known' =>
      split at done
      case isTrue => cases done
      case isFalse unseen =>
        rw [List.contains_iff_mem] at unseen
        obtain ⟨middle, first, later⟩ := Option.bind_eq_some_iff.mp done
        have rested := ih ownLater othersLater later
        by_cases same : name = key
        · -- The setting is read here, and its key has been seen from here on.
          subst same
          obtain rfl := Option.some.inj (known.symm.trans known')
          have here := own part (by simp [under_cons_self]) first
          simp [rested, here, under_cons_self, unseen]
        · -- Another setting is read here, and the one in view is still to come.
          have kept := others (name, found) (mem_of_lookup known') same part
            (by simp [under_cons_self]) first
          have unlike : some name ≠ some key := by simpa using same
          rw [rested, kept, under_cons_other unlike]
          simp [Ne.symm same]

/-- Entries of the right types are read, if the readers accept these. -/
theorem exists_readEntries {types : List (String × (SettingsTree → Prop))}
    (accepts : ∀ field ∈ fields, ∃ type, (field.1, type) ∈ types ∧
      ∀ part, type part → ∀ settings, ∃ read, field.2 part settings = some read)
    (typed : Typed types entries) (fresh : ∀ key ∈ seen, under key entries = []) :
    ∃ read, readEntries fields seen entries settings = some read := by
  -- No key that has been seen comes later, so that no entry is refused as a second one.
  induction entries generalizing seen settings with
  | nil => exact ⟨settings, rfl⟩
  | cons entry rest ih =>
    obtain ⟨_ | name, part⟩ := entry
    · exact absurd rfl (typed.readable _ List.mem_cons_self)
    have freshLater : ∀ key ∈ seen, under key rest = [] := by
      intro key member
      exact List.eq_nil_iff_forall_not_mem.mpr fun later among =>
        List.eq_nil_iff_forall_not_mem.mp (fresh key member) later (mem_under_cons among)
    rw [readEntries]
    split
    case h_1 => exact ih typed.tail freshLater
    case h_2 reader known =>
      obtain ⟨type, listed, accepted⟩ := accepts (name, reader) (mem_of_lookup known)
      have unseen : ¬ seen.contains name = true := by
        rw [List.contains_iff_mem]
        intro member
        have none := fresh name member
        simp [under_cons_self] at none
      -- The key comes here, and so it does not come again.
      have gone : under name rest = [] := by
        have once := typed.once (name, type) listed
        simpa [under_cons_self] using once
      obtain ⟨middle, first⟩ :=
        accepted part (typed.right (name, type) listed part (by simp [under_cons_self])) settings
      obtain ⟨read, later⟩ := @ih (name :: seen) middle typed.tail
        (List.forall_mem_cons.mpr ⟨gone, freshLater⟩)
      rw [if_neg unseen]
      exact ⟨read, Option.bind_eq_some_iff.mpr ⟨middle, first, later⟩⟩

end Readers

end SettingsTree

end FlatKnit
