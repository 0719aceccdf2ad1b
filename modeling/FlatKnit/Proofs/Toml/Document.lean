import FlatKnit.Proofs.Json.WellFormed
import FlatKnit.Proofs.Toml.Value

/-! TOML documents: sections of entries, one a line, are read back as tables of those entries. -/

namespace FlatKnit

section Entries

variable {α : Type} {key : String}

/-- The last entry is found, if no other one has its key. -/
theorem lookup_last {entries : List (String × α)} (absent : key ∉ entries.map Prod.fst)
    (value : α) :
    (entries ++ [(key, value)]).lookup key = some value := by
  -- No entry in front of it has the key, so that the search reaches the end.
  simp [List.lookup_append, lookup_absent absent]

/-- The last entry is replaced, if no other one has its key. -/
theorem setEntry_last {entries : List (String × α)} (absent : key ∉ entries.map Prod.fst)
    (old value : α) : setEntry key value (entries ++ [(key, old)]) = entries ++ [(key, value)] := by
  -- Every entry in front of it has another key and is passed over unchanged.
  induction entries with
  | nil => simp [setEntry]
  | cons entry entries ih =>
    rw [List.map_cons, List.mem_cons, not_or] at absent
    simp [setEntry, Ne.symm absent.1, ih absent.2]

end Entries

namespace TomlEntries

variable {header key : String} {done inner : TomlEntries}

/-- A header that is new opens an empty table behind those there are. -/
theorem openTable_new (absent : header ∉ done.map Prod.fst) :
    openTable [] header done = some (done ++ [(header, .table .stated [])]) := by
  -- Nothing is stored under the name yet that the table could clash with.
  simp [openTable, within, lookup_absent absent]

/-- A new key is added behind the entries of the table that was opened last. -/
theorem addValueUnder_last (absent : header ∉ done.map Prod.fst) (fresh : key ∉ inner.map Prod.fst)
    (value : Toml) :
    addValueUnder [header] [] key value (done ++ [(header, .table .stated inner)]) =
      some (done ++ [(header, .table .stated (inner ++ [(key, .value value)]))]) := by
  -- Inside the open table the key is as new as the header was outside.
  have added : addValue [] key value inner = some (inner ++ [(key, .value value)]) := by
    simp [addValue, within, lookup_absent fresh]
  simp [addValueUnder, within, lookup_last absent, setEntry_last absent, added]

end TomlEntries

namespace TomlText

section Keys

/-- A key is written without quotes. -/
structure IsKey (key : String) : Prop where
  nonempty : key.toList ≠ []
  bare : ∀ character ∈ key.toList, isBare character = true

/-- Whether a key is written without quotes can be decided character by character. -/
instance (key : String) : Decidable (IsKey key) :=
  decidable_of_iff (key.toList ≠ [] ∧ key.toList.all isBare = true)
    ⟨fun ⟨nonempty, bare⟩ => ⟨nonempty, List.all_eq_true.mp bare⟩,
      fun isKey => ⟨isKey.nonempty, List.all_eq_true.mpr isKey.bare⟩⟩

variable {key : String} {rest : List Char}

/-- A key starts with a bare character. -/
theorem IsKey.starts (isKey : IsKey key) :
    ∃ first others, key.toList = first :: others ∧ isBare first = true := by
  -- A key has a character, and all of its characters are bare.
  obtain ⟨first, others, split⟩ := List.exists_cons_of_ne_nil isKey.nonempty
  exact ⟨first, others, split, isKey.bare first (split ▸ List.mem_cons_self)⟩

/-- What starts a line with a key cannot start any other line, nor is it skipped. -/
structure StartsKey (first : Char) : Prop where
  notFeed : first ≠ '\n'
  notReturn : first ≠ '\r'
  notSpace : isSpace first = false
  notComment : first ≠ '#'
  notHeader : first ≠ '['
  notDouble : first ≠ '"'
  notSingle : first ≠ '\x27'

/-- A bare character starts a key and nothing else. -/
theorem startsKey_of_isBare {first : Char} (bare : isBare first = true) : StartsKey first := by
  -- None of the characters that start another kind of line is bare.
  have other {character : Char} (special : isBare character = false) : first ≠ character := by
    rintro rfl
    rw [special] at bare
    cases bare
  refine ⟨other rfl, other rfl, ?_, other rfl, other rfl, other rfl, other rfl⟩
  rw [isSpace, Bool.or_eq_false_iff, beq_eq_false_iff_ne, beq_eq_false_iff_ne]
  exact ⟨other rfl, other rfl⟩

/-- No blanks or line breaks are skipped before a key. -/
theorem StartsKey.skipBlankLines_cons {first : Char} (starts : StartsKey first)
    (others : List Char) :
    skipBlankLines (first :: others) = first :: others := by
  -- What is skipped begins with a line break or a blank, and the key with neither.
  obtain ⟨notFeed, notReturn, notSpace, _, _, _, _⟩ := starts
  rw [isSpace, Bool.or_eq_false_iff, beq_eq_false_iff_ne, beq_eq_false_iff_ne] at notSpace
  unfold skipBlankLines
  split <;> simp_all

/-- A bare key is read up to what is not bare. -/
theorem readKeyPart_bare (isKey : IsKey key)
    (stops : ∀ character ∈ rest.head?, isBare character = false) :
    readKeyPart (key.toList ++ rest) = some (key, rest) := by
  -- The run of bare characters is the key, and it ends where the stop begins.
  obtain ⟨first, others, split, bare⟩ := isKey.starts
  have starts := startsKey_of_isBare bare
  have taken := takeWhile_front isKey.bare stops
  have left := dropWhile_front isKey.bare stops
  have nonempty : key.toList.isEmpty = false := by simpa using isKey.nonempty
  -- A bare character is neither of the quotes that a key could be written in.
  unfold readKeyPart
  split
  case h_1 same =>
    rw [split] at same
    exact absurd (List.cons.inj same).1 starts.notDouble
  case h_2 same =>
    rw [split] at same
    exact absurd (List.cons.inj same).1 starts.notSingle
  case h_3 =>
    simp only [taken, left, nonempty, String.ofList_toList]
    rfl

/-- A single bare key is read with the blanks behind it, if no dot follows. -/
theorem readKey_bare (isKey : IsKey key)
    (stops : ∀ character ∈ rest.head?, isBare character = false)
    (noDot : ∀ character ∈ (skipSpace rest).head?, character ≠ '.') :
    readKey (key.toList ++ rest) = some (([], key), skipSpace rest) := by
  obtain ⟨first, others, split, bare⟩ := isKey.starts
  -- No blanks stand in front of the key.
  have stays : skipSpace (key.toList ++ rest) = key.toList ++ rest := by
    rw [split, List.cons_append, skipSpace, List.dropWhile_cons_of_neg]
    rw [(startsKey_of_isBare bare).notSpace]
    exact Bool.false_ne_true
  -- With no dot behind it, the first part of the key is the only one.
  have parts : readKeyParts ((key.toList ++ rest).length + 1) (key.toList ++ rest) =
      some ([key], skipSpace rest) := by
    rw [readKeyParts, stays, readKeyPart_bare isKey stops, Option.bind_eq_bind, Option.bind_some]
    dsimp only
    split
    case h_1 same =>
      rw [same] at noDot
      exact absurd rfl (noDot '.' rfl)
    case h_2 => rfl
  rw [readKey, parts]
  rfl

end Keys

section Lines

variable {key : String} {value : Toml} {rest : List Char} {fuel : Nat} {header : List String}
  {entries : TomlEntries}

/-- The line of an entry, without the line feed at its end. -/
def entryLine (key : String) (value : Toml) : List Char :=
  key.toList ++ ' ' :: '=' :: ' ' :: (Toml.inlineText value).toList

/-- A line that starts with a key adds the value behind its equals sign. -/
theorem readDocument_value {first : Char} {others later : List Char} {path : List String}
    (starts : StartsKey first)
    (keyRead : readKey (first :: others) = some ((path, key), '=' :: later))
    (valueRead : readValue (later.length + 1) (nestingLimit - 1) (skipSpace later) =
      some (value, '\n' :: rest)) :
    readDocument (fuel + 1) header entries (first :: others) =
      (entries.addValueUnder header path key value).bind fun entries =>
        readDocument fuel header entries rest := by
  have equals : expect '=' ('=' :: later) = some later := rfl
  have ended : afterLine ('\n' :: rest) = some rest := rfl
  -- A key is no end, no comment and no header, so that only the case of an entry is left.
  rw [readDocument, starts.skipBlankLines_cons]
  split
  case h_1 none => cases none
  case h_2 comment => exact absurd (List.cons.inj comment).1 starts.notComment
  case h_3 other => exact absurd (List.cons.inj other).1 starts.notHeader
  case h_4 other => exact absurd (List.cons.inj other).1 starts.notHeader
  case h_5 =>
    simp only [keyRead, Option.bind_eq_bind, Option.bind_some, equals, valueRead, ended]

/-- The line of an entry is read as a value under a key. -/
theorem readDocument_entry (isKey : IsKey key) (reads : Reads value) :
    readDocument (fuel + 1) header entries (entryLine key value ++ '\n' :: rest) =
      (entries.addValueUnder header [] key value).bind fun entries =>
        readDocument fuel header entries rest := by
  obtain ⟨⟨start, text, split, notSpace⟩, read⟩ := reads
  obtain ⟨first, others, splitKey, bare⟩ := isKey.starts
  -- The reader meets the key, a blank, the equals sign, a blank, the value and the line feed.
  have line : entryLine key value ++ '\n' :: rest =
      key.toList ++ ' ' :: '=' :: ' ' :: ((Toml.inlineText value).toList ++ '\n' :: rest) := by
    simp [entryLine]
  have keyRead := @readKey_bare key
    (' ' :: '=' :: ' ' :: ((Toml.inlineText value).toList ++ '\n' :: rest)) isKey
    (by simp; decide) (by simp [skipSpace, isSpace])
  have equals : skipSpace (' ' :: '=' :: ' ' :: ((Toml.inlineText value).toList ++ '\n' :: rest)) =
      '=' :: ' ' :: ((Toml.inlineText value).toList ++ '\n' :: rest) := rfl
  -- The blank before the value is skipped, and the value does not start with another one.
  have blank : skipSpace (' ' :: ((Toml.inlineText value).toList ++ '\n' :: rest)) =
      (Toml.inlineText value).toList ++ '\n' :: rest := by
    rw [split, List.cons_append, skipSpace, List.dropWhile_cons_of_pos (by decide),
      List.dropWhile_cons_of_neg]
    rw [notSpace]
    exact Bool.false_ne_true
  rw [equals] at keyRead
  rw [line]
  rw [splitKey, List.cons_append] at keyRead ⊢
  apply readDocument_value (startsKey_of_isBare bare) keyRead
  rw [blank, read]

/-- The line of a header opens its table. -/
theorem readDocument_header (isKey : IsKey key) :
    readDocument (fuel + 1) header entries ('[' :: (key.toList ++ ']' :: '\n' :: rest)) =
      (entries.openTable [] key).bind fun entries => readDocument fuel [key] entries rest := by
  -- A bare name stands between the brackets, so that this is no header of a list of tables.
  obtain ⟨first, others, splitKey, bare⟩ := isKey.starts
  have starts := startsKey_of_isBare bare
  have keyRead := @readKey_bare key (']' :: '\n' :: rest) isKey (by simp; decide)
    (by simp [skipSpace, isSpace])
  have closing : skipSpace (']' :: '\n' :: rest) = ']' :: '\n' :: rest := rfl
  have same : expect ']' (']' :: '\n' :: rest) = some ('\n' :: rest) := rfl
  have ended : afterLine ('\n' :: rest) = some rest := rfl
  have stays : skipBlankLines ('[' :: (key.toList ++ ']' :: '\n' :: rest)) =
      '[' :: (key.toList ++ ']' :: '\n' :: rest) := rfl
  rw [closing] at keyRead
  -- A bracket leaves only the two cases of headers, and the name rules out one of them.
  rw [readDocument, stays]
  split
  case h_1 none => cases none
  case h_2 comment => cases (List.cons.inj comment).1
  case h_3 double =>
    rw [splitKey] at double
    exact absurd (List.cons.inj (List.cons.inj double).2).1 starts.notHeader
  case h_4 rest opened =>
    obtain rfl := (List.cons.inj opened).2
    simp only [keyRead, Option.bind_eq_bind, Option.bind_some, same, ended]
    rfl
  case h_5 none => exact absurd rfl (none _)

/-- A line that is blank is skipped. -/
theorem readDocument_blank (text : List Char) :
    readDocument fuel header entries ('\n' :: text) = readDocument fuel header entries text := by
  -- Both readings skip the line, with whatever fuel they have.
  cases fuel with
  | zero => rfl
  | succ fuel =>
    have skipped : skipBlankLines ('\n' :: text) = skipBlankLines text := by rw [skipBlankLines]
    rw [readDocument, readDocument, skipped]

end Lines

section Sections

/-- The entries of a section: each can be read from its line, and no two have one key. -/
structure Written (entries : List (String × Toml)) : Prop where
  each : ∀ entry ∈ entries, IsKey entry.1 ∧ Reads entry.2
  distinct : (entries.map Prod.fst).Nodup

/-- The nodes of the entries of a section. -/
def nodesOf (entries : List (String × Toml)) : TomlEntries :=
  entries.map fun (key, value) => (key, .value value)

/-- The lines of some entries. -/
def entryLines (entries : List (String × Toml)) : List Char :=
  entries.flatMap fun (key, value) => entryLine key value ++ ['\n']

variable {header : String} {done inner : TomlEntries} {entries : List (String × Toml)}
  {rest : List Char} {fuel : Nat}

/-- The lines of entries with new keys put their values into the table that was opened last. -/
theorem readDocument_entries (absent : header ∉ done.map Prod.fst)
    (each : ∀ entry ∈ entries, IsKey entry.1 ∧ Reads entry.2)
    (distinct : (inner.map Prod.fst ++ entries.map Prod.fst).Nodup)
    (enough : (entryLines entries ++ rest).length < fuel) :
    ∃ smaller, rest.length < smaller ∧
      readDocument fuel [header] (done ++ [(header, .table .stated inner)])
          (entryLines entries ++ rest) =
        readDocument smaller [header]
          (done ++ [(header, .table .stated (inner ++ nodesOf entries))]) rest := by
  -- Each entry takes one unit of fuel and at least one character, so that the fuel lasts.
  induction entries generalizing inner fuel with
  | nil => exact ⟨fuel, enough, by simp [entryLines, nodesOf]⟩
  | cons entry entries ih =>
    obtain ⟨key, value⟩ := entry
    obtain ⟨isKey, reads⟩ := each (key, value) List.mem_cons_self
    have lines : entryLines ((key, value) :: entries) ++ rest =
        entryLine key value ++ '\n' :: (entryLines entries ++ rest) := by
      simp [entryLines]
    rw [lines, List.length_append, List.length_cons] at enough
    obtain ⟨fuel, rfl⟩ : ∃ smaller, fuel = smaller + 1 := ⟨fuel - 1, by omega⟩
    have fresh : key ∉ inner.map Prod.fst := by
      intro among
      exact (List.nodup_append.mp distinct).2.2 key among key List.mem_cons_self rfl
    -- The other entries are read under the table that this one has been added to.
    obtain ⟨smaller, more, read⟩ := @ih (inner ++ [(key, .value value)]) fuel
      (fun entry member => each entry (List.mem_cons_of_mem _ member)) (by simpa using distinct)
      (by omega)
    refine ⟨smaller, more, ?_⟩
    rw [lines, readDocument_entry isKey reads, TomlEntries.addValueUnder_last absent fresh,
      Option.bind_some, read]
    simp [nodesOf]

/-- The texts of entries, each with a line feed behind it, are the lines of the entries. -/
theorem flatMap_inlinePairs (entries : List (String × Toml)) :
    ((Toml.inlinePairs entries).map (· ++ "\n")).flatMap String.toList = entryLines entries := by
  -- Entry by entry, the printed text and the line of the entry are the same characters.
  induction entries with
  | nil =>
    rw [Toml.inlinePairs]
    rfl
  | cons entry entries ih =>
    obtain ⟨key, value⟩ := entry
    rw [Toml.inlinePairs, List.map_cons, List.flatMap_cons, ih]
    simp [entryLines, entryLine]

/-- The text of a section is its header before the lines of its entries. -/
theorem toList_sectionText (header : String) (entries : List (String × Toml)) :
    (Toml.sectionText header entries).toList =
      '[' :: (header.toList ++ ']' :: '\n' :: entryLines entries) := by
  -- The header and its brackets are as written, and the entries have been compared already.
  have lines : (String.join ((Toml.inlinePairs entries).map (· ++ "\n"))).toList =
      entryLines entries := by
    rw [String.toList_join, flatMap_inlinePairs]
  rw [Toml.sectionText, String.toList_append, lines]
  simp

/-- The sections of a document: none is named like another one, and each can be read. -/
structure WrittenSections (sections : List (String × List (String × Toml))) : Prop where
  each : ∀ part ∈ sections, IsKey part.1 ∧ Written part.2
  distinct : (sections.map Prod.fst).Nodup

/-- The nodes of the sections of a document. -/
def tablesOf (sections : List (String × List (String × Toml))) : TomlEntries :=
  sections.map fun (header, entries) => (header, .table .stated (nodesOf entries))

/-- The text of a section puts its table behind the tables there are. -/
theorem readDocument_section {before : List String} (isKey : IsKey header)
    (written : Written entries) (absent : header ∉ done.map Prod.fst)
    (enough : ((Toml.sectionText header entries).toList ++ rest).length < fuel) :
    ∃ smaller, rest.length < smaller ∧
      readDocument fuel before done ((Toml.sectionText header entries).toList ++ rest) =
        readDocument smaller [header] (done ++ [(header, .table .stated (nodesOf entries))])
          rest := by
  -- A section begins with its header, which opens the table that the entries go into.
  have text : (Toml.sectionText header entries).toList ++ rest =
      '[' :: (header.toList ++ ']' :: '\n' :: (entryLines entries ++ rest)) := by
    rw [toList_sectionText]
    simp
  rw [text, List.length_cons, List.length_append, List.length_cons, List.length_cons] at enough
  obtain ⟨fuel, rfl⟩ : ∃ smaller, fuel = smaller + 1 := ⟨fuel - 1, by omega⟩
  obtain ⟨smaller, more, read⟩ := @readDocument_entries header done [] entries rest fuel absent
    written.each (by simpa using written.distinct) (by omega)
  refine ⟨smaller, more, ?_⟩
  rw [text, readDocument_header isKey, TomlEntries.openTable_new absent, Option.bind_some, read,
    List.nil_append]

/-- The text of a document, section by section; a blank line stands between neighbours. -/
theorem documentText_cons (part next : String × List (String × Toml))
    (later : List (String × List (String × Toml))) :
    (Toml.documentText (part :: next :: later)).toList =
      (Toml.sectionText part.1 part.2).toList ++
        '\n' :: (Toml.documentText (next :: later)).toList := by
  -- The separator of the join is the blank line.
  simp [Toml.documentText, String.intercalate_cons_cons]

/-- The sections of a document are put, one after another, behind the tables there are. -/
theorem readDocument_sections {sections : List (String × List (String × Toml))}
    {before : List String}
    (each : ∀ part ∈ sections, IsKey part.1 ∧ Written part.2)
    (distinct : (done.map Prod.fst ++ sections.map Prod.fst).Nodup)
    (enough : (Toml.documentText sections).toList.length < fuel) :
    readDocument fuel before done (Toml.documentText sections).toList =
      some (done ++ tablesOf sections) := by
  -- Each section is put behind the tables so far, whatever header was open before it.
  induction sections generalizing done before fuel with
  | nil =>
    obtain ⟨fuel, rfl⟩ : ∃ smaller, fuel = smaller + 1 := ⟨fuel - 1, by omega⟩
    simp [Toml.documentText, tablesOf, readDocument, skipBlankLines]
  | cons part sections ih =>
    obtain ⟨header, entries⟩ := part
    obtain ⟨isKey, written⟩ := each (header, entries) List.mem_cons_self
    -- A header among the tables there are would be named twice.
    have absent : header ∉ done.map Prod.fst := by
      intro among
      exact (List.nodup_append.mp distinct).2.2 header among header List.mem_cons_self rfl
    -- The remaining sections are read onto the tables with this one at their end.
    have onward (smaller : Nat) (more : (Toml.documentText sections).toList.length < smaller) :=
      @ih (done ++ [(header, .table .stated (nodesOf entries))]) smaller [header]
        (fun part member => each part (List.mem_cons_of_mem _ member)) (by simpa using distinct)
        more
    cases sections with
    | nil =>
      -- No blank line follows the last section.
      have single : (Toml.documentText [(header, entries)]).toList =
          (Toml.sectionText header entries).toList ++ [] := by
        simp [Toml.documentText]
      rw [single] at enough ⊢
      obtain ⟨smaller, more, read⟩ := readDocument_section isKey written absent enough
      obtain ⟨smaller, rfl⟩ : ∃ less, smaller = less + 1 := ⟨smaller - 1, by omega⟩
      rw [read, readDocument, skipBlankLines]
      · simp [tablesOf]
      all_goals simp
    | cons next later =>
      rw [documentText_cons] at enough ⊢
      obtain ⟨smaller, more, read⟩ := readDocument_section isKey written absent enough
      rw [List.length_cons] at more
      -- The blank line between the sections is skipped.
      rw [read, readDocument_blank, onward smaller (by omega)]
      simp [tablesOf]

/-- The values of entries are what they were written from. -/
theorem toEntries_nodesOf (entries : List (String × Toml)) :
    TomlNode.toEntries (nodesOf entries) = entries := by
  -- A node of a value is the value under its key.
  induction entries with
  | nil =>
    rw [nodesOf, List.map_nil, TomlNode.toEntries]
  | cons entry entries ih =>
    obtain ⟨key, value⟩ := entry
    rw [nodesOf, List.map_cons, TomlNode.toEntries, TomlNode.toToml]
    exact congrArg _ ih

/-- The sections have become tables of their entries. -/
theorem toEntries_tablesOf (sections : List (String × List (String × Toml))) :
    TomlNode.toEntries (tablesOf sections) =
      sections.map fun (header, entries) => (header, .table entries) := by
  -- A stated table is the table of its entries, which are those of the section.
  induction sections with
  | nil =>
    rw [tablesOf, List.map_nil, TomlNode.toEntries, List.map_nil]
  | cons part sections ih =>
    obtain ⟨header, entries⟩ := part
    rw [tablesOf, List.map_cons, TomlNode.toEntries, TomlNode.toToml, toEntries_nodesOf,
      List.map_cons]
    exact congrArg _ ih

/-- A document does not start with a byte order mark. -/
theorem head?_documentText (sections : List (String × List (String × Toml))) :
    (Toml.documentText sections).toList.head? ≠ some '\ufeff' := by
  -- A document is empty, or it starts with the bracket of its first header.
  match sections with
  | [] => simp [Toml.documentText]
  | [(header, entries)] => simp [Toml.documentText, toList_sectionText]
  | (header, entries) :: next :: later => simp [documentText_cons, toList_sectionText]

/-- A document is read back as the tables of its sections. -/
theorem read_documentText {sections : List (String × List (String × Toml))}
    (written : WrittenSections sections) :
    Toml.read (Toml.documentText sections) =
      some (sections.map fun (header, entries) => (header, .table entries)) := by
  have noMark := head?_documentText sections
  -- All sections are read onto no tables, with one more unit of fuel than there are characters.
  have lines := @readDocument_sections [] _ sections [] written.each
    (by simpa using written.distinct) (Nat.lt_add_one _)
  unfold Toml.read
  -- Without a byte order mark, the text is read from its first character on.
  split
  case h_1 marked =>
    rw [marked] at noMark
    exact absurd rfl noMark
  case h_2 =>
    dsimp only
    rw [lines, Option.map_some, List.nil_append, toEntries_tablesOf]

end Sections

end TomlText

end FlatKnit
