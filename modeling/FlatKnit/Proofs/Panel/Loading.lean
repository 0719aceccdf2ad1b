import FlatKnit.Proofs.Chain
import FlatKnit.Proofs.Panel.Document
import FlatKnit.Proofs.Shape.Noise

/-! Panel documents: when one loads, and changes that do not change the panel that it loads as. -/

namespace FlatKnit

namespace Density

/-- The entries of a record that stand under a name of a density. -/
def among (density : Density) (entries : List (String × Json)) : List (String × Json) :=
  entries.filter fun entry => entry.1 ∈ density.names

/-- A key names the one density that it is a name of. -/
theorem ofKey_eq_some_iff {key : String} {density : Density} :
    ofKey key = some density ↔ key ∈ density.names := by
  -- Three names lead to the first density, and three others to the second one.
  have disjoint : key ∈ stitches.names → key ∉ rows.names := by
    simp only [names, name, List.mem_cons, List.not_mem_nil, or_false]
    rintro (rfl | rfl | rfl) <;> decide
  simp only [ofKey, List.contains_iff_mem]
  by_cases stitchesNamed : key ∈ stitches.names
  · have rowsUnnamed := disjoint stitchesNamed
    cases density <;> simp [stitchesNamed, rowsUnnamed]
  · by_cases rowsNamed : key ∈ rows.names <;> cases density <;> simp [stitchesNamed, rowsNamed]

/-- A record has one entry under the names of a density, and that is a number. -/
def IsNamedOnce (density : Density) (entries : List (String × Json)) (value : Float) : Prop :=
  ∃ key number, density.among entries = [(key, number)] ∧ number.number? = some value

/-- The entries leave a density at a value when they name it once, or not again after they did. -/
def Settles (density : Density) (read : Option Float) (entries : List (String × Json))
    (value : Float) : Prop :=
  match read with
  | none => density.IsNamedOnce entries value
  | some earlier => density.among entries = [] ∧ earlier = value

variable {density : Density} {read : Option Float} {key : String} {value : Json}
  {rest : List (String × Json)} {result : Float}

/-- An entry under a key that does not name the density changes nothing. -/
theorem settles_passed (other : ofKey key ≠ some density) :
    density.Settles read ((key, value) :: rest) result ↔ density.Settles read rest result := by
  -- Only the entries under names of the density are looked at, and this is none of them.
  have unnamed : key ∉ density.names := mt ofKey_eq_some_iff.mpr other
  have same : density.among ((key, value) :: rest) = density.among rest :=
    List.filter_cons_of_neg (by simpa using unnamed)
  unfold Settles IsNamedOnce
  rw [same]

/-- An entry under a name must be the first one, hold a number, and be the last one. -/
theorem settles_named (named : ofKey key = some density) :
    density.Settles read ((key, value) :: rest) result ↔
      read = none ∧ ∃ number, value.number? = some number ∧
        density.Settles (some number) rest result := by
  have known : key ∈ density.names := ofKey_eq_some_iff.mp named
  have longer : density.among ((key, value) :: rest) = (key, value) :: density.among rest :=
    List.filter_cons_of_pos (by simpa using known)
  -- After an earlier number any entry of that name is one too many, so nothing is settled.
  cases read with
  | some earlier => simp [Settles, longer]
  | none =>
    simp only [Settles, IsNamedOnce, longer, List.cons.injEq, Prod.mk.injEq, true_and]
    -- With no number yet, the entry is the one that is named, and no later one may be.
    constructor
    · rintro ⟨_, _, ⟨⟨rfl, rfl⟩, alone⟩, number⟩
      exact ⟨result, number, alone, rfl⟩
    · rintro ⟨_, number, alone, rfl⟩
      exact ⟨key, value, ⟨⟨rfl, rfl⟩, alone⟩, number⟩

end Density

namespace Gauge

/-- Entries are read as a gauge exactly when they leave both densities at its values. -/
theorem readEntries_eq_ok_iff {stitches rows : Option Float} {entries : List (String × Json)}
    {gauge : Gauge} : readEntries stitches rows entries = .ok gauge ↔
      Density.stitches.Settles stitches entries gauge.stitches ∧
        Density.rows.Settles rows entries gauge.rows := by
  induction entries generalizing stitches rows with
  | nil =>
    -- With no entries left, each density has to be known from those before.
    obtain ⟨_, _⟩ := gauge
    cases stitches <;> cases rows <;>
      simp [readEntries, Density.Settles, Density.IsNamedOnce, Density.among]
  | cons entry rest ih =>
    obtain ⟨key, value⟩ := entry
    -- The entry names one of the densities, which it may do once, or none of them.
    cases named : Density.ofKey key with
    | none =>
      rw [Density.settles_passed (by simp [named]), Density.settles_passed (by simp [named]), ← ih]
      simp [readEntries, named]
    | some density =>
      cases density with
      | stitches =>
        rw [Density.settles_named named, Density.settles_passed (by simp [named])]
        -- A density that is already known is not read a second time.
        cases stitches with
        | some earlier => simp [readEntries, named]
        | none =>
          cases number : value.number? <;>
            simp [readEntries, named, readDensity, number, bind, Except.bind, ih]
      | rows =>
        rw [Density.settles_named named, Density.settles_passed (by simp [named])]
        cases rows with
        | some earlier => simp [readEntries, named]
        | none =>
          cases number : value.number? <;>
            simp [readEntries, named, readDensity, number, bind, Except.bind, ih]

/--
A value is the record of a gauge.

Either it is an object that names each density once, with a number, among any other entries, or it
is a list of the two numbers.
-/
inductive Describes : Json → Gauge → Prop where
  | named {entries : List (String × Json)} {gauge : Gauge}
      (stitches : Density.stitches.IsNamedOnce entries gauge.stitches)
      (rows : Density.rows.IsNamedOnce entries gauge.rows) : Describes (.object entries) gauge
  | listed {first second : Json} {gauge : Gauge} (stitches : first.number? = some gauge.stitches)
      (rows : second.number? = some gauge.rows) : Describes (.list [first, second]) gauge

/-- A density is read from the numbers. -/
theorem readDensity_eq_ok_iff {value : Json} {density : Float} :
    readDensity value = .ok density ↔ value.number? = some density := by
  unfold readDensity
  cases value.number? <;> simp

/-- A gauge is read from its records, and from nothing else. -/
theorem ofJson_eq_ok_iff {value : Json} {gauge : Gauge} :
    ofJson value = .ok gauge ↔ Describes value gauge := by
  obtain ⟨stitches, rows⟩ := gauge
  constructor
  · intro read
    cases value with
    | object entries =>
      obtain ⟨once, onceMore⟩ := readEntries_eq_ok_iff.mp read
      exact .named once onceMore
    | list items =>
      match items with
      | [] => cases read
      -- Fewer items than two leave a density without a number.
      | [first] =>
        obtain ⟨_, _, short⟩ := bind_eq_ok_iff.mp read
        cases short
      | first :: second :: rest =>
        obtain ⟨one, firstRead, read⟩ := bind_eq_ok_iff.mp read
        obtain ⟨other, secondRead, read⟩ := bind_eq_ok_iff.mp read
        -- A third item makes the list too long.
        cases rest with
        | nil =>
          cases read
          exact .listed (readDensity_eq_ok_iff.mp firstRead) (readDensity_eq_ok_iff.mp secondRead)
        | cons third rest => cases read
    | _ => cases read
  · rintro (⟨once, onceMore⟩ | ⟨one, other⟩)
    · exact readEntries_eq_ok_iff.mpr ⟨once, onceMore⟩
    · have firstRead := readDensity_eq_ok_iff.mpr one
      have secondRead := readDensity_eq_ok_iff.mpr other
      simp [ofJson, firstRead, secondRead, bind, Except.bind, pure, Except.pure]

end Gauge

/-- A value is the record of some gauge. -/
def Json.IsGauge (value : Json) : Prop :=
  ∃ gauge, Gauge.Describes value gauge

/-- Entries of gauge records that name the densities alike are records of the same gauges. -/
theorem Gauge.describes_congr {entries other : List (String × Json)}
    (same : ∀ density : Density, (density.among entries).Perm (density.among other))
    (gauge : Gauge) : Describes (.object entries) gauge ↔ Describes (.object other) gauge := by
  -- What names a density once is alone, so that there is nothing to put into another order.
  have once : ∀ (density : Density) value, density.IsNamedOnce entries value ↔
      density.IsNamedOnce other value := by
    intro density value
    constructor
    · rintro ⟨key, number, alone, read⟩
      exact ⟨key, number, List.perm_singleton.mp ((same density).symm.trans (.of_eq alone)), read⟩
    · rintro ⟨key, number, alone, read⟩
      exact ⟨key, number, List.perm_singleton.mp ((same density).trans (.of_eq alone)), read⟩
  constructor
  · rintro ⟨stitches, rows⟩
    exact .named ((once _ _).mp stitches) ((once _ _).mp rows)
  · rintro ⟨stitches, rows⟩
    exact .named ((once _ _).mpr stitches) ((once _ _).mpr rows)

namespace Panel

/-- The keys that a panel document is read by. -/
def documentKeys : List String :=
  ["shapes", "gauge", "sizeModifier", "visualMotif"]

/--
One change of a document that does not change its panel.

It is made in the document itself, in the record of its gauge, or in that of its shape.
-/
inductive Noise : Json → Json → Prop where
  -- The entries stand in another order.
  | reordered {entries other : List (String × Json)} (unique : (entries.map Prod.fst).Nodup)
      (same : entries.Perm other) : Noise (.object entries) (.object other)
  -- An entry is added to a document, under a key that is not read.
  | unknown (before after : List (String × Json)) (key : String) (value : Json)
      (document : "shapes" ∈ (before ++ after).map Prod.fst) (unread : key ∉ documentKeys) :
      Noise (.object (before ++ after)) (.object (before ++ (key, value) :: after))
  -- The entries of the gauge stand in another order, or one is added that names no density.
  | gaugeReordered (before after : List (String × Json)) {record other : List (String × Json)}
      (same : record.Perm other) :
      Noise (.object (before ++ ("gauge", .object record) :: after))
        (.object (before ++ ("gauge", .object other) :: after))
  | gaugeUnknown (before after front back : List (String × Json)) (key : String) (value : Json)
      (unread : ∀ density : Density, key ∉ density.names) :
      Noise (.object (before ++ ("gauge", .object (front ++ back)) :: after))
        (.object (before ++ ("gauge", .object (front ++ (key, value) :: back)) :: after))
  -- The record of the shape is changed, in a document or where it stands bare.
  | shape (before after : List (String × Json)) {record other : Json}
      (change : Shape.Noise record other) :
      Noise (.object (before ++ ("shapes", record) :: after))
        (.object (before ++ ("shapes", other) :: after))
  | bare {entries other : List (String × Json)} (missing : "shapes" ∉ entries.map Prod.fst)
      (stillMissing : "shapes" ∉ other.map Prod.fst)
      (change : Shape.Noise (.object entries) (.object other)) :
      Noise (.object entries) (.object other)

/-- A document with shapes loads exactly when its gauge does. -/
theorem ofJson_document_eq_ok_iff {entries : List (String × Json)} {shapes : Json} {panel : Panel}
    (present : entries.lookup "shapes" = some shapes) : ofJson (.object entries) = .ok panel ↔
      ∃ gauge, gaugeOf (entries.lookup "gauge") = .ok gauge ∧
        panel = ⟨Shape.ofJson? shapes,
          ⟨gauge, (Record.multiplier? entries "sizeModifier").getD standardSize⟩,
          (entries.lookup "visualMotif").bind motifOf⟩ := by
  rw [ofJson_document present, map_eq_ok_iff]
  simp only [eq_comm]

/-- Two documents have all in common that is read, but for the order of what is in their gauges. -/
structure ReadAlike (entries other : List (String × Json)) : Prop where
  shapes : (entries.lookup "shapes").map Shape.ofJson? = (other.lookup "shapes").map Shape.ofJson?
  bare : entries.lookup "shapes" = none →
    Shape.ofJson? (.object entries) = Shape.ofJson? (.object other)
  gauge : ∀ gauge, gaugeOf (entries.lookup "gauge") = .ok gauge ↔
    gaugeOf (other.lookup "gauge") = .ok gauge
  size : entries.lookup "sizeModifier" = other.lookup "sizeModifier"
  motif : entries.lookup "visualMotif" = other.lookup "visualMotif"

section Alike

variable {entries other before after : List (String × Json)}

/-- Documents that have all in common that is read load as the same panel, if they load. -/
theorem ReadAlike.ofJson_iff (alike : ReadAlike entries other) (panel : Panel) :
    ofJson (.object entries) = .ok panel ↔ ofJson (.object other) = .ok panel := by
  have shapes := alike.shapes
  cases present : entries.lookup "shapes" with
  | none =>
    -- Without shapes, both are bare records of one shape.
    have missing : other.lookup "shapes" = none := by simpa [present] using shapes.symm
    rw [ofJson_bare present, ofJson_bare missing, alike.bare present]
  | some record =>
    cases otherPresent : other.lookup "shapes" with
    | none => simp [present, otherPresent] at shapes
    | some otherRecord =>
      have shape : Shape.ofJson? record = Shape.ofJson? otherRecord := by
        simpa [present, otherPresent] using shapes
      rw [ofJson_document_eq_ok_iff present, ofJson_document_eq_ok_iff otherPresent, shape,
        Record.multiplier?, Record.multiplier?, alike.size, alike.motif]
      simp only [alike.gauge]

/-- Documents are read alike when the same is found under all keys that are read. -/
theorem ReadAlike.of_lookup (same : ∀ key ∈ documentKeys, entries.lookup key = other.lookup key)
    (bare : entries.lookup "shapes" = none →
      Shape.ofJson? (.object entries) = Shape.ofJson? (.object other)) :
    ReadAlike entries other where
  shapes := by rw [same "shapes" (by decide)]
  bare := bare
  gauge := by simp [same "gauge" (by decide)]
  size := same "sizeModifier" (by decide)
  motif := same "visualMotif" (by decide)

/-- Another record of the same gauges does not change what is read. -/
theorem ReadAlike.replace_gauge {record changed : List (String × Json)}
    (same : ∀ density : Density, (density.among record).Perm (density.among changed)) :
    ReadAlike (before ++ ("gauge", .object record) :: after)
      (before ++ ("gauge", .object changed) :: after) := by
  refine ⟨congrArg _ (lookup_replace_other (by decide) _ _), fun _ => ?_, fun gauge => ?_,
    lookup_replace_other (by decide) _ _, lookup_replace_other (by decide) _ _⟩
  · -- A bare record has no use for a gauge.
    have unread : "gauge" ∉ Shape.knownKeys := by decide
    exact (Shape.ReadAlike.of_lookup fun key known =>
      lookup_replace_other (ne_of_mem_of_not_mem known unread) _ _).ofJson?_eq
  · rw [lookup_insert_self, lookup_insert_self]
    -- An entry with the same key in front of the records would hide both of them.
    cases before.lookup "gauge" with
    | none =>
      show Gauge.ofJson (.object record) = .ok gauge ↔ Gauge.ofJson (.object changed) = .ok gauge
      rw [Gauge.ofJson_eq_ok_iff, Gauge.ofJson_eq_ok_iff, Gauge.describes_congr same]
    | some value => rfl

/-- Another record of the same shape does not change what is read. -/
theorem ReadAlike.replace_shapes {record changed : Json}
    (same : Shape.ofJson? record = Shape.ofJson? changed) :
    ReadAlike (before ++ ("shapes", record) :: after) (before ++ ("shapes", changed) :: after) := by
  refine ⟨?_, fun missing => ?_, fun gauge => ?_, lookup_replace_other (by decide) _ _,
    lookup_replace_other (by decide) _ _⟩
  · rw [lookup_insert_self, lookup_insert_self]
    cases before.lookup "shapes" with
    | none => exact congrArg some same
    | some value => rfl
  · -- There are shapes, so the record is not bare.
    simp [lookup_insert_self] at missing
  · rw [lookup_replace_other (by decide) record changed]

end Alike

/-- A change does not change the panel that a document loads as, nor whether it loads. -/
theorem Noise.ofJson_iff {value other : Json} (change : Noise value other) (panel : Panel) :
    ofJson value = .ok panel ↔ ofJson other = .ok panel := by
  cases change with
  | reordered unique same =>
    have found := lookup_reordered unique same
    exact (ReadAlike.of_lookup (fun key _ => found key)
      fun _ => (Shape.Noise.reordered unique same).ofJson?_eq).ofJson_iff panel
  | unknown before after key value document unread =>
    -- A key that is read is not the one that is added, and the document has shapes.
    refine (ReadAlike.of_lookup ?_ fun missing => ?_).ofJson_iff panel
    · exact fun known member =>
        (lookup_insert_other (ne_of_mem_of_not_mem member unread) value).symm
    · obtain ⟨shapes, present⟩ := exists_lookup document
      rw [present] at missing
      cases missing
  | gaugeReordered before after same =>
    exact (ReadAlike.replace_gauge fun density => same.filter _).ofJson_iff panel
  | gaugeUnknown before after front back key value unread =>
    -- An entry that names no density is not among those that do.
    refine (ReadAlike.replace_gauge fun density => .of_eq ?_).ofJson_iff panel
    simp [Density.among, unread density]
  | shape before after change =>
    exact (ReadAlike.replace_shapes change.ofJson?_eq).ofJson_iff panel
  | bare missing stillMissing change =>
    rw [ofJson_bare (lookup_absent missing), ofJson_bare (lookup_absent stillMissing),
      change.ofJson?_eq]

/-- A document fails to load exactly when it has shapes and a gauge that is none. -/
theorem exists_fault_iff (value : Json) : (∃ fault, ofJson value = .error fault) ↔
    ∃ entries record, value = .object entries ∧ "shapes" ∈ entries.map Prod.fst ∧
      entries.lookup "gauge" = some record ∧ record ≠ .null ∧ ¬ record.IsGauge := by
  constructor
  · rintro ⟨fault, failed⟩
    cases value with
    | object entries =>
      -- Without shapes nothing is read at all, and with them only the gauge may fail.
      cases present : entries.lookup "shapes" with
      | none =>
        rw [ofJson_bare present] at failed
        cases failed
      | some shapes =>
        have shapesKey : "shapes" ∈ entries.map Prod.fst :=
          List.mem_map.mpr ⟨_, mem_of_lookup present, rfl⟩
        cases found : entries.lookup "gauge" with
        | none =>
          rw [ofJson_document present, found] at failed
          cases failed
        | some record =>
          rw [ofJson_document present, found] at failed
          -- Null would have loaded as the standard gauge.
          have notNull : record ≠ .null := by
            rintro rfl
            cases failed
          refine ⟨entries, record, rfl, shapesKey, found, notNull, ?_⟩
          -- A record of a gauge would have been read.
          rintro ⟨gauge, described⟩
          rw [gaugeOf_some notNull, Gauge.ofJson_eq_ok_iff.mpr described] at failed
          cases failed
    | _ => cases failed
  · rintro ⟨entries, record, rfl, shapesKey, found, notNull, noGauge⟩
    obtain ⟨shapes, present⟩ := exists_lookup shapesKey
    rw [ofJson_document present, found, gaugeOf_some notNull]
    -- Reading what is no gauge can only fail, for what it yields would be described.
    cases read : Gauge.ofJson record with
    | error fault => exact ⟨fault, rfl⟩
    | ok gauge => exact absurd ⟨gauge, Gauge.ofJson_eq_ok_iff.mp read⟩ noGauge

/--
A panel document fails to load exactly when it has shapes beside a gauge that is none.

Documents that differ by any number of such changes load as the same panel, if they load.
-/
theorem loading_ignoresNoise (value : Json) :
    ((∃ fault, ofJson value = .error fault) ↔
      ∃ entries record, value = .object entries ∧ "shapes" ∈ entries.map Prod.fst ∧
        entries.lookup "gauge" = some record ∧ record ≠ .null ∧ ¬ record.IsGauge) ∧
    ∀ other, Relation.EqvGen Noise value other →
      ∀ panel, ofJson value = .ok panel ↔ ofJson other = .ok panel := by
  refine ⟨exists_fault_iff value, fun other noise => ?_⟩
  -- What one change keeps, any number of them keeps, made or taken back.
  induction noise with
  | rel value other change => exact change.ofJson_iff
  | refl value => exact fun _ => .rfl
  | symm value other _ ih => exact fun panel => (ih panel).symm
  | trans value middle other _ _ first second =>
    exact fun panel => (first panel).trans (second panel)

/-- A document with a shape and a gauge under its short names. -/
def swatchDocument : Json :=
  .object [("shapes", .object [("height", .whole 4)]),
    ("gauge", .object [("stitches", .whole 10), ("rows", .whole 12)])]

/-- The same document in another order, with entries that nothing reads. -/
def noisyDocument : Json :=
  .object [
    ("gauge", .object [("rows", .whole 12), ("yarn", .text "wool"), ("stitches", .whole 10)]),
    ("colour", .text "red"), ("shapes", .object [("height", .whole 4)])]

/-- The two documents differ by four changes, and load as the same panel. -/
theorem noisyDocument_loads : Relation.EqvGen Noise swatchDocument noisyDocument ∧
    ∃ panel, ofJson swatchDocument = .ok panel ∧ ofJson noisyDocument = .ok panel := by
  have noise : Relation.EqvGen Noise swatchDocument noisyDocument := by
    -- First the two keys of the document change places, and then those of its gauge.
    refine .trans _ _ _ (.rel _ _ (.reordered (by decide) (List.Perm.swap _ _ []))) ?_
    refine .trans _ _ _ (.rel _ _ (.gaugeReordered [] [_] (List.Perm.swap _ _ []))) ?_
    -- Then each of the two records gets a key that is never read.
    refine .trans _ _ _ (.rel _ _ (.unknown [_] [_] "colour" (.text "red") (by decide)
      (by decide))) ?_
    refine .rel _ _ (.gaugeUnknown [] [_, _] [_] [_] "yarn" (.text "wool") ?_)
    rintro (_ | _) <;> decide
  exact ⟨noise, _, rfl, ((loading_ignoresNoise swatchDocument).2 noisyDocument noise _).mp rfl⟩

end Panel

end FlatKnit
