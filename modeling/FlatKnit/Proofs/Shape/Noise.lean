import FlatKnit.Proofs.Json.WellFormed
import FlatKnit.Shape.Record
import Mathlib

/-! Noise in records of shapes: changes that leave the shape of a record as it is, at any depth. -/

namespace FlatKnit

namespace Json

/-- Whether a value is an object. -/
def isObject : Json → Bool
  | object _ => true
  | _ => false

/-- Whether a value is a list. -/
def isList : Json → Bool
  | list _ => true
  | _ => false

end Json

section Lookup

variable {α : Type} {key : String} {before after : List (String × α)}

/-- An entry under another key does not change what is found. -/
theorem lookup_insert_other {name : String} (other : key ≠ name) (value : α) :
    (before ++ (name, value) :: after).lookup key = (before ++ after).lookup key := by
  rw [List.lookup_append, List.lookup_append, List.lookup_cons, beq_false_of_ne other]

/-- Another value under another key does not change what is found. -/
theorem lookup_replace_other {name : String} (other : key ≠ name) (value replaced : α) :
    (before ++ (name, value) :: after).lookup key
      = (before ++ (name, replaced) :: after).lookup key := by
  rw [lookup_insert_other other, lookup_insert_other other]

/-- An entry is found under its key, unless one before it is. -/
theorem lookup_insert_self (value : α) :
    (before ++ (key, value) :: after).lookup key = (before.lookup key).or (some value) := by
  rw [List.lookup_append, List.lookup_cons_self]

end Lookup

namespace Shape

/-- The keys that the record of a shape is read by. -/
def knownKeys : List String :=
  ["height", "baseA", "baseB", "baseBHorizontalOffset", "successors", "finishingSteps", "label",
    "isHem"]

/--
One change of a record that does not change its shape.

It is made in the record itself, or in one of the records nested in its list of successors.
-/
inductive Noise : Json → Json → Prop where
  -- The entries stand in another order.
  | reordered {entries other : List (String × Json)} (unique : (entries.map Prod.fst).Nodup)
      (same : entries.Perm other) : Noise (.object entries) (.object other)
  -- An entry is added under a key that is not read.
  | unknown (before after : List (String × Json)) (key : String) (value : Json)
      (unread : key ∉ knownKeys) :
      Noise (.object (before ++ after)) (.object (before ++ (key, value) :: after))
  -- A record without successors has something in their place that is not a list.
  | noSuccessors (before after : List (String × Json)) (value : Json)
      (missing : "successors" ∉ (before ++ after).map Prod.fst) (notList : value.isList = false) :
      Noise (.object (before ++ after)) (.object (before ++ ("successors", value) :: after))
  -- A value that is not an object is added to the successors.
  | malformed (before after : List (String × Json)) (front back : List Json) (item : Json)
      (notObject : item.isObject = false) :
      Noise (.object (before ++ ("successors", .list (front ++ back)) :: after))
        (.object (before ++ ("successors", .list (front ++ item :: back)) :: after))
  -- The record of a successor is changed.
  | nested (before after : List (String × Json)) (front back : List Json) {item other : Json}
      (change : Noise item other) :
      Noise (.object (before ++ ("successors", .list (front ++ item :: back)) :: after))
        (.object (before ++ ("successors", .list (front ++ other :: back)) :: after))
  -- A null is added to the notes, or a lone note is put into a list.
  | emptyNote (before after : List (String × Json)) (front back : List Json) :
      Noise (.object (before ++ ("finishingSteps", .list (front ++ back)) :: after))
        (.object (before ++ ("finishingSteps", .list (front ++ .null :: back)) :: after))
  | loneNote (before after : List (String × Json)) (note : String) :
      Noise (.object (before ++ ("finishingSteps", .text note) :: after))
        (.object (before ++ ("finishingSteps", .list [.text note]) :: after))

/-- The items of the list of successors in a record; without such a list there are none. -/
def successorItems (entries : List (String × Json)) : List Json :=
  match entries.lookup "successors" with
  | some (.list items) => items
  | _ => []

/-- The shapes among values are those of the values that have one, in their order. -/
theorem shapesAmong_eq_filterMap (items : List Json) :
    shapesAmong items = items.filterMap ofJson? := by
  -- A value without a shape is passed over, as a filter does.
  induction items with
  | nil => rw [shapesAmong, List.filterMap_nil]
  | cons item items ih =>
    rw [shapesAmong, List.filterMap_cons, ih]
    cases ofJson? item <;> rfl

/-- The successors of a record are the shapes of the items in its list of successors. -/
theorem successorsIn_eq (entries : List (String × Json)) :
    successorsIn entries = (successorItems entries).filterMap ofJson? := by
  induction entries with
  | nil => rfl
  | cons entry rest ih =>
    obtain ⟨key, value⟩ := entry
    rw [successorsIn, successorItems, List.lookup_cons]
    -- The first entry under the key decides, and only a list under it holds any shapes.
    by_cases same : key = "successors"
    · subst same
      cases value <;> simp [shapesIn, shapesAmong_eq_filterMap]
    · rw [if_neg (by simpa using same), beq_false_of_ne (Ne.symm same), ih, successorItems]

/-- A value has a shape exactly when it is an object. -/
theorem ofJson?_eq_none_iff (value : Json) : ofJson? value = none ↔ value.isObject = false := by
  cases value <;> simp [ofJson?, Json.isObject]

/--
Two records have all in common that is read.

That is what stands under each known key, but only the texts of the notes, and only the shapes of
the successors.
-/
structure ReadAlike (entries other : List (String × Json)) : Prop where
  plain : ∀ key ∈ knownKeys, key ≠ "successors" → key ≠ "finishingSteps" →
    entries.lookup key = other.lookup key
  notes : Record.texts entries "finishingSteps" = Record.texts other "finishingSteps"
  successors :
    (successorItems entries).filterMap ofJson? = (successorItems other).filterMap ofJson?

section Alike

variable {entries other before after : List (String × Json)}

/-- Records that have all in common that is read have the same shape. -/
theorem ReadAlike.ofJson?_eq (alike : ReadAlike entries other) :
    ofJson? (.object entries) = ofJson? (.object other) := by
  have height := alike.plain "height" (by decide) (by decide) (by decide)
  have lower := alike.plain "baseA" (by decide) (by decide) (by decide)
  have upper := alike.plain "baseB" (by decide) (by decide) (by decide)
  have shift := alike.plain "baseBHorizontalOffset" (by decide) (by decide) (by decide)
  have label := alike.plain "label" (by decide) (by decide) (by decide)
  have isHem := alike.plain "isHem" (by decide) (by decide) (by decide)
  -- Every field of the segment is read from one of these, or is the texts of the notes.
  have segment : Segment.ofEntries entries = Segment.ofEntries other := by
    simp only [Segment.ofEntries, Record.inches, Record.label?, Record.flag, height, lower, upper,
      shift, label, isHem, alike.notes]
  rw [ofJson?, ofJson?, segment, successorsIn_eq, successorsIn_eq, alike.successors]

/-- Records are read alike when the same is found under all keys that are read. -/
theorem ReadAlike.of_lookup (same : ∀ key ∈ knownKeys, entries.lookup key = other.lookup key) :
    ReadAlike entries other where
  plain key known _ _ := same key known
  notes := by rw [Record.texts, Record.texts, same "finishingSteps" (by decide)]
  successors := by rw [successorItems, successorItems, same "successors" (by decide)]

/-- Records that differ in their successors only are read alike when these have the same shapes. -/
theorem ReadAlike.of_successors
    (rest : ∀ key, key ≠ "successors" → entries.lookup key = other.lookup key)
    (same : (successorItems entries).filterMap ofJson?
      = (successorItems other).filterMap ofJson?) : ReadAlike entries other where
  plain key _ unlike _ := rest key unlike
  notes := by rw [Record.texts, Record.texts, rest "finishingSteps" (by decide)]
  successors := same

/-- Records that differ in their notes only are read alike when these have the same texts. -/
theorem ReadAlike.of_notes
    (rest : ∀ key, key ≠ "finishingSteps" → entries.lookup key = other.lookup key)
    (same : Record.texts entries "finishingSteps" = Record.texts other "finishingSteps") :
    ReadAlike entries other where
  plain key _ _ unlike := rest key unlike
  notes := same
  successors := by rw [successorItems, successorItems, rest "successors" (by decide)]

/-- Another list of successors gives the same shapes when its items do. -/
theorem ReadAlike.replace_successors {items others : List Json}
    (same : items.filterMap ofJson? = others.filterMap ofJson?) :
    ReadAlike (before ++ ("successors", .list items) :: after)
      (before ++ ("successors", .list others) :: after) := by
  apply ReadAlike.of_successors
  · exact fun key unlike => lookup_replace_other unlike _ _
  · rw [successorItems, successorItems, lookup_insert_self, lookup_insert_self]
    -- An entry with the same key in front of the lists would hide both of them.
    cases before.lookup "successors" with
    | none => exact same
    | some value => rfl

/-- Another value for the notes gives the same texts when it has them alone. -/
theorem ReadAlike.replace_notes {value replaced : Json}
    (same : Record.texts [("finishingSteps", value)] "finishingSteps"
      = Record.texts [("finishingSteps", replaced)] "finishingSteps") :
    ReadAlike (before ++ ("finishingSteps", value) :: after)
      (before ++ ("finishingSteps", replaced) :: after) := by
  -- The same key may be there before, and then neither of the two values is looked at.
  apply ReadAlike.of_notes
  · exact fun key unlike => lookup_replace_other unlike _ _
  · rw [Record.texts, Record.texts, lookup_insert_self, lookup_insert_self]
    cases before.lookup "finishingSteps" with
    | none => exact same
    | some value => rfl

end Alike

/-- A change does not change the shape of a record. -/
theorem Noise.ofJson?_eq {value other : Json} (change : Noise value other) :
    ofJson? value = ofJson? other := by
  -- The induction is on how deep the changed record is nested.
  induction change with
  | reordered unique same =>
    exact (ReadAlike.of_lookup fun key _ => lookup_reordered unique same key).ofJson?_eq
  | unknown before after key value unread =>
    -- A key that is read is not the one that is added.
    apply (ReadAlike.of_lookup _).ofJson?_eq
    intro known member
    have unlike : known ≠ key := by
      rintro rfl
      exact unread member
    exact (lookup_insert_other unlike value).symm
  | noSuccessors before after value missing notList =>
    apply (ReadAlike.of_successors _ _).ofJson?_eq
    · intro key unlike
      exact (lookup_insert_other unlike value).symm
    · -- Nothing was found before, and no shapes are found in what is not a list.
      have absent := lookup_absent missing
      rw [List.lookup_append, Option.or_eq_none_iff] at absent
      rw [successorItems, successorItems, lookup_insert_self, List.lookup_append, absent.1,
        absent.2]
      cases value <;> first | rfl | cases notList
  | malformed before after front back item notObject =>
    -- What has no shape leaves no trace among the shapes.
    apply (ReadAlike.replace_successors _).ofJson?_eq
    rw [List.filterMap_append, List.filterMap_append,
      List.filterMap_cons_none ((ofJson?_eq_none_iff item).mpr notObject)]
  | nested before after front back change ih =>
    -- The changed successor has the shape that it had, and its siblings are as they were.
    apply (ReadAlike.replace_successors _).ofJson?_eq
    rw [List.filterMap_append, List.filterMap_append, List.filterMap_cons, List.filterMap_cons, ih]
  | emptyNote before after front back =>
    apply (ReadAlike.replace_notes _).ofJson?_eq
    show (front ++ back).filterMap Record.text? = (front ++ .null :: back).filterMap Record.text?
    rw [List.filterMap_append, List.filterMap_append, List.filterMap_cons_none rfl]
  | loneNote before after note =>
    -- A lone text is read as a list of one.
    apply (ReadAlike.replace_notes _).ofJson?_eq
    rfl

/-- The shapes among values are those of the objects, one each and in their order. -/
theorem map_some_shapes (items : List Json) :
    (items.filterMap ofJson?).map some = (items.filter Json.isObject).map ofJson? := by
  induction items with
  | nil => rfl
  | cons item items ih =>
    cases object : item.isObject with
    | true =>
      -- An object has a shape, which is the next one.
      cases found : ofJson? item with
      | none => simp [(ofJson?_eq_none_iff item).mp found] at object
      | some shape =>
        rw [List.filterMap_cons_some found, List.map_cons, List.filter_cons_of_pos object,
          List.map_cons, ih, found]
    | false =>
      rw [List.filterMap_cons_none ((ofJson?_eq_none_iff item).mpr object),
        List.filter_cons_of_neg (by simp [object]), ih]

/-- A node counts itself and all that its successors count. -/
theorem nodeCount_node (segment : Segment) (successors : List Shape) :
    (node segment successors).nodeCount = 1 + (successors.map nodeCount).sum := by
  -- The nodes of a shape are counted by their segments.
  rw [nodeCount, segments_node, List.length_cons, List.length_flatMap, Nat.add_comm]
  rfl

/-- The number of nodes that a value has as a shape; a value without a shape has none. -/
def countIn (value : Json) : Nat :=
  ((ofJson? value).map nodeCount).getD 0

/--
Values that differ by any number of such changes have the same shape.

Only objects have one, whose successors are the shapes of all objects in the list of successors, in
their order, and which counts one node more than those do.
-/
theorem ofJson?_ignoresNoise (value : Json) :
    (∀ other, Relation.EqvGen Noise value other → ofJson? value = ofJson? other) ∧
    (ofJson? value = none ↔ value.isObject = false) ∧
    ∀ entries, value = .object entries → ∃ shape, ofJson? value = some shape ∧
      shape.successors.map some = ((successorItems entries).filter Json.isObject).map ofJson? ∧
      shape.nodeCount
        = 1 + (((successorItems entries).filter Json.isObject).map countIn).sum := by
  refine ⟨?_, ofJson?_eq_none_iff value, ?_⟩
  · intro other noise
    -- What one change keeps, any number of them keeps, made or taken back.
    induction noise with
    | rel value other change => exact change.ofJson?_eq
    | refl value => rfl
    | symm value other _ ih => exact ih.symm
    | trans value middle other _ _ first second => exact first.trans second
  · rintro entries rfl
    have shapes := map_some_shapes (successorItems entries)
    rw [← successorsIn_eq] at shapes
    refine ⟨_, rfl, shapes, ?_⟩
    have counts := congrArg (List.map fun found => (found.map nodeCount).getD 0) shapes
    rw [List.map_map, List.map_map] at counts
    rw [nodeCount_node]
    exact congrArg (1 + List.sum ·) counts

/-- The record of a shape of two nodes, as it is written without anything that is not needed. -/
def tidyRecord : Json :=
  .object [("height", .whole 1), ("finishingSteps", .text "Turn."),
    ("successors", .list [.object [("height", .whole 2)]])]

/-- The same record with noise at its root and in its successor. -/
def noisyRecord : Json :=
  .object [("colour", .text "red"), ("finishingSteps", .list [.null, .text "Turn."]),
    ("height", .whole 1),
    ("successors", .list [.text "none",
      .object [("successors", .flag true), ("height", .whole 2)]])]

/-- The noise in the record consists of six changes, one of them in the successor. -/
theorem noisyRecord_shape :
    Relation.EqvGen Noise tidyRecord noisyRecord ∧ ofJson? tidyRecord = ofJson? noisyRecord := by
  have noise : Relation.EqvGen Noise tidyRecord noisyRecord := by
    -- A single note is a list of one, and null among the notes is none.
    refine .trans _ _ _ (.rel _ _ (.loneNote [("height", .whole 1)] _ "Turn.")) ?_
    refine .trans _ _ _ (.rel _ _ (.emptyNote [("height", .whole 1)] _ [] _)) ?_
    -- The order of the keys and unknown ones are never looked at.
    refine .trans _ _ _ (.rel _ _ (.reordered (by decide) (.swap _ _ _))) ?_
    refine .trans _ _ _ (.rel _ _ (.unknown [] _ "colour" (.text "red") (by decide))) ?_
    -- A successor that is no record is passed over, and so are successors that are no list.
    refine .trans _ _ _ (.rel _ _ (.malformed [_, _, _] [] [] _ (.text "none") rfl)) ?_
    exact .rel _ _ (.nested [_, _, _] [] [.text "none"] []
      (.noSuccessors [] [("height", .whole 2)] (.flag true) (by decide) rfl))
  exact ⟨noise, (ofJson?_ignoresNoise tidyRecord).1 noisyRecord noise⟩

end Shape

end FlatKnit
