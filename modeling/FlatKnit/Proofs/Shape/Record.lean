import FlatKnit.Proofs.Decimal.Equality
import FlatKnit.Proofs.Shape.Numbering
import FlatKnit.Shape.Record

/-! Records of shapes: reading what was written gives the shape back, its finite dimensions kept. -/

namespace FlatKnit

/-- A number for which there is no JSON number becomes zero. -/
def finiteOrZero (value : Float) : Float :=
  if value.isFinite then value else 0.0

/-- A finite number stays as it is, and every other one is changed. -/
theorem finiteOrZero_eq_self_iff (value : Float) :
    finiteOrZero value = value ↔ value.isFinite = true := by
  by_cases finite : value.isFinite = true
  · simp [finiteOrZero, finite]
  · -- Zero is finite, so it is not the number that it stands for.
    rw [finiteOrZero, if_neg finite]
    refine ⟨fun same => ?_, fun finite' => absurd finite' finite⟩
    rw [← same]
    decide

/-- What becomes of a number equals it only when the number is finite. -/
theorem finiteOrZero_beq_iff (value : Float) :
    (finiteOrZero value == value) = true ↔ value.isFinite = true := by
  -- A number equal to zero is finite; one that is not finite equals no finite number.
  by_cases finite : value.isFinite = true
  · simp [finiteOrZero, finite, beq_self_of_isFinite finite]
  · rw [finiteOrZero, if_neg finite]
    refine ⟨fun equal => ?_, fun finite' => absurd finite' finite⟩
    rw [← isFinite_eq_of_beq equal]
    decide

namespace Record

variable {entries : List (String × Json)} {key : String}

/-- A length that was written reads back, unless there is no number for it. -/
theorem inches_of_lookup (value : Float) (found : entries.lookup key = some (.ofFloat value)) :
    inches entries key = finiteOrZero value := by
  -- A number that is not finite is written as null, which reads as no length.
  rw [inches, found]
  by_cases finite : value.isFinite = true
  · simp [Json.ofFloat, finiteOrZero, finite]
  · simp [Json.ofFloat, finiteOrZero, finite]

/-- Texts that were written read back one by one. -/
theorem texts_of_lookup (values : List String)
    (found : entries.lookup key = some (.ofTexts values)) : texts entries key = values := by
  -- Every value in the list is a text, so none is left out.
  rw [texts, found]
  show (values.map Json.text).filterMap text? = values
  rw [List.filterMap_map]
  exact List.filterMap_some

/-- A label that was written reads back, and so does the lack of one. -/
theorem label?_of_lookup (label : Option String)
    (found : entries.lookup key = some (.ofTextOption label)) : label? entries key = label := by
  -- The lack of a label is written as null, which is no text.
  rw [label?, found]
  cases label with
  | none => rfl
  | some label => rfl

/-- A flag that was written reads back. -/
theorem flag_of_lookup (value : Bool) (found : entries.lookup key = some (.flag value)) :
    flag entries key = value := by
  rw [flag, found]

end Record

namespace Segment

/-- The segment with finite dimensions: those that are not finite are zero. -/
def cleaned (segment : Segment) : Segment :=
  { segment with
    height := finiteOrZero segment.height
    lower := finiteOrZero segment.lower
    upper := finiteOrZero segment.upper
    shift := finiteOrZero segment.shift }

/-- Every dimension is finite. -/
structure FiniteDimensions (segment : Segment) : Prop where
  height : segment.height.isFinite = true
  lower : segment.lower.isFinite = true
  upper : segment.upper.isFinite = true
  shift : segment.shift.isFinite = true

/-- Only a segment with finite dimensions is not changed. -/
theorem cleaned_eq_self_iff (segment : Segment) :
    segment.cleaned = segment ↔ segment.FiniteDimensions := by
  constructor
  · -- Each dimension is among the fields that are equal.
    intro same
    refine ⟨?_, ?_, ?_, ?_⟩
    · exact (finiteOrZero_eq_self_iff _).mp (congrArg Segment.height same)
    · exact (finiteOrZero_eq_self_iff _).mp (congrArg Segment.lower same)
    · exact (finiteOrZero_eq_self_iff _).mp (congrArg Segment.upper same)
    · exact (finiteOrZero_eq_self_iff _).mp (congrArg Segment.shift same)
  · rintro ⟨height, lower, upper, shift⟩
    simp [cleaned, finiteOrZero, height, lower, upper, shift]

/-- As numbers, too, only finite dimensions are not changed. -/
theorem same_cleaned_iff (segment : Segment) :
    segment.cleaned.same segment = true ↔ segment.FiniteDimensions := by
  -- The dimensions are compared one by one, and all else is not cleaned.
  simp only [same, cleaned, Bool.and_eq_true, finiteOrZero_beq_iff, beq_self_eq_true, and_true]
  constructor
  · rintro ⟨⟨⟨height, lower⟩, upper⟩, shift⟩
    exact ⟨height, lower, upper, shift⟩
  · rintro ⟨height, lower, upper, shift⟩
    exact ⟨⟨⟨height, lower⟩, upper⟩, shift⟩

/-- The fields of a segment that were written describe the segment with finite dimensions. -/
theorem ofEntries_toEntries (segment : Segment) (successors : List Json) :
    ofEntries (segment.toEntries successors) = segment.cleaned := by
  -- Every field is written under a key of its own, so each reader finds what was written for it.
  rw [ofEntries, Record.inches_of_lookup segment.height rfl,
    Record.inches_of_lookup segment.lower rfl,
    Record.inches_of_lookup segment.upper rfl,
    Record.inches_of_lookup segment.shift rfl,
    Record.texts_of_lookup segment.notes rfl,
    Record.label?_of_lookup segment.label rfl,
    Record.flag_of_lookup segment.isHem rfl]
  rfl

end Segment

namespace Shape

mutual

/-- The shape with finite dimensions: those that are not finite are zero, at any depth. -/
def cleaned : Shape → Shape
  | node segment successors => node segment.cleaned (cleanedAll successors)

/-- The shapes of a list with finite dimensions. -/
def cleanedAll : List Shape → List Shape
  | [] => []
  | shape :: shapes => cleaned shape :: cleanedAll shapes

end

/-- All shapes of a list are cleaned one by one, in their order. -/
theorem cleanedAll_eq_map (shapes : List Shape) : cleanedAll shapes = shapes.map cleaned := by
  induction shapes with
  | nil => rw [cleanedAll, List.map_nil]
  | cons shape shapes ih => rw [cleanedAll, ih, List.map_cons]

/-- The root of a cleaned shape is cleaned. -/
@[simp] theorem segment_cleaned (shape : Shape) :
    shape.cleaned.segment = shape.segment.cleaned := by
  cases shape with
  | node segment successors => simp [cleaned, Shape.segment]

/-- The successors of a cleaned shape are the cleaned successors. -/
@[simp] theorem successors_cleaned (shape : Shape) :
    shape.cleaned.successors = shape.successors.map cleaned := by
  cases shape with
  | node segment successors => simp [cleaned, Shape.successors, cleanedAll_eq_map]

/-- A cleaned shape has the nodes of the shape, each of them cleaned. -/
theorem nodeAt?_cleaned (way : List Nat) : ∀ shape : Shape,
    shape.cleaned.nodeAt? way = (shape.nodeAt? way).map cleaned := by
  -- The induction is on the way, for any shape that it starts in.
  induction way with
  | nil => exact fun _ => rfl
  | cons index way ih =>
    intro shape
    rw [nodeAt?, nodeAt?, successors_cleaned, List.getElem?_map]
    cases taken : shape.successors[index]? with
    | none => rfl
    | some child => exact ih child

/-- The successors among fields that were written are the shapes among the successors' records. -/
theorem successorsIn_toEntries (segment : Segment) (successors : List Json) :
    successorsIn (segment.toEntries successors) = shapesAmong successors := by
  -- Four dimensions stand before the successors.
  simp [successorsIn, Segment.toEntries, shapesIn]

mutual

/-- The record of a shape reads back as the shape with finite dimensions. -/
theorem ofJson?_toJson : ∀ shape : Shape, ofJson? shape.toJson = some shape.cleaned
  | node segment successors => by
    rw [toJson, ofJson?, Segment.ofEntries_toEntries, successorsIn_toEntries,
      shapesAmong_toJsons successors, cleaned]

/-- The records of shapes read back one by one. -/
theorem shapesAmong_toJsons : ∀ shapes : List Shape,
    shapesAmong (toJsons shapes) = cleanedAll shapes
  | [] => by rw [toJsons, shapesAmong, cleanedAll]
  | shape :: shapes => by
    rw [toJsons, shapesAmong, ofJson?_toJson shape, shapesAmong_toJsons shapes, cleanedAll]

end

/-- Every dimension is finite, at any depth. -/
def FiniteDimensions (shape : Shape) : Prop :=
  ∀ segment ∈ shape.segments, segment.FiniteDimensions

mutual

/-- Only a shape with finite dimensions is not changed. -/
theorem cleaned_eq_self_iff : ∀ shape : Shape, shape.cleaned = shape ↔ shape.FiniteDimensions
  | node segment successors => by
    rw [cleaned, node.injEq, segment.cleaned_eq_self_iff, cleanedAll_eq_self_iff successors,
      FiniteDimensions, segments, List.forall_mem_cons]

/-- Only shapes with finite dimensions are not changed. -/
theorem cleanedAll_eq_self_iff : ∀ shapes : List Shape,
    cleanedAll shapes = shapes ↔ ∀ segment ∈ segmentsOf shapes, segment.FiniteDimensions
  | [] => by simp [cleanedAll, segmentsOf]
  | shape :: shapes => by
    rw [cleanedAll, List.cons.injEq, cleaned_eq_self_iff shape, cleanedAll_eq_self_iff shapes,
      FiniteDimensions, segmentsOf, List.forall_mem_append]

end

mutual

/-- As numbers, too, only finite dimensions are not changed. -/
theorem same_cleaned_iff : ∀ shape : Shape,
    shape.cleaned.same shape = true ↔ shape.FiniteDimensions
  | node segment successors => by
    rw [cleaned, same, Bool.and_eq_true, segment.same_cleaned_iff,
      sameAll_cleanedAll_iff successors, FiniteDimensions, segments, List.forall_mem_cons]

/-- As numbers, too, only shapes with finite dimensions are not changed. -/
theorem sameAll_cleanedAll_iff : ∀ shapes : List Shape,
    sameAll (cleanedAll shapes) shapes = true
      ↔ ∀ segment ∈ segmentsOf shapes, segment.FiniteDimensions
  | [] => by simp [cleanedAll, segmentsOf, sameAll]
  | shape :: shapes => by
    rw [cleanedAll, sameAll, Bool.and_eq_true, same_cleaned_iff shape,
      sameAll_cleanedAll_iff shapes, FiniteDimensions, segmentsOf, List.forall_mem_append]

end

/--
The record of a shape reads back as a shape with the same nodes, dimensions that are not finite
being zero, and as the shape itself exactly when all its dimensions are finite.
-/
theorem record_readsBack (shape : Shape) :
    ofJson? shape.toJson = some shape.cleaned ∧
    (∀ way, (shape.cleaned.nodeAt? way).map Shape.segment
      = (shape.nodeAt? way).map fun found => found.segment.cleaned) ∧
    (ofJson? shape.toJson = some shape ↔ shape.FiniteDimensions) := by
  refine ⟨ofJson?_toJson shape, ?_, ?_⟩
  · -- Cleaning keeps the tree, so both ways lead to the same node or to none.
    intro way
    rw [nodeAt?_cleaned, Option.map_map]
    cases shape.nodeAt? way with
    | none => rfl
    | some found => simp
  · rw [ofJson?_toJson, Option.some.injEq, cleaned_eq_self_iff]

end Shape

end FlatKnit
