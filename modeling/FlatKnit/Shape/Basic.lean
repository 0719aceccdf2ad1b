import FlatKnit.Shape.Segment

/-! Shapes: trees of segments, each knitted on from its parent as one piece or as sections. -/

namespace FlatKnit

/-- A segment with what is knitted after it: nothing, one continuation, or several sections. -/
inductive Shape where
  | node (segment : Segment) (successors : List Shape)
  deriving Repr, Inhabited

namespace Shape

/-- The segment at the root. -/
def segment : Shape → Segment
  | node segment _ => segment

/-- The shapes that follow the root. -/
def successors : Shape → List Shape
  | node _ successors => successors

/-- What each node has as soon as all of its successors have it, every node has. -/
@[elab_as_elim]
theorem induction {motive : Shape → Prop}
    (node : ∀ segment successors, (∀ child ∈ successors, motive child) →
      motive (.node segment successors)) : ∀ shape, motive shape
  | .node segment successors =>
    node segment successors fun child _ => induction node child
termination_by shape => shape
decreasing_by
  -- A successor is smaller than the list that it is in, and that is smaller than the node.
  have smaller := List.sizeOf_lt_of_mem ‹child ∈ successors›
  rw [Shape.node.sizeOf_spec]
  omega

/-- The line that names a shape is that of its root. -/
def text (shape : Shape) : String :=
  shape.segment.text

mutual

/-- All segments, a parent before its successors. -/
def segments : Shape → List Segment
  | node segment successors => segment :: segmentsOf successors

/-- All segments of a list of shapes. -/
def segmentsOf : List Shape → List Segment
  | [] => []
  | shape :: shapes => segments shape ++ segmentsOf shapes

end

/-- The segments of a list of shapes are those of one shape after the other. -/
theorem segmentsOf_eq_flatMap (shapes : List Shape) :
    segmentsOf shapes = shapes.flatMap segments := by
  induction shapes with
  | nil => rw [segmentsOf, List.flatMap_nil]
  | cons shape shapes ih => rw [segmentsOf, ih, List.flatMap_cons]

/-- The segment of a node comes before those of its successors. -/
theorem segments_node (segment : Segment) (successors : List Shape) :
    (node segment successors).segments = segment :: successors.flatMap segments := by
  rw [segments, segmentsOf_eq_flatMap]

/-- The number of segments. -/
def nodeCount (shape : Shape) : Nat :=
  shape.segments.length

mutual

/-- Whether two shapes are equal, dimensions as numbers. -/
def same : Shape → Shape → Bool
  | node left lefts, node right rights => left.same right && sameAll lefts rights

/-- Whether two lists of shapes are equal one by one. -/
def sameAll : List Shape → List Shape → Bool
  | [], [] => true
  | left :: lefts, right :: rights => same left right && sameAll lefts rights
  | _, _ => false

end

end Shape

end FlatKnit
