import FlatKnit.Proofs.Shape.ClosedForm
import FlatKnit.Shape.Timeline

/-! Row numbers of a timeline: every visited node starts where the rows of its ancestors end. -/

namespace FlatKnit

namespace Shape

/-- The node at the end of a way, which names the position of each successor on it. -/
def nodeAt? (shape : Shape) : List Nat → Option Shape
  | [] => some shape
  | index :: way => shape.successors[index]?.bind fun successor => successor.nodeAt? way

/-- The ways to the nodes of a timeline: the root, and every knitted successor of such a node. -/
inductive Visited (fit : Fit) (shape : Shape) : List Nat → Prop where
  | root : Visited fit shape []
  | successor {way : List Nat} {index : Nat} {found : Shape} (parent : Visited fit shape way)
      (reached : shape.nodeAt? (way ++ [index]) = some found)
      (knitted : found.segment.isKnitted fit = true) : Visited fit shape (way ++ [index])

/-- The rows of the node at the end of a way. -/
def rowsAt (fit : Fit) (shape : Shape) (way : List Nat) : Nat :=
  match shape.nodeAt? way with
  | some found => found.segment.knittedRows fit
  | none => 0

/-- The rows of all nodes on a way before its end. -/
def rowsBefore (fit : Fit) (shape : Shape) (way : List Nat) : Nat :=
  ((List.range way.length).map fun depth => shape.rowsAt fit (way.take depth)).sum

/-- The row number at which the node at the end of a way starts. -/
def startAt (fit : Fit) (start : UInt32) (shape : Shape) (way : List Nat) : UInt32 :=
  start + UInt32.ofNat (shape.rowsBefore fit way)

/-- The plan of the node at the end of a way. -/
def planAt (fit : Fit) (start : UInt32) (shape : Shape) (way : List Nat) : StitchPlan :=
  match shape.nodeAt? way with
  | some found => found.segment.plan fit (shape.startAt fit start way)
  | none => StitchPlan.empty

/-- The rows of all nodes on a way, its end included. -/
def pathRows (fit : Fit) (start : UInt32) (shape : Shape) (way : List Nat) : List Row :=
  (List.range (way.length + 1)).flatMap fun depth =>
    (shape.planAt fit start (way.take depth)).rows

mutual

/-- The ways to the nodes of a timeline, a parent before its successors. -/
def visitedWays (fit : Fit) : Shape → List (List Nat)
  | node _ successors => [] :: successorWays fit 0 successors

/-- The ways through the knitted shapes of a list, whose positions count on from an index. -/
def successorWays (fit : Fit) (index : Nat) : List Shape → List (List Nat)
  | [] => []
  | shape :: shapes =>
    (if shape.segment.isKnitted fit then (visitedWays fit shape).map (index :: ·) else []) ++
      successorWays fit (index + 1) shapes

end

section Ways

variable {fit : Fit} {shape child : Shape} {index : Nat}

/-- A way through a successor goes on from there. -/
theorem nodeAt?_cons (taken : shape.successors[index]? = some child) (way : List Nat) :
    shape.nodeAt? (index :: way) = child.nodeAt? way := by
  rw [nodeAt?, taken, Option.bind_some]

/-- The rows at the end of a way through a successor. -/
theorem rowsAt_cons (taken : shape.successors[index]? = some child) (way : List Nat) :
    shape.rowsAt fit (index :: way) = child.rowsAt fit way := by
  rw [rowsAt, nodeAt?_cons taken, rowsAt]

/-- The rows before the end of a way through a successor begin with those of the root. -/
theorem rowsBefore_cons (taken : shape.successors[index]? = some child) (way : List Nat) :
    shape.rowsBefore fit (index :: way)
      = shape.segment.knittedRows fit + child.rowsBefore fit way := by
  -- The root is the first node on the way, and the others lie on the way through the successor.
  rw [rowsBefore, List.length_cons, List.range_succ_eq_map, List.map_cons, List.sum_cons,
    List.map_map, rowsBefore]
  congr 2
  apply List.map_congr_left
  intro depth _
  exact rowsAt_cons taken (way.take depth)

/-- The plan at the end of a way through a successor starts after the rows of the root. -/
theorem planAt_cons (start : UInt32) (taken : shape.successors[index]? = some child)
    (way : List Nat) :
    shape.planAt fit start (index :: way)
      = child.planAt fit (start + UInt32.ofNat (shape.segment.knittedRows fit)) way := by
  -- Both sides end in the same node, and the row numbers before it add up to the same.
  rw [planAt, planAt, nodeAt?_cons taken, startAt, startAt, rowsBefore_cons taken,
    UInt32.ofNat_add, UInt32.add_assoc]

/-- A successor has the rows of its parent before it, beside those before the parent. -/
theorem rowsBefore_append (fit : Fit) (shape : Shape) (way : List Nat) (index : Nat) :
    shape.rowsBefore fit (way ++ [index])
      = shape.rowsBefore fit way + shape.rowsAt fit way := by
  -- The parent is the last node before the end, and the way to it is what is left of the way.
  rw [rowsBefore, List.length_append, List.length_singleton, List.range_succ, List.map_append,
    List.sum_append, List.map_singleton, List.sum_singleton, List.take_left]
  congr 2
  apply List.map_congr_left
  intro depth within
  rw [List.take_append_of_le_length (Nat.le_of_lt (List.mem_range.mp within))]

/-- A visited way through a successor is one of that successor, which is knitted. -/
theorem visited_cons {way : List Nat} :
    Visited fit shape (index :: way) ↔ ∃ child, shape.successors[index]? = some child ∧
      child.segment.isKnitted fit = true ∧ Visited fit child way := by
  constructor
  · -- Ways grow at their end, so the induction takes the last step of the way off.
    intro visited
    generalize whole : index :: way = full at visited
    induction visited generalizing way with
    -- The root has no last step, and so it is not reached by a way that takes one.
    | root => simp at whole
    | @successor before last found parent reached knitted ih =>
      cases before with
      | nil =>
        obtain ⟨rfl, rfl⟩ := List.cons.inj whole
        have taken : shape.successors[index]? = some found := by simpa [nodeAt?] using reached
        exact ⟨found, taken, knitted, Visited.root⟩
      | cons first before =>
        obtain ⟨rfl, rfl⟩ := List.cons.inj whole
        -- The way without its last step starts alike, and its child visits the rest of it.
        obtain ⟨child, taken, childKnitted, visited⟩ := ih rfl
        rw [List.cons_append, nodeAt?_cons taken] at reached
        exact ⟨child, taken, childKnitted, Visited.successor visited reached knitted⟩
  · rintro ⟨child, taken, childKnitted, visited⟩
    induction visited with
    | root =>
      have reached : shape.nodeAt? ([] ++ [index]) = some child := nodeAt?_cons taken []
      exact Visited.successor Visited.root reached childKnitted
    | @successor before last found parent reached knitted ih =>
      rw [← nodeAt?_cons taken, ← List.cons_append] at reached
      rw [← List.cons_append]
      exact Visited.successor ih reached knitted

/-- A visited way ends in a node. -/
theorem Visited.nodeAt?_eq_some {way : List Nat} (visited : Visited fit shape way) :
    ∃ found, shape.nodeAt? way = some found := by
  cases visited with
  | root => exact ⟨shape, rfl⟩
  | successor _ reached _ => exact ⟨_, reached⟩

end Ways

/-- A way through a list of successors names a knitted one and goes on within it. -/
theorem mem_successorWays {fit : Fit} {shapes : List Shape} :
    ∀ {index : Nat} {way : List Nat}, way ∈ successorWays fit index shapes ↔
      ∃ position child rest, way = (index + position) :: rest ∧ shapes[position]? = some child ∧
        child.segment.isKnitted fit = true ∧ rest ∈ visitedWays fit child := by
  -- The index that positions count from moves up as the list is taken apart.
  induction shapes with
  | nil => simp [successorWays]
  | cons first shapes ih =>
    intro index way
    rw [successorWays, List.mem_append]
    constructor
    · rintro (member | member)
      · cases knitted : first.segment.isKnitted fit with
        | false => simp [knitted] at member
        | true =>
          rw [if_pos knitted] at member
          obtain ⟨rest, within, rfl⟩ := List.mem_map.mp member
          exact ⟨0, first, rest, rfl, rfl, knitted, within⟩
      · obtain ⟨position, child, rest, rfl, taken, knitted, within⟩ := ih.mp member
        -- A position among the others is one further on in the whole list.
        exact ⟨position + 1, child, rest, by rw [Nat.add_right_comm, Nat.add_assoc], taken,
          knitted, within⟩
    · rintro ⟨position, child, rest, rfl, taken, knitted, within⟩
      cases position with
      | zero =>
        obtain rfl : first = child := Option.some.inj taken
        rw [if_pos knitted]
        exact Or.inl (List.mem_map.mpr ⟨rest, within, rfl⟩)
      | succ position =>
        exact Or.inr (ih.mpr ⟨position, child, rest, by rw [Nat.add_right_comm, Nat.add_assoc],
          taken, knitted, within⟩)

/-- The listed ways are those to visited nodes. -/
theorem mem_visitedWays {fit : Fit} {way : List Nat} :
    ∀ {shape : Shape}, way ∈ visitedWays fit shape ↔ Visited fit shape way := by
  -- The first step of a way names the successor, and the rest is a way within it.
  induction way with
  | nil =>
    rintro ⟨segment, successors⟩
    simp [visitedWays, Visited.root]
  | cons index way ih =>
    rintro ⟨segment, successors⟩
    rw [visited_cons, visitedWays, List.mem_cons, mem_successorWays]
    constructor
    · rintro (none | ⟨position, child, rest, split, taken, knitted, within⟩)
      · simp at none
      · rw [Nat.zero_add] at split
        obtain ⟨rfl, rfl⟩ := List.cons.inj split
        exact ⟨child, taken, knitted, ih.mp within⟩
    · rintro ⟨child, taken, knitted, visited⟩
      exact Or.inr ⟨index, child, way, by rw [Nat.zero_add], taken, knitted, ih.mpr visited⟩

mutual

/-- The listed ways are in order: a parent first, then its successors from left to right. -/
theorem pairwise_visitedWays (fit : Fit) :
    ∀ shape : Shape, (visitedWays fit shape).Pairwise (· < ·)
  | .node _ successors => by
    -- The way to the root is empty, and the empty way comes before all others.
    rw [visitedWays, List.pairwise_cons]
    refine ⟨?_, pairwise_successorWays fit 0 successors⟩
    intro way member
    obtain ⟨position, child, rest, rfl, _⟩ := mem_successorWays.mp member
    exact List.nil_lt_cons _ _

/-- The ways through a list of successors are in order. -/
theorem pairwise_successorWays (fit : Fit) :
    ∀ (index : Nat) (shapes : List Shape), (successorWays fit index shapes).Pairwise (· < ·)
  | _, [] => List.Pairwise.nil
  | index, first :: shapes => by
    rw [successorWays, List.pairwise_append]
    refine ⟨?_, pairwise_successorWays fit (index + 1) shapes, ?_⟩
    · cases first.segment.isKnitted fit with
      | false => exact List.Pairwise.nil
      | true =>
        rw [if_pos rfl, List.pairwise_map]
        -- Ways through one successor keep their order behind its position.
        exact (pairwise_visitedWays fit first).imp fun ordered =>
          List.cons_lt_cons_iff.mpr (Or.inr ⟨rfl, ordered⟩)
    · -- Ways through later successors name a greater position first.
      intro way member later laterMember
      obtain ⟨position, child, rest, rfl, _⟩ := mem_successorWays.mp laterMember
      cases knitted : first.segment.isKnitted fit with
      | false => simp [knitted] at member
      | true =>
        rw [if_pos knitted] at member
        obtain ⟨within, _, rfl⟩ := List.mem_map.mp member
        exact List.cons_lt_cons_iff.mpr (Or.inl (by omega))

end

mutual

/-- The plans of a shape are those of its visited nodes. -/
theorem plans_eq_map (fit : Fit) :
    ∀ (start : UInt32) (shape : Shape),
      shape.plans fit start = (visitedWays fit shape).map (shape.planAt fit start)
  | start, .node segment successors => by
    -- The root starts at the given row, and its successors where its own rows end.
    have root : (node segment successors).planAt fit start [] = segment.plan fit start := by
      simp [planAt, nodeAt?, startAt, rowsBefore, Shape.segment]
    rw [plans, visitedWays, List.map_cons, root, Segment.nextRow_plan]
    congr 1
    exact successorPlans_eq_map fit start (node segment successors) 0 successors
      fun position => by rw [Nat.zero_add]; rfl

/-- The plans of successors are those of the nodes that ways through them end in. -/
theorem successorPlans_eq_map (fit : Fit) :
    ∀ (start : UInt32) (parent : Shape) (index : Nat) (shapes : List Shape),
      (∀ position : Nat, parent.successors[index + position]? = shapes[position]?) →
      successorPlans fit (start + UInt32.ofNat (parent.segment.knittedRows fit)) shapes
        = (successorWays fit index shapes).map (parent.planAt fit start)
  | _, _, _, [], _ => rfl
  | start, parent, index, first :: shapes, listed => by
    have taken : parent.successors[index]? = some first := listed 0
    have later := successorPlans_eq_map fit start parent (index + 1) shapes fun position => by
      rw [Nat.add_right_comm, Nat.add_assoc, listed (position + 1), List.getElem?_cons_succ]
    rw [successorPlans, successorWays, List.map_append, later]
    congr 1
    cases knitted : first.segment.isKnitted fit with
    | false => rfl
    | true =>
      -- A knitted successor starts where the rows of its parent end.
      rw [if_pos rfl, if_pos rfl, List.map_map, plans_eq_map fit _ first]
      apply List.map_congr_left
      intro way _
      exact (planAt_cons start taken way).symm

end

/-- The rows of a node are numbered from the rows of its ancestors on. -/
theorem planAt_numbers {fit : Fit} {start : UInt32} {shape : Shape} {way : List Nat}
    (inside : start.toNat + (shape.rowsBefore fit way + shape.rowsAt fit way) ≤ 2 ^ 32) :
    (shape.planAt fit start way).rows.map (fun row => row.number.toNat)
      = List.range' (start.toNat + shape.rowsBefore fit way) (shape.rowsAt fit way) := by
  -- The plan of a node is numbered from its start, which is exact while the numbers last.
  unfold planAt rowsAt at *
  cases found : shape.nodeAt? way with
  | none => rfl
  | some last =>
    simp only [found] at inside ⊢
    by_cases rowless : last.segment.knittedRows fit = 0
    · -- Without rows there is nothing to number, even past the last number.
      rw [Segment.plan_eq_empty _ rowless, rowless]
      rfl
    · have exact : (shape.startAt fit start way).toNat
          = start.toNat + shape.rowsBefore fit way :=
        Segment.toNat_add_ofNat (by omega)
      rw [Segment.plan_numbers (by rw [exact]; omega), exact]

/-- A longer way adds the rows of its end. -/
theorem pathRows_append (fit : Fit) (start : UInt32) (shape : Shape) (way : List Nat)
    (index : Nat) :
    shape.pathRows fit start (way ++ [index])
      = shape.pathRows fit start way ++ (shape.planAt fit start (way ++ [index])).rows := by
  -- The shorter ways are those of the parent, up to the parent itself.
  rw [pathRows, List.length_append, List.length_singleton, List.range_succ, List.flatMap_append,
    List.flatMap_singleton, List.take_of_length_le (by simp), pathRows, List.flatMap_def,
    List.flatMap_def]
  congr 2
  apply List.map_congr_left
  intro depth within
  rw [List.mem_range] at within
  rw [List.take_append_of_le_length (by omega)]

/-- The rows on a way are numbered one after another, from the start of the root on. -/
theorem pathRows_numbers {fit : Fit} {start : UInt32} {shape : Shape} {way : List Nat}
    (visited : Visited fit shape way)
    (inside : start.toNat + (shape.rowsBefore fit way + shape.rowsAt fit way) ≤ 2 ^ 32) :
    (shape.pathRows fit start way).map (fun row => row.number.toNat)
      = List.range' start.toNat (shape.rowsBefore fit way + shape.rowsAt fit way) := by
  -- A successor is numbered on from where its parent ends.
  induction visited with
  | root =>
    have numbers := planAt_numbers inside
    simpa [pathRows, rowsBefore] using numbers
  | @successor way index found parent reached knitted ih =>
    have before := shape.rowsBefore_append fit way index
    have numbers := planAt_numbers inside
    rw [pathRows_append, List.map_append, numbers, before, ih (by omega), List.range'_append_1]

/-- Behind the rows of every node of a timeline one more row number is left. -/
def NumbersLast (fit : Fit) (start : UInt32) (shape : Shape) : Prop :=
  ∀ way, Visited fit shape way →
    start.toNat + (shape.rowsBefore fit way + shape.rowsAt fit way) < 2 ^ 32

/-- No sum and no row number on a timeline leaves its word. -/
structure PlansHeld (fit : Fit) (start : UInt32) (shape : Shape) : Prop where
  sums : ∀ way found, Visited fit shape way → shape.nodeAt? way = some found →
    found.segment.SumsHeld fit
  numbers : shape.NumbersLast fit start

/-- A shape is held when its root is, and behind the rows of the root its knitted successors are. -/
theorem plansHeld_node {fit : Fit} {start : UInt32} {segment : Segment} {successors : List Shape} :
    (node segment successors).PlansHeld fit start ↔
      (segment.SumsHeld fit ∧ start.toNat + segment.knittedRows fit < 2 ^ 32) ∧
        ∀ child ∈ successors, child.segment.isKnitted fit = true →
          child.PlansHeld fit (start + UInt32.ofNat (segment.knittedRows fit)) := by
  constructor
  · intro held
    have inside : start.toNat + segment.knittedRows fit < 2 ^ 32 := by
      simpa [rowsBefore, rowsAt, nodeAt?, Shape.segment] using held.numbers [] .root
    refine ⟨⟨held.sums [] _ .root rfl, inside⟩, ?_⟩
    intro child member knitted
    obtain ⟨index, taken⟩ := List.mem_iff_getElem?.mp member
    -- A way within a successor is one of the whole, which goes through the successor first.
    have onward {way : List Nat} (visited : Visited fit child way) :
        Visited fit (node segment successors) (index :: way) :=
      visited_cons.mpr ⟨child, taken, knitted, visited⟩
    refine ⟨?_, ?_⟩
    · intro way found visited reached
      exact held.sums _ _ (onward visited) ((nodeAt?_cons taken way).trans reached)
    · intro way visited
      have numbers := held.numbers _ (onward visited)
      rw [rowsBefore_cons taken, rowsAt_cons taken] at numbers
      rw [Segment.toNat_add_ofNat inside]
      change _ + (segment.knittedRows fit + _ + _) < _ at numbers
      omega
  · rintro ⟨⟨sums, inside⟩, children⟩
    refine ⟨?_, ?_⟩
    · intro way found visited reached
      cases way with
      | nil =>
        obtain rfl := Option.some.inj reached
        exact sums
      | cons index way =>
        obtain ⟨child, taken, knitted, within⟩ := visited_cons.mp visited
        rw [nodeAt?_cons taken] at reached
        exact (children child (List.mem_of_getElem? taken) knitted).sums _ _ within reached
    · intro way visited
      cases way with
      | nil => simpa [rowsBefore, rowsAt, nodeAt?, Shape.segment] using inside
      | cons index way =>
        obtain ⟨child, taken, knitted, within⟩ := visited_cons.mp visited
        have numbers := (children child (List.mem_of_getElem? taken) knitted).numbers _ within
        rw [Segment.toNat_add_ofNat inside] at numbers
        rw [rowsBefore_cons taken, rowsAt_cons taken]
        change _ + (segment.knittedRows fit + _ + _) < _
        omega

mutual

/-- The plans of a shape are there exactly when nothing on its timeline leaves its word. -/
theorem plans?_eq_some_iff {fit : Fit} :
    ∀ {start : UInt32} {shape : Shape} {plans : List StitchPlan},
      shape.plans? fit start = some plans ↔
        shape.PlansHeld fit start ∧ shape.plans fit start = plans
  | start, .node segment successors, listed => by
    rw [plansHeld_node, ← Segment.nextRow_plan segment fit start]
    simp only [plans?, plans, Option.bind_eq_bind, Option.bind_eq_some_iff,
      successorPlans?_eq_some_iff, Option.pure_def, Option.some.injEq]
    constructor
    · rintro ⟨plan, there, next, follows, later, ⟨children, rfl⟩, rfl⟩
      rw [Segment.nextRow?_of_plan? there, Option.some.injEq] at follows
      obtain rfl := follows
      obtain ⟨root, rfl⟩ := Segment.plan?_eq_some_iff.mp there
      exact ⟨⟨root, children⟩, rfl⟩
    · rintro ⟨⟨root, children⟩, rfl⟩
      have there := Segment.plan?_eq_some_iff.mpr ⟨root, rfl⟩
      exact ⟨_, there, _, Segment.nextRow?_of_plan? there, _, ⟨children, rfl⟩, rfl⟩

/-- The plans of a list are there exactly when nothing in its knitted shapes leaves its word. -/
theorem successorPlans?_eq_some_iff {fit : Fit} :
    ∀ {start : UInt32} {shapes : List Shape} {plans : List StitchPlan},
      successorPlans? fit start shapes = some plans ↔
        (∀ child ∈ shapes, child.segment.isKnitted fit = true → child.PlansHeld fit start) ∧
          successorPlans fit start shapes = plans
  | _, [], plans => by simp [successorPlans?, successorPlans]
  | start, shape :: shapes, listed => by
    simp only [successorPlans?, successorPlans, List.forall_mem_cons, Option.bind_eq_bind,
      Option.bind_eq_some_iff, successorPlans?_eq_some_iff, Option.pure_def, Option.some.injEq]
    constructor
    · rintro ⟨first, here, later, ⟨children, rfl⟩, rfl⟩
      split at here
      · obtain ⟨held, rfl⟩ := plans?_eq_some_iff.mp here
        rename_i knitted
        exact ⟨⟨fun _ => held, children⟩, by rw [if_pos knitted]⟩
      · rename_i boundOff
        obtain rfl := Option.some.inj here
        exact ⟨⟨fun knitted => absurd knitted boundOff, children⟩, by rw [if_neg boundOff]⟩
    · rintro ⟨⟨held, children⟩, rfl⟩
      refine ⟨_, ?_, _, ⟨children, rfl⟩, rfl⟩
      split
      · rename_i knitted
        exact plans?_eq_some_iff.mpr ⟨held knitted, rfl⟩
      · rfl

end

/--
The plans of a shape are those of its visited nodes, in the order of the ways to them, and each of
them starts after the rows of all its ancestors.

On a way from the root down the rows are then numbered without a gap, and a successor starts where
its parent ends, whatever its siblings are. With every step checked, these plans come out unless a
sum leaves its word or a node ends with the last row number there is.
-/
theorem plans_numbering (fit : Fit) (start : UInt32) (shape : Shape) :
    (visitedWays fit shape).Pairwise (· < ·) ∧
    (∀ way, way ∈ visitedWays fit shape ↔ Visited fit shape way) ∧
    shape.plans fit start = (visitedWays fit shape).map (shape.planAt fit start) ∧
    (∀ way, Visited fit shape way → ∃ found, shape.nodeAt? way = some found ∧
      shape.planAt fit start way = found.segment.plan fit (shape.startAt fit start way) ∧
      (start.toNat + shape.rowsBefore fit way < 2 ^ 32 →
        (shape.startAt fit start way).toNat = start.toNat + shape.rowsBefore fit way)) ∧
    (∀ way, Visited fit shape way →
      start.toNat + (shape.rowsBefore fit way + shape.rowsAt fit way) ≤ 2 ^ 32 →
      (shape.pathRows fit start way).map (fun row => row.number.toNat)
        = List.range' start.toNat (shape.rowsBefore fit way + shape.rowsAt fit way)) ∧
    (∀ way index, shape.startAt fit start (way ++ [index])
      = shape.startAt fit start way + UInt32.ofNat (shape.rowsAt fit way)) ∧
    ∀ plans, shape.plans? fit start = some plans ↔
      shape.PlansHeld fit start ∧ shape.plans fit start = plans := by
  -- What is left is where the plan of a way starts, and where the next one on the way does.
  refine ⟨pairwise_visitedWays fit shape, fun way => mem_visitedWays, plans_eq_map fit start shape,
    ?_, fun way => pathRows_numbers, ?_, fun plans => plans?_eq_some_iff⟩
  · intro way visited
    obtain ⟨found, reached⟩ := visited.nodeAt?_eq_some
    refine ⟨found, reached, ?_, Segment.toNat_add_ofNat⟩
    rw [planAt, reached]
  · intro way index
    rw [startAt, rowsBefore_append, UInt32.ofNat_add, ← UInt32.add_assoc, startAt]

/-- A shape with a bound-off section, and one that goes on behind a stretch too low for a row. -/
def forked : Shape :=
  .node Segment.leaning [.node (Segment.plain 0.0 2.0 2.0) [],
    .node (Segment.plain 0.0625 5.0 5.0) [.node Segment.leaning []]]

/-- The way past the low stretch is visited. -/
theorem forked_visited : Visited Segment.leaningFit forked [1, 0] :=
  Visited.successor (Visited.successor Visited.root (show forked.nodeAt? [1] = _ from rfl)
    (by decide)) (show forked.nodeAt? [1, 0] = _ from rfl) (by decide)

/-- Behind the low stretch the numbers go on from the seventh row of the root. -/
theorem forked_numbering :
    Visited Segment.leaningFit forked [1, 0] ∧
      (forked.pathRows Segment.leaningFit 40 [1, 0]).map (fun row => row.number.toNat)
        = List.range' 40 14 := by
  -- The root has seven rows and the node at the end of the way seven more.
  have numbers := (plans_numbering Segment.leaningFit 40 forked).2.2.2.2.1 [1, 0]
    forked_visited (by decide)
  have rows : forked.rowsBefore Segment.leaningFit [1, 0]
      + forked.rowsAt Segment.leaningFit [1, 0] = 14 := by decide
  rw [rows] at numbers
  exact ⟨forked_visited, numbers⟩

end Shape

end FlatKnit
