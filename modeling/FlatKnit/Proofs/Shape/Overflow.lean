import FlatKnit.Proofs.Plan.Overflow
import FlatKnit.Proofs.Shape.Segment
import FlatKnit.Shape.Timeline

/-!
Overflow of timelines: a segment has a plan exactly when no sum along its edges leaves its word and
the row numbers last, and what is there of a shape is what the plain functions give.
-/

namespace FlatKnit

/-- A checked step of spreading gives the plain one, while the change and what is due are words. -/
theorem spreadStep?_eq_some_iff {change rows carried : Int64} {taken : Int64 × Int64} :
    spreadStep? change rows carried = some taken ↔
      (IsWord change.toInt.natAbs ∧ IsWord (carried.toInt + change.toInt.natAbs)) ∧
        spreadStep change rows carried = taken := by
  simp only [spreadStep?, spreadStep, Option.bind_eq_bind, Option.bind_eq_some_iff,
    magnitude?_eq_some_iff, sum?_eq_some_iff, Option.pure_def, Option.some.injEq]
  constructor
  · rintro ⟨_, ⟨size, rfl⟩, _, ⟨due, rfl⟩, rfl⟩
    rw [toInt_abs, bmod_eq_of_isWord size] at due
    exact ⟨⟨size, due⟩, rfl⟩
  · rintro ⟨⟨size, due⟩, rfl⟩
    refine ⟨_, ⟨size, rfl⟩, _, ⟨?_, rfl⟩, rfl⟩
    rwa [toInt_abs, bmod_eq_of_isWord size]

namespace Edge

variable {edge : Edge} {index : Nat}

/-- Both sums that are taken along the edge for the row at a position stay within a word. -/
structure HeldAt (edge : Edge) (index : Nat) : Prop where
  due : IsWord (edge.due index)
  sum : IsWord ((edge.count index).toInt + (edge.shaping index).toInt)

/-- The sums along an edge are exact when they are held for every row. -/
theorem exact_iff : edge.Exact ↔ ∀ index < edge.length, edge.HeldAt index :=
  ⟨fun exact index within => ⟨exact.dueHeld index within, exact.sumHeld index within⟩,
    fun held => ⟨fun index within => (held index within).due,
      fun index within => (held index within).sum⟩⟩

/-- Where the sums before a row are held, its step is there when what is due on it is a word. -/
theorem spreadStep?_carried (some : 0 < edge.rows.toInt)
    (held : ∀ earlier < index, edge.HeldAt earlier) {taken : Int64 × Int64} :
    spreadStep? edge.change edge.rows (edge.carried index) = .some taken ↔
      IsWord (edge.due index) ∧ (edge.shaping index, edge.carried (index + 1)) = taken := by
  -- What is carried is not negative, so that the change is no larger than what is due.
  have nonneg := carried_nonneg some fun earlier before => (held earlier before).due
  have least := edge.change.le_toInt
  rw [spreadStep?_eq_some_iff]
  refine and_congr ⟨And.right, fun due => ⟨?_, due⟩⟩ Iff.rfl
  unfold Edge.due at due
  exact ⟨by omega, by have := due.2; omega⟩

end Edge

namespace Segment

variable {segment : Segment} {fit : Fit}

/-- The sums for the row at a position stay within words along both edges. -/
structure HeldAt (segment : Segment) (fit : Fit) (index : Nat) : Prop where
  left : (segment.leftEdge fit).HeldAt index
  right : (segment.rightEdge fit).HeldAt index

/-- No sum that is taken along an edge of the segment leaves its word. -/
structure SumsHeld (segment : Segment) (fit : Fit) : Prop where
  left : (segment.leftEdge fit).Exact
  right : (segment.rightEdge fit).Exact

/-- The sums of a segment are held when they are held for every row. -/
theorem sumsHeld_iff_heldAt :
    segment.SumsHeld fit ↔ ∀ index < segment.knittedRows fit, segment.HeldAt fit index := by
  constructor
  · intro held index within
    exact ⟨Edge.exact_iff.mp held.left index within, Edge.exact_iff.mp held.right index within⟩
  · intro held
    exact ⟨Edge.exact_iff.mpr fun index within => (held index within).left,
      Edge.exact_iff.mpr fun index within => (held index within).right⟩

/-- A segment without rows takes no sums. -/
theorem SumsHeld.of_rowless (rowless : segment.knittedRows fit = 0) : segment.SumsHeld fit :=
  sumsHeld_iff_heldAt.mpr (by simp [rowless])

/-- Where the sums before a row are held, the row is there when its own sums are held. -/
theorem step?_eq_some_iff (some : 0 < segment.knittedRows fit) {index : Nat}
    (held : ∀ earlier < index, segment.HeldAt fit earlier) {number : UInt32}
    {moved : Row × TaperState} :
    (segment.taper fit).step? number (segment.stateAfter fit index) = .some moved ↔
      segment.HeldAt fit index ∧
        (segment.rowAfter fit number index, segment.stateAfter fit (index + 1)) = moved := by
  have positive : 0 < (segment.rowCount fit).toInt := by
    rw [rowCount_toInt some]
    omega
  have left (taken : Int64 × Int64) := @Edge.spreadStep?_carried (segment.leftEdge fit) index
    positive (fun earlier before => (held earlier before).left) taken
  have right (taken : Int64 × Int64) := @Edge.spreadStep?_carried (segment.rightEdge fit) index
    positive (fun earlier before => (held earlier before).right) taken
  simp only [leftEdge, rightEdge] at left right
  simp only [Taper.step?, taper, stateAfter, leftEdge, rightEdge, Option.bind_eq_bind,
    Option.bind_eq_some_iff, left, right, sum?_eq_some_iff, Option.pure_def, Option.some.injEq]
  constructor
  · rintro ⟨_, ⟨leftDue, rfl⟩, _, ⟨rightDue, rfl⟩, _, ⟨leftSum, rfl⟩, _, ⟨rightSum, rfl⟩, rfl⟩
    exact ⟨⟨⟨leftDue, leftSum⟩, ⟨rightDue, rightSum⟩⟩, rfl⟩
  · rintro ⟨⟨leftHeld, rightHeld⟩, rfl⟩
    exact ⟨_, ⟨leftHeld.due, rfl⟩, _, ⟨rightHeld.due, rfl⟩, _, ⟨leftHeld.sum, rfl⟩, _,
      ⟨rightHeld.sum, rfl⟩, rfl⟩

/-- Further rows are there when their sums are held and one number more than theirs is left. -/
theorem rowsFrom?_eq_some_iff (some : 0 < segment.knittedRows fit) {count : Nat} :
    ∀ {number : UInt32} {index : Nat} {rows : List Row},
      (∀ earlier < index, segment.HeldAt fit earlier) →
      ((segment.taper fit).rowsFrom? number (segment.stateAfter fit index) count = .some rows ↔
        ((∀ further < count, segment.HeldAt fit (index + further)) ∧
            number.toNat + count < 2 ^ 32) ∧
          (segment.taper fit).rowsFrom number (segment.stateAfter fit index) count = rows) := by
  induction count with
  | zero =>
    intro number index rows _
    have inside := number.toNat_lt
    simpa [Taper.rowsFrom?, Taper.rowsFrom] using fun _ => inside
  | succ count ih =>
    intro number index rows held
    simp only [Taper.rowsFrom?, Taper.rowsFrom, step_stateAfter, Option.bind_eq_bind,
      Option.bind_eq_some_iff, numberAfter?_eq_some_iff, step?_eq_some_iff some held,
      Option.pure_def, Option.some.injEq]
    -- Once the first row is there, its sums are among those that the later rows rely on.
    have onward (here : segment.HeldAt fit index) :
        ∀ earlier < index + 1, segment.HeldAt fit earlier := by
      intro earlier before
      rcases Nat.lt_succ_iff_lt_or_eq.mp before with earlier | rfl
      · exact held _ earlier
      · exact here
    constructor
    · rintro ⟨_, ⟨inside, rfl⟩, _, ⟨here, rfl⟩, later, rest, rfl⟩
      obtain ⟨⟨further, numbers⟩, rfl⟩ := (ih (onward here)).mp rest
      rw [toNat_add_one inside] at numbers
      refine ⟨⟨?_, by omega⟩, rfl⟩
      intro position within
      cases position with
      | zero => exact here
      | succ position =>
        rw [← Nat.add_assoc, Nat.add_right_comm]
        exact further position (by omega)
    · rintro ⟨⟨further, numbers⟩, rfl⟩
      have here : segment.HeldAt fit index := further 0 (by omega)
      have inside : number.toNat + 1 < 2 ^ 32 := by omega
      refine ⟨_, ⟨inside, rfl⟩, _, ⟨here, rfl⟩, _, (ih (onward here)).mpr ⟨⟨?_, ?_⟩, rfl⟩, rfl⟩
      · intro position within
        rw [Nat.add_right_comm, Nat.add_assoc]
        exact further (position + 1) (by omega)
      · rw [toNat_add_one inside]
        omega

/-- A segment has a plan exactly when its sums are held and one row number more is left. -/
theorem plan?_eq_some_iff {start : UInt32} {plan : StitchPlan} :
    segment.plan? fit start = some plan ↔
      (segment.SumsHeld fit ∧ start.toNat + segment.knittedRows fit < 2 ^ 32) ∧
        segment.plan fit start = plan := by
  -- The plan starts before all rows, where nothing is carried and no sum has been taken.
  have rows (rows : List Row) : (segment.taper fit).rowsFrom? start (segment.stateAfter fit 0)
      (segment.knittedRows fit) = some rows ↔
        (segment.SumsHeld fit ∧ start.toNat + segment.knittedRows fit < 2 ^ 32) ∧
          (segment.plan fit start).rows = rows := by
    by_cases rowless : segment.knittedRows fit = 0
    · have held : segment.SumsHeld fit := .of_rowless rowless
      have inside := start.toNat_lt
      rw [plan_eq_empty start rowless, rowless]
      simpa [Taper.rowsFrom?, StitchPlan.empty, held] using fun _ => inside
    · rw [rowsFrom?_eq_some_iff (Nat.pos_of_ne_zero rowless) (by simp), sumsHeld_iff_heldAt]
      simp only [Nat.zero_add]
      rfl
  have unfolded : segment.plan? fit start = ((segment.taper fit).rowsFrom? start
      (segment.stateAfter fit 0) (segment.knittedRows fit)).map StitchPlan.mk := by
    rw [plan?, Option.map_eq_bind]
    rfl
  rw [unfolded, Option.map_eq_some_iff]
  constructor
  · rintro ⟨listed, there, rfl⟩
    obtain ⟨held, rfl⟩ := (rows listed).mp there
    exact ⟨held, rfl⟩
  · rintro ⟨held, rfl⟩
    exact ⟨_, (rows _).mpr ⟨held, rfl⟩, rfl⟩

variable {plan : StitchPlan} {start : UInt32}

/-- A plan that is there leaves a row number for what follows it. -/
theorem nextRow?_of_plan? (there : segment.plan? fit start = some plan) :
    plan.nextRow? start = some (plan.nextRow start) := by
  obtain ⟨⟨_, inside⟩, rfl⟩ := plan?_eq_some_iff.mp there
  refine StitchPlan.nextRow?_eq_some_iff.mpr ⟨?_, rfl⟩
  intro last ends
  cases counted : segment.knittedRows fit with
  | zero =>
    rw [plan_eq_empty start counted] at ends
    cases ends
  | succ rows =>
    rw [segment.plan_last? fit start counted] at ends
    obtain rfl := Option.some.inj ends
    have number : (start + UInt32.ofNat rows).toNat = start.toNat + rows :=
      toNat_add_ofNat (by omega)
    simp only [rowAfter, number]
    omega

/-- The own lines of a segment are there when the lines of its plan are. -/
theorem ownLines?_eq_some_iff {lines : List Instruction} :
    segment.ownLines? plan = some lines ↔
      plan.compile?.isSome = true ∧ segment.ownLines plan = lines := by
  rw [ownLines?, ownLines, Option.isSome_iff_exists]
  simp only [Option.bind_eq_bind, Option.bind_eq_some_iff, Option.pure_def, Option.some.injEq]
  constructor
  · rintro ⟨told, there, rfl⟩
    exact ⟨⟨told, there⟩, by rw [StitchPlan.eq_of_compile? there]⟩
  · rintro ⟨⟨told, there⟩, rfl⟩
    exact ⟨told, there, by rw [StitchPlan.eq_of_compile? there]⟩

/-- A plan with lines leaves a count of stitches, that of its last row if it has rows. -/
theorem finalStitches?_of_compile? (told : plan.compile?.isSome = true) :
    segment.finalStitches? fit plan = some (segment.finalStitches fit plan) := by
  obtain ⟨lines, there⟩ := Option.isSome_iff_exists.mp told
  rw [finalStitches?, finalStitches]
  cases ends : plan.last? with
  | none => rfl
  | some last =>
    exact Row.total?_eq_some_iff.mpr ⟨StitchPlan.totalHeld_of_compile? there ends, rfl⟩

end Segment

namespace Shape

variable {fit : Fit} {start : UInt32}

/-- The plans of a shape are there, and so are the lines of each of them. -/
def IsTold (fit : Fit) (start : UInt32) (shape : Shape) : Prop :=
  ∃ plans, shape.plans? fit start = some plans ∧ ∀ plan ∈ plans, plan.compile?.isSome = true

/-- The plans of the knitted shapes of a list are there, and so are the lines of each of them. -/
def AreTold (fit : Fit) (start : UInt32) (shapes : List Shape) : Prop :=
  ∃ plans, successorPlans? fit start shapes = some plans ∧
    ∀ plan ∈ plans, plan.compile?.isSome = true

/-- A shape is told when its root is, and behind the rows of the root its successors are. -/
theorem isTold_node {segment : Segment} {successors : List Shape} :
    (node segment successors).IsTold fit start ↔
      ∃ plan, segment.plan? fit start = some plan ∧ plan.compile?.isSome = true ∧
        AreTold fit (plan.nextRow start) successors := by
  simp only [IsTold, AreTold, plans?, Option.bind_eq_bind, Option.bind_eq_some_iff, Option.pure_def,
    Option.some.injEq]
  constructor
  · rintro ⟨_, ⟨plan, there, next, follows, later, behind, rfl⟩, told⟩
    rw [Segment.nextRow?_of_plan? there, Option.some.injEq] at follows
    obtain rfl := follows
    obtain ⟨here, told⟩ := List.forall_mem_cons.mp told
    exact ⟨plan, there, here, later, behind, told⟩
  · rintro ⟨plan, there, here, later, behind, told⟩
    exact ⟨_, ⟨plan, there, _, Segment.nextRow?_of_plan? there, later, behind, rfl⟩,
      List.forall_mem_cons.mpr ⟨here, told⟩⟩

/-- Where nothing follows, nothing is left to tell. -/
theorem areTold_nil : AreTold fit start [] :=
  ⟨[], rfl, by simp⟩

/-- The shapes of a list are told when the first one is, if it is knitted, and the others are. -/
theorem areTold_cons {shape : Shape} {shapes : List Shape} :
    AreTold fit start (shape :: shapes) ↔
      (shape.segment.isKnitted fit = true → shape.IsTold fit start) ∧
        AreTold fit start shapes := by
  simp only [IsTold, AreTold, successorPlans?, Option.bind_eq_bind, Option.bind_eq_some_iff,
    Option.pure_def, Option.some.injEq]
  constructor
  · rintro ⟨_, ⟨here, there, later, behind, rfl⟩, told⟩
    obtain ⟨hereTold, laterTold⟩ := List.forall_mem_append.mp told
    refine ⟨fun knitted => ⟨here, ?_, hereTold⟩, later, behind, laterTold⟩
    rwa [if_pos knitted] at there
  · rintro ⟨onward, later, behind, laterTold⟩
    by_cases knitted : shape.segment.isKnitted fit = true
    · obtain ⟨here, there, hereTold⟩ := onward knitted
      exact ⟨_, ⟨here, by rw [if_pos knitted, there], later, behind, rfl⟩,
        List.forall_mem_append.mpr ⟨hereTold, laterTold⟩⟩
    · exact ⟨_, ⟨[], by rw [if_neg knitted], later, behind, rfl⟩, laterTold⟩

/--
Where what stands behind a root is there exactly when its successors are told, the own lines of the
root with what stands behind them are there exactly when the shape is told.
-/
theorem isTold_iff_of_behind {segment : Segment} {successors : List Shape}
    {behind? : StitchPlan → UInt32 → Option (List Instruction)}
    (behind : StitchPlan → UInt32 → List Instruction) {lines : List Instruction}
    (follows : ∀ plan later, plan.compile?.isSome = true →
      (behind? plan (plan.nextRow start) = some later ↔
        AreTold fit (plan.nextRow start) successors ∧
          behind plan (plan.nextRow start) = later)) :
    (do
      let plan ← segment.plan? fit start
      let own ← segment.ownLines? plan
      let next ← plan.nextRow? start
      let later ← behind? plan next
      return own ++ later) = some lines ↔
        (node segment successors).IsTold fit start ∧
          segment.ownLines (segment.plan fit start) ++
            behind (segment.plan fit start) ((segment.plan fit start).nextRow start) = lines := by
  rw [isTold_node]
  simp only [Option.bind_eq_bind, Option.bind_eq_some_iff, Segment.ownLines?_eq_some_iff,
    Option.pure_def, Option.some.injEq]
  constructor
  · rintro ⟨plan, there, _, ⟨owns, rfl⟩, next, nextRow, later, goesOn, rfl⟩
    rw [Segment.nextRow?_of_plan? there, Option.some.injEq] at nextRow
    obtain rfl := nextRow
    obtain ⟨_, rfl⟩ := Segment.plan?_eq_some_iff.mp there
    obtain ⟨onward, rfl⟩ := (follows _ _ owns).mp goesOn
    exact ⟨⟨_, there, owns, onward⟩, rfl⟩
  · rintro ⟨⟨plan, there, owns, onward⟩, rfl⟩
    obtain ⟨_, rfl⟩ := Segment.plan?_eq_some_iff.mp there
    exact ⟨_, there, _, ⟨owns, rfl⟩, _, Segment.nextRow?_of_plan? there, _,
      (follows _ _ owns).mpr ⟨onward, rfl⟩, rfl⟩

mutual

/-- The lines of a shape are there exactly when all of its plans are told. -/
theorem lines?_eq_some_iff : ∀ {start : UInt32} {shape : Shape} {lines : List Instruction},
    shape.lines? fit start = some lines ↔ shape.IsTold fit start ∧ shape.lines fit start = lines
  | start, .node segment [], told => by
    rw [lines?, lines]
    -- The count that is bound off is that of the last row, which a line has told already.
    refine isTold_iff_of_behind (fun plan _ => [.bindOff (segment.finalStitches fit plan)]) ?_
    intro plan later owns
    simp [Segment.finalStitches?_of_compile? owns, areTold_nil]
  | start, .node segment [only], told => by
    rw [lines?, lines]
    refine isTold_iff_of_behind (fun _ next =>
      if only.segment.isKnitted fit then lines fit next only
      else [.bindOff (only.segment.lowerStitches fit)]) ?_
    intro plan later _
    by_cases knitted : only.segment.isKnitted fit = true
    · simp [knitted, areTold_cons, areTold_nil, lines?_eq_some_iff]
    · simp [knitted, areTold_cons, areTold_nil]
  | start, .node segment (first :: second :: rest), told => by
    rw [lines?, lines]
    refine isTold_iff_of_behind (fun _ next => .divide (rest.length + 2) ::
      sectionLines fit next 1 (first :: second :: rest)) ?_
    intro plan later _
    simp [sectionLines?_eq_some_iff, and_assoc]

/-- The lines of sections are there exactly when all of their plans are told. -/
theorem sectionLines?_eq_some_iff :
    ∀ {start : UInt32} {index : Nat} {shapes : List Shape} {lines : List Instruction},
      sectionLines? fit start index shapes = some lines ↔
        AreTold fit start shapes ∧ sectionLines fit start index shapes = lines
  | _, _, [], lines => by simp [sectionLines?, sectionLines, areTold_nil]
  | start, index, shape :: shapes, lines => by
    simp only [sectionLines?, sectionLines, areTold_cons, Option.bind_eq_bind,
      Option.bind_eq_some_iff, sectionLines?_eq_some_iff, Option.pure_def, Option.some.injEq]
    by_cases knitted : shape.segment.isKnitted fit = true
    · simp only [if_pos knitted, Option.map_eq_some_iff, lines?_eq_some_iff]
      constructor
      · rintro ⟨_, ⟨_, ⟨here, rfl⟩, rfl⟩, _, ⟨later, rfl⟩, rfl⟩
        exact ⟨⟨fun _ => here, later⟩, rfl⟩
      · rintro ⟨⟨here, later⟩, rfl⟩
        exact ⟨_, ⟨_, ⟨here knitted, rfl⟩, rfl⟩, _, ⟨later, rfl⟩, rfl⟩
    · simp only [if_neg knitted]
      constructor
      · rintro ⟨_, here, _, ⟨later, rfl⟩, rfl⟩
        exact ⟨⟨fun isKnitted => absurd isKnitted knitted, later⟩, by rw [Option.some.inj here]⟩
      · rintro ⟨⟨_, later⟩, rfl⟩
        exact ⟨_, rfl, _, ⟨later, rfl⟩, rfl⟩

end

/-- A cast-on is there when the root has a plan whose first row has a word of stitches. -/
theorem castOn?_eq_some_iff {shape : Shape} {lines : List Instruction} :
    shape.castOn? fit start = some lines ↔
      ((∃ plan, shape.segment.plan? fit start = some plan) ∧
        ∀ row, (shape.segment.plan fit start).first? = some row → row.TotalHeld) ∧
        shape.castOn fit start = lines := by
  rw [castOn?, castOn, Option.bind_eq_bind, Option.bind_eq_some_iff]
  constructor
  · rintro ⟨plan, there, begun⟩
    obtain ⟨_, rfl⟩ := Segment.plan?_eq_some_iff.mp there
    split at begun
    · rename_i row first
      rw [Option.bind_eq_bind, Option.bind_eq_some_iff] at begun
      obtain ⟨total, told, rest⟩ := begun
      obtain ⟨held, rfl⟩ := Row.total?_eq_some_iff.mp told
      refine ⟨⟨⟨_, there⟩, ?_⟩, Option.some.inj rest⟩
      intro other begins
      rwa [← Option.some.inj (first.symm.trans begins)]
    · rename_i rowless
      exact ⟨⟨⟨_, there⟩, fun row first => by rw [rowless] at first; cases first⟩,
        Option.some.inj begun⟩
  · rintro ⟨⟨⟨plan, there⟩, held⟩, rfl⟩
    obtain ⟨_, rfl⟩ := Segment.plan?_eq_some_iff.mp there
    refine ⟨_, there, ?_⟩
    split
    · rename_i row first
      rw [Row.total?_eq_some_iff.mpr ⟨held row first, rfl⟩]
      rfl
    · rfl

/--
The instructions of a shape are there exactly when all of its plans are told, and when a cast-on
that stands before them is a word.
-/
theorem instructions?_eq_some_iff {shape : Shape} {isRoot : Bool} {lines : List Instruction} :
    shape.instructions? fit start isRoot = some lines ↔
      (shape.IsTold fit start ∧ (isRoot = true →
        ∀ row, (shape.segment.plan fit start).first? = some row → row.TotalHeld)) ∧
        shape.instructions fit start isRoot = lines := by
  have planned (told : shape.IsTold fit start) :
      ∃ plan, shape.segment.plan? fit start = some plan := by
    obtain ⟨segment, successors⟩ := shape
    obtain ⟨plan, there, _⟩ := isTold_node.mp told
    exact ⟨plan, there⟩
  rw [instructions?, instructions]
  simp only [Option.bind_eq_bind, Option.bind_eq_some_iff, lines?_eq_some_iff, Option.pure_def,
    Option.some.injEq]
  cases isRoot with
  | false =>
    constructor
    · rintro ⟨_, ⟨⟩, _, ⟨told, rfl⟩, rfl⟩
      exact ⟨⟨told, nofun⟩, rfl⟩
    · rintro ⟨⟨told, _⟩, rfl⟩
      exact ⟨_, rfl, _, ⟨told, rfl⟩, rfl⟩
  | true =>
    simp only [if_true, castOn?_eq_some_iff, true_implies]
    constructor
    · rintro ⟨_, ⟨⟨_, held⟩, rfl⟩, _, ⟨told, rfl⟩, rfl⟩
      exact ⟨⟨told, held⟩, rfl⟩
    · rintro ⟨⟨told, held⟩, rfl⟩
      exact ⟨_, ⟨⟨planned told, held⟩, rfl⟩, _, ⟨told, rfl⟩, rfl⟩

end Shape

end FlatKnit
