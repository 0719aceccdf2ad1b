import FlatKnit.Proofs.Plan.Stretches
import FlatKnit.Proofs.Shape.Spread

/-! Turns of a plan: the rows that take a whole stitch of a change, each the end of a line. -/

namespace FlatKnit

/-- Whether a line shapes the last of its rows. -/
def Instruction.shapesRow : Instruction → Bool
  | shaping _ _ _ _ _ => true
  | _ => false

/-- Behind a row with the counts of the one before it there is another, if the last row differs. -/
theorem StitchPlan.count_pos_of_sameCounts {rowAt : Nat → Row} {index count : Nat}
    (last : (rowAt (index + (count + 1))).sameCounts (rowAt (index + (count + 1) - 1)) = false)
    (same : (rowAt (index + 1)).sameCounts (rowAt index) = true) : 0 < count := by
  rcases Nat.eq_zero_or_pos count with rfl | more
  · rw [Nat.zero_add, Nat.add_sub_cancel, same] at last
    cases last
  · exact more

/--
The loop over listed rows gives one shaping line for each row with other counts than the one before.

The last of the rows is such a row, so that no plain row is left to be told.
-/
theorem StitchPlan.linesAfter_turns (rowAt : Nat → Row) (count : Nat) :
    ∀ (index : Nat) (run : UInt32), (count = 0 → run = 0) →
      (0 < count →
        (rowAt (index + count)).sameCounts (rowAt (index + count - 1)) = false) →
      (∀ line ∈ linesAfter (rowAt index) run ((List.range' (index + 1) count).map rowAt),
        line.shapesRow = true) ∧
      (linesAfter (rowAt index) run ((List.range' (index + 1) count).map rowAt)).map
          Instruction.counter?
        = ((List.range' (index + 1) count).filter fun later =>
            !(rowAt later).sameCounts (rowAt (later - 1))).map
              fun later => some (rowAt later).number := by
  -- A row with the counts of the one before it only lengthens the run.
  induction count with
  | zero =>
    intro index run noRun _
    rw [noRun rfl]
    simp [linesAfter]
  | succ count ih =>
    intro index run _ turned
    have last := turned (by omega)
    rw [List.range'_succ, List.map_cons, linesAfter, List.filter_cons, Nat.add_sub_cancel]
    by_cases same : (rowAt (index + 1)).sameCounts (rowAt index) = true
    · have more := count_pos_of_sameCounts last same
      have later := ih (index + 1) (run + 1) (by omega) fun _ => by
        rwa [Nat.add_right_comm, Nat.add_assoc]
      rw [if_pos same]
      simpa [same] using later
    · -- A row with other counts gives its line, and the loop goes on without a run.
      have later := ih (index + 1) 0 (fun _ => rfl) fun _ => by
        rwa [Nat.add_right_comm, Nat.add_assoc]
      rw [if_neg same]
      have differs : (rowAt (index + 1)).sameCounts (rowAt index) = false := by simpa using same
      simp only [differs, Bool.not_false, if_true, List.forall_mem_cons, List.map_cons, later.2]
      exact ⟨⟨rfl, later.1⟩, rfl⟩

/--
The checked loop over such rows gives lines exactly when each row that closes one has a total that
is a word, as long as the differences and the number of rows do not stand in the way.
-/
theorem StitchPlan.isSome_linesAfter?_iff (rowAt : Nat → Row) (count : Nat) :
    ∀ (index : Nat) (run : UInt32), run.toNat + count < 2 ^ 32 →
      (∀ before, index ≤ before → before < index + count →
        IsWord ((rowAt (before + 1)).left.toInt - (rowAt before).left.toInt) ∧
          IsWord ((rowAt (before + 1)).right.toInt - (rowAt before).right.toInt)) →
      (count = 0 → run = 0) →
      (0 < count →
        (rowAt (index + count)).sameCounts (rowAt (index + count - 1)) = false) →
      ((linesAfter? (rowAt index) run ((List.range' (index + 1) count).map rowAt)).isSome = true ↔
        ∀ later ∈ List.range' (index + 1) count,
          (rowAt later).sameCounts (rowAt (later - 1)) = false → (rowAt later).TotalHeld) := by
  induction count with
  | zero =>
    intro index run _ _ noRun _
    rw [noRun rfl]
    simp [linesAfter?]
  | succ count ih =>
    intro index run few moves _ turned
    have last := turned (by omega)
    have counted : run.toNat + 1 < 2 ^ 32 := by omega
    rw [List.range'_succ, List.map_cons, List.forall_mem_cons, Nat.add_sub_cancel,
      Option.isSome_iff_exists]
    by_cases same : (rowAt (index + 1)).sameCounts (rowAt index) = true
    · -- Such a row closes no line, and it is not the last one.
      have more := count_pos_of_sameCounts last same
      have later := ih (index + 1) (run + 1) (by rw [toNat_add_one counted]; omega)
        (fun before low high => moves before (by omega) (by omega)) (by omega) fun _ => by
          rwa [Nat.add_right_comm, Nat.add_assoc]
      simp only [linesAfter?_same same, counted, true_and, ← Option.isSome_iff_exists, later]
      exact ⟨fun onward => ⟨fun differs => by simp [same] at differs, onward⟩, And.right⟩
    · -- A row with other counts closes a line, which tells its total.
      have later := ih (index + 1) 0 (by rw [UInt32.toNat_zero]; omega)
        (fun before low high => moves before (by omega) (by omega)) (fun _ => rfl) fun _ => by
          rwa [Nat.add_right_comm, Nat.add_assoc]
      obtain ⟨left, right⟩ := moves index (Nat.le_refl _) (by omega)
      rw [← later, Option.isSome_iff_exists]
      simp only [linesAfter?_differs same, counted, left, right, true_and]
      constructor
      · rintro ⟨_, held, lines, onward, _⟩
        exact ⟨fun _ => held, lines, onward⟩
      · rintro ⟨held, lines, onward⟩
        exact ⟨_, held (by simpa using same), lines, onward, rfl⟩

/-- The line of a plan that ends with its first counts is there when its last stitches are. -/
theorem StitchPlan.isSome_compile?_of_returns {plan : StitchPlan} {first last : Row}
    {rest : List Row} (rows : plan.rows = first :: rest)
    (returns : plan.first?.map Row.counts = plan.last?.map Row.counts)
    (ends : plan.last? = some last) : plan.compile?.isSome = true ↔ last.TotalHeld := by
  obtain ⟨begins, finishes, _⟩ := ends_of_rows rows
  rw [begins, finishes, Option.map_some, Option.map_some, Option.some.injEq,
    ← Row.sameCounts_iff_counts] at returns
  obtain rfl := Option.some.inj (finishes.symm.trans ends)
  rw [compile?, rows, ← Row.isSome_total?]
  dsimp only
  rw [if_pos returns]
  cases (rest.getLastD first).total? <;> simp

/-- A plan that ends with other counts is told by the checked loop, if all steps are checked. -/
theorem StitchPlan.compile?_of_departs {plan : StitchPlan} {first : Row} {rest : List Row}
    (rows : plan.rows = first :: rest)
    (departs : plan.first?.map Row.counts ≠ plan.last?.map Row.counts) :
    plan.compile? = linesAfter? first 1 rest := by
  obtain ⟨begins, ends, _⟩ := ends_of_rows rows
  rw [begins, ends, Option.map_some, Option.map_some, ne_eq, Option.some.injEq,
    ← Row.sameCounts_iff_counts] at departs
  rw [compile?, rows]
  dsimp only
  rw [if_neg departs]

/-- A change that is not zero still has a stitch to take before the last row. -/
theorem shareSize_lt {change rows : Int} {index : Nat} (some : change ≠ 0)
    (before : index < rows) : shareSize change rows index < change.natAbs := by
  -- Fewer rows take less than the whole size, and so fewer whole stitches.
  apply Int.ediv_lt_of_lt_mul (by omega : 0 < rows)
  rw [Int.mul_comm]
  exact Int.mul_lt_mul_of_pos_left before (by omega)

/-- A change that is not zero takes its last stitch on the last of several rows. -/
theorem shareSize_last_ne {change rows : Int} {index : Nat} (some : change ≠ 0)
    (last : (index + 1 : Nat) = rows) :
    shareSize change rows (index + 1) ≠ shareSize change rows index := by
  -- All rows take the whole size, and one row less leaves some of it over.
  have all := shareSize_all change (by omega : 0 < rows) last
  have before := shareSize_lt some (by omega : (index : Int) < rows)
  omega

namespace Edge

variable {edge : Edge}

/-- A row adds no stitches exactly when its share of the change has no further whole stitch. -/
theorem Exact.shaping_eq_zero_iff (exact : edge.Exact) {index : Nat}
    (within : index < edge.length) :
    edge.shaping index = 0 ↔
      shareSize edge.change.toInt edge.rows.toInt (index + 1)
        = shareSize edge.change.toInt edge.rows.toInt index := by
  -- The row adds the growth of the even share, and a change without a sign has no share.
  rw [← Int64.toInt_inj, exact.shaping_toInt within, Int64.toInt_zero, evenShare_eq,
    evenShare_eq, ← Int.mul_sub, Int.mul_eq_zero, Int.sign_eq_zero_iff_zero]
  constructor
  · rintro (none | equal)
    · simp [shareSize, none]
    · omega
  · intro equal
    exact .inr (by omega)

/-- An exact edge of several rows that ends with its first count has no change. -/
theorem Exact.change_eq_zero (exact : edge.Exact) (several : 2 ≤ edge.length)
    (returns : edge.count 1 = edge.count edge.length) : edge.change.toInt = 0 := by
  have positive := rows_positive (show 0 < edge.length by omega)
  have rows : (edge.length : Int) = edge.rows.toInt := by
    unfold length
    omega
  -- The shares of one row and of all rows are equal when the counts are.
  have shares := congrArg Int64.toInt returns
  rw [exact.count_toInt (show 1 ≤ edge.length by omega), exact.count_toInt (Nat.le_refl _),
    evenShare_all positive rows] at shares
  -- The first of several rows takes less than all of a change.
  by_contra some
  have less := shareSize_lt some (show ((1 : Nat) : Int) < edge.rows.toInt by omega)
  have nonneg := shareSize_mono edge.change.toInt positive (Nat.zero_le 1)
  have bound := natAbs_sign_mul_le edge.change.toInt
    (shareSize edge.change.toInt edge.rows.toInt 1)
  rw [shareSize_zero] at nonneg
  rw [evenShare_eq] at shares
  omega

/-- An exact edge without a change keeps the count that it starts with. -/
theorem Exact.count_eq_start (exact : edge.Exact) (still : edge.change.toInt = 0) {index : Nat}
    (within : index ≤ edge.length) : edge.count index = edge.start := by
  -- A share of nothing is nothing.
  rw [← Int64.toInt_inj, exact.count_toInt within]
  simp [evenShare, still]

end Edge

namespace Segment

/-- Whether a row, counted from one, takes a whole stitch of the change on either side. -/
def TurnsAt (segment : Segment) (fit : Fit) (position : Nat) : Prop :=
  shareSize (segment.leftChange fit).toInt (segment.rowCount fit).toInt position
      ≠ shareSize (segment.leftChange fit).toInt (segment.rowCount fit).toInt (position - 1) ∨
    shareSize (segment.rightChange fit).toInt (segment.rowCount fit).toInt position
      ≠ shareSize (segment.rightChange fit).toInt (segment.rowCount fit).toInt (position - 1)

instance (segment : Segment) (fit : Fit) (position : Nat) :
    Decidable (segment.TurnsAt fit position) :=
  inferInstanceAs (Decidable (_ ∨ _))

/-- Whether a segment has no shaping between its rows: no change on either side, or one row. -/
def StaysPlain (segment : Segment) (fit : Fit) : Prop :=
  (segment.leftChange fit).toInt = 0 ∧ (segment.rightChange fit).toInt = 0 ∨
    (segment.rowCount fit).toInt = 1

instance (segment : Segment) (fit : Fit) : Decidable (segment.StaysPlain fit) :=
  inferInstanceAs (Decidable (_ ∨ _))

/-- Whether a line ends with a row, counted from one: the last one, or each one that turns. -/
def EndsLineAt (segment : Segment) (fit : Fit) (position : Nat) : Prop :=
  if segment.StaysPlain fit then position = segment.knittedRows fit
  else 2 ≤ position ∧ segment.TurnsAt fit position

/-- All stitches of a row, counted from one, in exact numbers. -/
def totalAt (segment : Segment) (fit : Fit) (position : Nat) : Int :=
  (segment.lowerStitches fit).toInt
    + evenShare (segment.leftChange fit).toInt (segment.rowCount fit).toInt position
    + evenShare (segment.rightChange fit).toInt (segment.rowCount fit).toInt position

/-- All stitches of every row that a line ends with are a word. -/
def TotalsTold (segment : Segment) (fit : Fit) : Prop :=
  ∀ position, 1 ≤ position → position ≤ segment.knittedRows fit →
    segment.EndsLineAt fit position → IsWord (segment.totalAt fit position)

/-- The lines of a segment are one plain line, or else one shaping line for each of its turns. -/
structure ToldByTurns (segment : Segment) (fit : Fit) (plan : StitchPlan)
    (lines : List Instruction) : Prop where
  /-- One plain line over all rows tells exactly a segment that stays plain. -/
  plainly : (∃ rows counter stitches, lines = [.knitRows rows counter stitches] ∧
      rows.toNat = segment.knittedRows fit) ↔ segment.StaysPlain fit
  /-- Every line of any other segment shapes its last row. -/
  shaped : ¬ segment.StaysPlain fit → ∀ line ∈ lines, line.shapesRow = true
  /-- The last of them is on the last row. -/
  finished : ¬ segment.StaysPlain fit →
    lines.getLast?.bind Instruction.counter? = plan.last?.map Row.number
  /-- In order, they are on the rows from the second on that turn. -/
  turns : ¬ segment.StaysPlain fit → lines.map Instruction.counter?
    = ((List.range' 2 (segment.knittedRows fit - 1)).filter (segment.TurnsAt fit ·)).map
        fun position => plan.rows[position - 1]?.map Row.number

variable {segment : Segment} {fit : Fit} {start : UInt32}

/-- All stitches of a row are those of the lower edge and both shares, in exact numbers. -/
theorem SumsHeld.total_eq (held : segment.SumsHeld fit) (number : UInt32) {index : Nat}
    (within : index < segment.knittedRows fit) :
    (segment.rowAfter fit number index).left.toInt + (segment.rowAfter fit number index).right.toInt
      = segment.totalAt fit (index + 1) := by
  -- Both counts are exact, and the two starts add up to the lower edge.
  have left := held.left.count_toInt (show index + 1 ≤ _ from within)
  have right := held.right.count_toInt (show index + 1 ≤ _ from within)
  simp only [leftEdge, rightEdge, leftStart_toInt, rightStart_toInt] at left right
  simp only [rowAfter, leftEdge, rightEdge, left, right, totalAt]
  omega

/-- From one row to the next, both sides move by the shaping of the row, which is a word. -/
theorem SumsHeld.moves (held : segment.SumsHeld fit) (number before : UInt32) {index : Nat}
    (within : index + 1 < segment.knittedRows fit) :
    IsWord ((segment.rowAfter fit number (index + 1)).left.toInt
        - (segment.rowAfter fit before index).left.toInt) ∧
      IsWord ((segment.rowAfter fit number (index + 1)).right.toInt
        - (segment.rowAfter fit before index).right.toInt) := by
  have moved {edge : Edge} (exact : edge.Exact) (inside : index + 1 < edge.length) :
      IsWord ((edge.count (index + 1 + 1)).toInt - (edge.count (index + 1)).toInt) := by
    rw [Edge.count, toInt_add_of_isWord (exact.sumHeld _ inside), add_sub_cancel_left]
    exact isWord_toInt _
  exact ⟨moved held.left within, moved held.right within⟩

/-- A row has the counts of the row before it unless it turns. -/
theorem SumsHeld.sameCounts_iff (held : segment.SumsHeld fit) (number before : UInt32)
    {index : Nat} (within : index + 1 < segment.knittedRows fit) :
    (segment.rowAfter fit number (index + 1)).sameCounts (segment.rowAfter fit before index)
        = true ↔
      ¬ segment.TurnsAt fit (index + 2) := by
  -- On each side the counts differ by the shaping of the row.
  have left := held.left.shaping_eq_zero_iff within
  have right := held.right.shaping_eq_zero_iff within
  rw [Row.sameCounts_iff, TurnsAt, not_or, not_not, not_not]
  show (segment.leftEdge fit).count (index + 1) + (segment.leftEdge fit).shaping (index + 1)
      = (segment.leftEdge fit).count (index + 1) ∧
    (segment.rightEdge fit).count (index + 1) + (segment.rightEdge fit).shaping (index + 1)
      = (segment.rightEdge fit).count (index + 1) ↔ _
  rw [Int64.add_eq_left, Int64.add_eq_left, left, right]
  rfl

/-- The counts at the ends of a plan are those of its edges after the first row and after all. -/
theorem ends_counts (start : UInt32) {rows : Nat} (counted : segment.knittedRows fit = rows + 1) :
    (segment.plan fit start).first?.map Row.counts
        = some ((segment.leftEdge fit).count 1, (segment.rightEdge fit).count 1) ∧
      (segment.plan fit start).last?.map Row.counts
        = some ((segment.leftEdge fit).count (rows + 1),
          (segment.rightEdge fit).count (rows + 1)) := by
  -- The first row stands after one step of the edges, the last one after all of them.
  refine ⟨?_, ?_⟩
  · rw [StitchPlan.first?, List.head?_eq_getElem?,
      segment.plan_getElem? fit start (by omega : 0 < segment.knittedRows fit)]
    rfl
  · rw [segment.plan_last? fit start counted]
    rfl

/-- A segment that stays plain has the counts of its first row on every row. -/
theorem StaysPlain.counts_eq_first (plain : segment.StaysPlain fit) (held : segment.SumsHeld fit)
    {row : Row} (member : row ∈ (segment.plan fit start).rows) :
    row.counts = ((segment.leftEdge fit).count 1, (segment.rightEdge fit).count 1) := by
  rw [plan_rows] at member
  obtain ⟨index, within, rfl⟩ := List.mem_map.mp member
  rw [List.mem_range] at within
  rcases plain with ⟨left, right⟩ | single
  · -- Without a change every count is the start.
    have some : 1 ≤ segment.knittedRows fit := by omega
    show ((segment.leftEdge fit).count (index + 1), (segment.rightEdge fit).count (index + 1)) = _
    rw [held.left.count_eq_start left within, held.left.count_eq_start left some,
      held.right.count_eq_start right within, held.right.count_eq_start right some]
  · -- The only row is the first one.
    have first : index = 0 := by
      unfold knittedRows at within
      omega
    rw [first]
    rfl

/-- A segment that stays plain has the same counts on all rows. -/
theorem StaysPlain.counts_eq (plain : segment.StaysPlain fit) (held : segment.SumsHeld fit) :
    ∀ row ∈ (segment.plan fit start).rows, ∀ other ∈ (segment.plan fit start).rows,
      row.counts = other.counts := by
  -- Any row has the counts of the first one.
  intro row member other otherMember
  rw [plain.counts_eq_first held member, plain.counts_eq_first held otherMember]

/-- The last row of a segment that does not stay plain turns. -/
theorem turnsAt_last (shaped : ¬ segment.StaysPlain fit) {rows : Nat}
    (counted : segment.knittedRows fit = rows + 1) : segment.TurnsAt fit (rows + 1) := by
  -- One of the changes is not zero, and takes its last stitch there.
  have last : ((rows + 1 : Nat) : Int) = (segment.rowCount fit).toInt := by
    unfold knittedRows at counted
    omega
  rw [StaysPlain, not_or, not_and_or] at shaped
  rcases shaped.1 with left | right
  · exact .inl (shareSize_last_ne left last)
  · exact .inr (shareSize_last_ne right last)

/-- A segment that does not stay plain has more than one row, if it has rows at all. -/
theorem several_of_shaped (shaped : ¬ segment.StaysPlain fit) (some : 0 < segment.knittedRows fit) :
    ∃ rows, segment.knittedRows fit = rows + 2 := by
  -- One row alone would be plain.
  rw [StaysPlain, not_or] at shaped
  refine ⟨segment.knittedRows fit - 2, ?_⟩
  have single := shaped.2
  unfold knittedRows at some ⊢
  omega

/-- The last row of a segment that does not stay plain has other counts than the first one. -/
theorem SumsHeld.departs (held : segment.SumsHeld fit) (shaped : ¬ segment.StaysPlain fit)
    (some : 0 < segment.knittedRows fit) :
    (segment.plan fit start).first?.map Row.counts
      ≠ (segment.plan fit start).last?.map Row.counts := by
  -- Both edges would have to come back to their first counts, and so to have no change.
  obtain ⟨rows, counted⟩ := several_of_shaped shaped some
  obtain ⟨begins, ends⟩ := ends_counts start counted
  rw [begins, ends, ne_eq, Option.some.injEq, Prod.mk.injEq]
  rintro ⟨leftReturns, rightReturns⟩
  rw [← counted] at leftReturns rightReturns
  have several : 2 ≤ segment.knittedRows fit := by omega
  apply shaped
  left
  exact ⟨held.left.change_eq_zero several leftReturns,
    held.right.change_eq_zero several rightReturns⟩

section Shaped

variable {rows : Nat}

/-- The row at a position of the plan, counted from zero. -/
def rowAt (segment : Segment) (fit : Fit) (start : UInt32) (index : Nat) : Row :=
  segment.rowAfter fit (start + UInt32.ofNat index) index

/-- The rows of a plan are the first one and those at the positions behind it. -/
theorem plan_rows_cons (counted : segment.knittedRows fit = rows + 1) :
    (segment.plan fit start).rows = segment.rowAt fit start 0 ::
      (List.range' (0 + 1) rows).map (segment.rowAt fit start) := by
  rw [plan_rows, counted, List.range_eq_range', List.range'_succ, List.map_cons]
  rfl

/-- The last row turns, which ends the loop over the rows without plain rows. -/
theorem SumsHeld.last_differs (held : segment.SumsHeld fit) (shaped : ¬ segment.StaysPlain fit)
    (counted : segment.knittedRows fit = rows + 2) :
    (segment.rowAt fit start (0 + (rows + 1))).sameCounts
      (segment.rowAt fit start (0 + (rows + 1) - 1)) = false := by
  have turns := turnsAt_last shaped counted
  have same := held.sameCounts_iff (start + UInt32.ofNat (rows + 1)) (start + UInt32.ofNat rows)
    (show rows + 1 < _ by omega)
  rw [Nat.zero_add, Nat.add_sub_cancel]
  simpa [turns, rowAt] using same

/-- Behind the first row, a row differs from the one before it exactly when it turns. -/
theorem SumsHeld.differs_iff (held : segment.SumsHeld fit)
    (counted : segment.knittedRows fit = rows + 2) {later : Nat}
    (listed : later ∈ List.range' (0 + 1) (rows + 1)) :
    (segment.rowAt fit start later).sameCounts (segment.rowAt fit start (later - 1)) = false ↔
      segment.TurnsAt fit (1 + later) := by
  obtain ⟨low, high⟩ := List.mem_range'_1.mp listed
  obtain ⟨index, rfl⟩ : ∃ index, later = index + 1 := ⟨later - 1, by omega⟩
  have same := held.sameCounts_iff (start + UInt32.ofNat (index + 1)) (start + UInt32.ofNat index)
    (show index + 1 < _ by omega)
  rw [Nat.add_sub_cancel, Nat.add_comm 1, ← Bool.not_eq_true]
  exact (not_congr same).trans Decidable.not_not

/-- The lines of a segment that does not stay plain. -/
theorem SumsHeld.turns (held : segment.SumsHeld fit) (shaped : ¬ segment.StaysPlain fit)
    (counted : segment.knittedRows fit = rows + 2) :
    (∀ line ∈ (segment.plan fit start).compile, line.shapesRow = true) ∧
      (segment.plan fit start).compile.map Instruction.counter?
        = ((List.range' 2 (segment.knittedRows fit - 1)).filter (segment.TurnsAt fit ·)).map
            fun position => (segment.plan fit start).rows[position - 1]?.map Row.number := by
  obtain ⟨shapes, counters⟩ := StitchPlan.linesAfter_turns (segment.rowAt fit start) (rows + 1) 0 1
    (by omega) fun _ => held.last_differs shaped counted
  rw [StitchPlan.compile_of_departs (plan_rows_cons counted) (held.departs shaped (by omega))]
  refine ⟨shapes, counters.trans ?_⟩
  -- Counted from one, the same rows turn.
  have positions : List.range' 2 (segment.knittedRows fit - 1)
      = (List.range' (0 + 1) (rows + 1)).map (1 + ·) := by
    rw [List.map_add_range', counted]
    rfl
  have turned : ∀ later ∈ List.range' (0 + 1) (rows + 1),
      (!(segment.rowAt fit start later).sameCounts (segment.rowAt fit start (later - 1)))
        = decide (segment.TurnsAt fit (1 + later)) := by
    intro later listed
    rw [Bool.eq_iff_iff, Bool.not_eq_true', held.differs_iff counted listed, decide_eq_true_iff]
  rw [positions, List.filter_map, List.map_map, List.filter_congr turned]
  -- The row at a position is the one listed there.
  apply List.map_congr_left
  intro later member
  obtain ⟨low, high⟩ := List.mem_range'_1.mp (List.mem_of_mem_filter member)
  rw [Function.comp_apply, Nat.add_sub_cancel_left,
    segment.plan_getElem? fit start (by omega : later < segment.knittedRows fit)]
  rfl

/-- The lines of a segment that does not stay plain are there when the rows that turn are words. -/
theorem SumsHeld.isSome_compile?_of_shaped (held : segment.SumsHeld fit)
    (shaped : ¬ segment.StaysPlain fit) (counted : segment.knittedRows fit = rows + 2)
    (countable : segment.knittedRows fit < 2 ^ 32) :
    (segment.plan fit start).compile?.isSome = true ↔ segment.TotalsTold fit := by
  rw [StitchPlan.compile?_of_departs (plan_rows_cons counted) (held.departs shaped (by omega)),
    StitchPlan.isSome_linesAfter?_iff (segment.rowAt fit start) (rows + 1) 0 1
      (by rw [UInt32.toNat_one]; omega) (fun before _ high => held.moves _ _ (by omega)) (by omega)
      fun _ => held.last_differs shaped counted]
  -- Counted from one, a line ends with each row behind the first that turns.
  have total {index : Nat} (within : index < segment.knittedRows fit) :
      (segment.rowAt fit start index).TotalHeld ↔ IsWord (segment.totalAt fit (index + 1)) := by
    rw [Row.TotalHeld, rowAt, held.total_eq _ within]
  constructor
  · intro told position _ high ends
    rw [EndsLineAt, if_neg shaped] at ends
    obtain ⟨low, turns⟩ := ends
    obtain ⟨later, rfl⟩ : ∃ later, position = 1 + later := ⟨position - 1, by omega⟩
    have listed : later ∈ List.range' (0 + 1) (rows + 1) := List.mem_range'_1.mpr (by omega)
    rw [Nat.add_comm 1]
    exact (total (by omega)).mp (told later listed ((held.differs_iff counted listed).mpr turns))
  · intro held' later listed differs
    obtain ⟨low, high⟩ := List.mem_range'_1.mp listed
    rw [total (by omega)]
    refine held' _ (by omega) (by omega) ?_
    rw [EndsLineAt, if_neg shaped, Nat.add_comm later]
    exact ⟨by omega, (held.differs_iff counted listed).mp differs⟩

end Shaped

/-- The lines of a segment are there exactly when all stitches of each row they end with are. -/
theorem SumsHeld.isSome_compile?_iff (held : segment.SumsHeld fit)
    (some : 0 < segment.knittedRows fit) (countable : segment.knittedRows fit < 2 ^ 32) :
    (segment.plan fit start).compile?.isSome = true ↔ segment.TotalsTold fit := by
  by_cases plain : segment.StaysPlain fit
  · -- One plain line tells the stitches of the last row.
    obtain ⟨rows, counted⟩ : ∃ rows, segment.knittedRows fit = rows + 1 :=
      ⟨segment.knittedRows fit - 1, by omega⟩
    rw [StitchPlan.isSome_compile?_of_returns (plan_rows_cons counted)
      (StitchPlan.ends_eq_of_counts_eq (plain.counts_eq held))
      (segment.plan_last? fit start counted), Row.TotalHeld, held.total_eq _ (by omega)]
    constructor
    · intro total position _ _ ends
      rw [EndsLineAt, if_pos plain, counted] at ends
      rwa [ends]
    · intro totals
      exact totals _ (by omega) (by omega) (by rw [EndsLineAt, if_pos plain, counted])
  · obtain ⟨rows, counted⟩ := several_of_shaped plain some
    exact held.isSome_compile?_of_shaped plain counted countable

/-- The lines of a segment tell its turns. -/
theorem SumsHeld.toldByTurns (held : segment.SumsHeld fit) (some : 0 < segment.knittedRows fit)
    (countable : segment.knittedRows fit < 2 ^ 32) :
    segment.ToldByTurns fit (segment.plan fit start) (segment.plan fit start).compile := by
  have length := segment.plan_length fit start
  by_cases plain : segment.StaysPlain fit
  · -- All rows have the same counts, those at the ends included, which gives one plain line.
    obtain ⟨rows, counted⟩ : ∃ rows, segment.knittedRows fit = rows + 1 :=
      ⟨segment.knittedRows fit - 1, by omega⟩
    obtain ⟨counter, stitches, line⟩ := StitchPlan.compile_of_returns (plan_rows_cons counted)
      (StitchPlan.ends_eq_of_counts_eq (plain.counts_eq held))
    refine ⟨iff_of_true ⟨_, counter, stitches, line, ?_⟩ plain, fun shaped => absurd plain shaped,
      fun shaped => absurd plain shaped, fun shaped => absurd plain shaped⟩
    rw [length, UInt32.toNat_ofNat_of_lt' countable]
  · -- The loop tells a shaped segment, in lines that cover all of its rows.
    obtain ⟨before, counted⟩ := several_of_shaped plain some
    obtain ⟨shapes, turns⟩ := held.turns plain counted
    obtain ⟨stretches, joined, covered⟩ := StitchPlan.stretches_compile
      (show (segment.plan fit start).rows.length < 2 ^ 32 by omega)
    refine ⟨iff_of_false ?_ plain, fun _ => shapes, fun _ => ?_, fun _ => turns⟩
    · -- One plain line does not shape its last row.
      rintro ⟨rows, counter, stitches, line, _⟩
      rw [line] at shapes
      simp [Instruction.shapesRow] at shapes
    · rw [counter_last_of_covered covered, joined, StitchPlan.last?]

/--
The lines of a segment with rows tell its turns, if they are there.

They are exactly when the plan is, and when words hold all stitches of every row that a line ends
with, since these are told by the line.
-/
theorem plan_toldByTurns (segment : Segment) (fit : Fit) (start : UInt32)
    (some : 0 < segment.knittedRows fit) :
    (∀ plan lines, segment.plan? fit start = .some plan → plan.compile? = .some lines →
        segment.ToldByTurns fit plan lines) ∧
      ((∃ plan lines, segment.plan? fit start = .some plan ∧ plan.compile? = .some lines) ↔
        segment.EdgesFit fit ∧ start.toNat + segment.knittedRows fit < 2 ^ 32 ∧
          segment.TotalsTold fit) := by
  simp only [plan?_eq_some_iff]
  constructor
  · rintro plan lines ⟨⟨held, inside⟩, rfl⟩ told
    rw [← StitchPlan.eq_of_compile? told]
    exact held.toldByTurns some (by omega)
  · constructor
    · rintro ⟨_, lines, ⟨⟨held, inside⟩, rfl⟩, told⟩
      refine ⟨sumsHeld_iff_edgesFit.mp held some, inside, ?_⟩
      exact (held.isSome_compile?_iff some (by omega)).mp (Option.isSome_iff_exists.mpr ⟨_, told⟩)
    · rintro ⟨fits, inside, totals⟩
      have held := sumsHeld_iff_edgesFit.mpr fun _ => fits
      obtain ⟨lines, told⟩ := Option.isSome_iff_exists.mp
        ((held.isSome_compile?_iff some (by omega)).mpr totals)
      exact ⟨_, lines, ⟨⟨held, inside⟩, rfl⟩, told⟩

/-- The leaning segment is told by its turns. -/
theorem leaning_toldByTurns :
    ∃ plan lines, leaning.plan? leaningFit 40 = some plan ∧ plan.compile? = some lines ∧
      lines.length = 6 ∧ leaning.ToldByTurns leaningFit plan lines := by
  -- Its sums are held, so that it has a plan, and the lines of that are looked at.
  have held := (@leaning_inBounds 40 (by decide)).sumsHeld
  have inside : (40 : UInt32).toNat + leaning.knittedRows leaningFit < 2 ^ 32 := by decide
  have there := plan?_eq_some_iff.mpr ⟨⟨held, inside⟩, rfl⟩
  have counted : (leaning.plan leaningFit 40).compile?.map List.length = some 6 := by
    decide +kernel
  obtain ⟨lines, told, length⟩ := Option.map_eq_some_iff.mp counted
  exact ⟨_, lines, there, told, length,
    (plan_toldByTurns leaning leaningFit 40 (by decide)).1 _ lines there told⟩

/--
The boundless segment has five rows to knit, but no lines that could tell their turns, since it has
no plan.
-/
theorem boundless_not_toldByTurns :
    boundless.knittedRows boundlessFit = 5 ∧
      ¬ ∃ plan lines, boundless.plan? boundlessFit 1 = some plan ∧ plan.compile? = some lines ∧
        boundless.ToldByTurns boundlessFit plan lines := by
  refine ⟨by decide +kernel, ?_⟩
  rintro ⟨plan, lines, there, _⟩
  rw [plan?_boundless] at there
  cases there

end Segment

end FlatKnit
