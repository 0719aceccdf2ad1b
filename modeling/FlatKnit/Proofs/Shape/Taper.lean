import FlatKnit.Proofs.Word

/-! Edges in exact numbers: after every row an edge has taken its even share of the change. -/

namespace FlatKnit

/-- One edge of a segment: the count it starts from, its change, and the rows it is spread over. -/
structure Edge where
  start : Int64
  change : Int64
  rows : Int64
  deriving Repr, DecidableEq

namespace Edge

/-- What the edge carries on after a number of rows. -/
def carried (edge : Edge) : Nat → Int64
  | 0 => 0
  | index + 1 => (spreadStep edge.change edge.rows (edge.carried index)).2

/-- The stitches that the edge adds on the row that follows a number of rows. -/
def shaping (edge : Edge) (index : Nat) : Int64 :=
  (spreadStep edge.change edge.rows (edge.carried index)).1

/-- The count of the edge after a number of rows. -/
def count (edge : Edge) : Nat → Int64
  | 0 => edge.start
  | index + 1 => edge.count index + edge.shaping index

/-- The number of rows along the edge. -/
def length (edge : Edge) : Nat :=
  edge.rows.toInt.toNat

/-- What is due on the row that follows a number of rows, counted in parts of a stitch. -/
def due (edge : Edge) (index : Nat) : Int :=
  (edge.carried index).toInt + edge.change.toInt.natAbs

/-- Every sum that is taken along the edge stays within a word. -/
structure Exact (edge : Edge) : Prop where
  dueHeld : ∀ index < edge.length, IsWord (edge.due index)
  sumHeld : ∀ index < edge.length, IsWord ((edge.count index).toInt + (edge.shaping index).toInt)

end Edge

/-- What the first `index` rows take of a change that is spread evenly over all rows. -/
def evenShare (change rows : Int) (index : Nat) : Int :=
  change.sign * (index * change.natAbs / rows)

/-- The whole stitches of a change that the first rows take, whatever its direction. -/
def shareSize (change rows : Int) (index : Nat) : Int :=
  index * change.natAbs / rows

/-- A share is its whole stitches, in the direction of the change. -/
theorem evenShare_eq (change rows : Int) (index : Nat) :
    evenShare change rows index = change.sign * shareSize change rows index :=
  rfl

/-- A sign times an amount is no larger than the amount. -/
theorem natAbs_sign_mul_le (change amount : Int) :
    (change.sign * amount).natAbs ≤ amount.natAbs := by
  -- The sign is one, zero or minus one.
  rw [Int.natAbs_mul, Int.natAbs_sign]
  split <;> omega

/-- No row has taken a share yet. -/
@[simp] theorem evenShare_zero (change rows : Int) : evenShare change rows 0 = 0 := by
  simp [evenShare]

/-- No row has taken a whole stitch yet. -/
@[simp] theorem shareSize_zero (change rows : Int) : shareSize change rows 0 = 0 := by
  simp [shareSize]

/-- All rows together take all stitches of the change. -/
theorem shareSize_all (change : Int) {rows : Int} {index : Nat} (positive : 0 < rows)
    (all : (index : Int) = rows) : shareSize change rows index = change.natAbs := by
  -- The rows cancel.
  rw [shareSize, all, Int.mul_ediv_cancel_left _ (by omega)]

/-- All rows together take the whole change. -/
theorem evenShare_all {change rows : Int} {index : Nat} (positive : 0 < rows)
    (all : (index : Int) = rows) : evenShare change rows index = change := by
  -- The sign gives the size its direction back.
  rw [evenShare_eq, shareSize_all change positive all]
  exact Int.sign_mul_natAbs change

/-- A share is less than one stitch away from the exact part of the change. -/
theorem evenShare_error {rows : Int} (change : Int) (index : Nat) (positive : 0 < rows) :
    (rows * evenShare change rows index - index * change).natAbs < rows.toNat := by
  -- The error is the remainder of the division, with the sign of the change.
  have division := Int.mul_ediv_add_emod (index * change.natAbs) rows
  have low := Int.emod_nonneg (index * change.natAbs) (by omega : rows ≠ 0)
  have high := Int.emod_lt_of_pos (index * change.natAbs) positive
  have signed : (index : Int) * change = change.sign * (index * change.natAbs) := by
    rw [Int.mul_left_comm, Int.sign_mul_natAbs]
  have error : rows * evenShare change rows index - index * change
      = -(change.sign * (index * change.natAbs % rows)) := by
    rw [signed, evenShare, Int.mul_left_comm, ← Int.mul_sub, ← Int.mul_neg]
    congr 1
    omega
  rw [error, Int.natAbs_neg]
  have bound := natAbs_sign_mul_le change (index * change.natAbs % rows)
  omega

/-- The share of one more row, by what the rows before it leave over. -/
theorem evenShare_succ {rows : Int} (change : Int) (index : Nat) (positive : 0 < rows) :
    evenShare change rows (index + 1) = evenShare change rows index +
      change.sign * ((index * change.natAbs % rows + change.natAbs) / rows) := by
  -- One more change joins the remainder, and the whole multiples of the rows come out in front.
  have division := Int.mul_ediv_add_emod (index * change.natAbs) rows
  have next : ((index + 1 : Nat) : Int) * change.natAbs
      = (index * change.natAbs % rows + change.natAbs)
        + rows * (index * change.natAbs / rows) := by
    rw [Int.natCast_add, Int.add_mul]
    omega
  rw [evenShare, evenShare, next, Int.add_mul_ediv_left _ _ (by omega : rows ≠ 0), Int.mul_add,
    Int.add_comm]

/-- The whole stitches of an even share never fall from row to row. -/
theorem shareSize_mono (change : Int) {rows : Int} {first later : Nat} (positive : 0 < rows)
    (ordered : first ≤ later) :
    shareSize change rows first ≤ shareSize change rows later := by
  -- The divisor is positive and the same, so that the larger dividend decides.
  apply Int.ediv_le_ediv positive
  exact Int.mul_le_mul_of_nonneg_right (by omega) (by omega)

/-- A share that is the same after two numbers of rows is the same at every number between. -/
theorem evenShare_between (change : Int) {rows : Int} {low middle high : Nat} (positive : 0 < rows)
    (above : low ≤ middle) (below : middle ≤ high)
    (same : evenShare change rows low = evenShare change rows high) :
    evenShare change rows middle = evenShare change rows low := by
  -- The whole part of the size never falls, and the sign does not depend on the rows.
  have lower := shareSize_mono change positive above
  have upper := shareSize_mono change positive below
  rw [evenShare_eq, evenShare_eq] at same ⊢
  rcases Int.lt_trichotomy change 0 with negative | zero | rising
  · rw [Int.sign_eq_neg_one_of_neg negative] at same ⊢
    omega
  · simp [zero]
  · rw [Int.sign_eq_one_of_pos rising] at same ⊢
    omega

/-- A share lies between no change and the whole change. -/
theorem evenShare_within (change : Int) {rows : Int} {index : Nat} (positive : 0 < rows)
    (within : index ≤ rows) :
    0 ≤ evenShare change rows index ∧ evenShare change rows index ≤ change ∨
      change ≤ evenShare change rows index ∧ evenShare change rows index ≤ 0 := by
  -- The size of the share grows from nothing at the first row to the whole size at the last.
  have lower := shareSize_mono change positive (Nat.zero_le index)
  have upper := shareSize_mono change positive (show index ≤ rows.toNat by omega)
  rw [shareSize_all change positive (show (rows.toNat : Int) = rows by omega)] at upper
  rw [shareSize_zero] at lower
  rw [evenShare_eq]
  rcases Int.lt_trichotomy change 0 with negative | zero | rising
  · rw [Int.sign_eq_neg_one_of_neg negative]
    omega
  · simp [zero]
  · rw [Int.sign_eq_one_of_pos rising]
    omega

/-- A sign times a size is within a word when the size is. -/
theorem isWord_sign_mul {size : Int} (change : Int) (nonneg : 0 ≤ size) (held : IsWord size) :
    IsWord (change.sign * size) := by
  -- The sign leaves the size alone, negates it, or makes it zero.
  obtain ⟨low, high⟩ := held
  rcases Int.lt_trichotomy change 0 with negative | zero | positive
  · rw [Int.sign_eq_neg_one_of_neg negative]
    exact ⟨by omega, by omega⟩
  · rw [zero, Int.sign_zero]
    exact ⟨by omega, by omega⟩
  · rw [Int.sign_eq_one_of_pos positive]
    exact ⟨by omega, by omega⟩

/-- One row of spreading in exact numbers, when what is due stays within a word. -/
theorem spreadStep_toInt {change rows carried : Int64} (positive : 0 < rows.toInt)
    (nonneg : 0 ≤ carried.toInt) (held : IsWord (carried.toInt + change.toInt.natAbs)) :
    (spreadStep change rows carried).1.toInt
        = change.toInt.sign * ((carried.toInt + change.toInt.natAbs) / rows.toInt) ∧
      (spreadStep change rows carried).2.toInt
        = (carried.toInt + change.toInt.natAbs) % rows.toInt := by
  have due : (carried + change.abs).toInt = carried.toInt + change.toInt.natAbs := by
    rw [toInt_add_abs, bmod_eq_of_isWord held]
  -- A quotient of a number that is not negative is no larger than the number.
  have dueNonneg : 0 ≤ (carried + change.abs).toInt := by omega
  have quotient := toInt_div_of_nonneg dueNonneg positive
  rw [due] at quotient dueNonneg
  have quotientNonneg := Int.ediv_nonneg dueNonneg (by omega : 0 ≤ rows.toInt)
  have quotientHeld : IsWord ((carried.toInt + change.toInt.natAbs) / rows.toInt) := by
    have small := Int.ediv_le_self rows.toInt dueNonneg
    exact ⟨by omega, by have := held.2; omega⟩
  constructor
  · -- The share of the row has the sign of the change.
    have product : ((carried + change.abs) / rows).toInt * (signOf change).toInt
        = change.toInt.sign * ((carried.toInt + change.toInt.natAbs) / rows.toInt) := by
      rw [quotient, toInt_signOf, Int.mul_comm]
    simp only [spreadStep]
    rw [toInt_mul_of_isWord, product]
    rw [product]
    exact isWord_sign_mul _ quotientNonneg quotientHeld
  · simp only [spreadStep]
    rw [toInt_mod_of_nonneg (by omega), due]

namespace Edge

variable {edge : Edge}

/-- What is carried on is what the division of all changes so far leaves over. -/
theorem carried_toInt (positive : 0 < edge.rows.toInt) :
    ∀ index, (∀ earlier < index, IsWord (edge.due earlier)) →
      (edge.carried index).toInt = index * edge.change.toInt.natAbs % edge.rows.toInt := by
  -- Leaving whole stitches out row by row is leaving them out once at the end.
  intro index
  induction index with
  | zero => simp [carried]
  | succ index ih =>
    intro held
    have previous := ih fun earlier before => held earlier (by omega)
    have nonneg : 0 ≤ (edge.carried index).toInt := by
      rw [previous]
      exact Int.emod_nonneg _ (by omega)
    rw [carried, (spreadStep_toInt positive nonneg (held index (by omega))).2, previous,
      Int.emod_add_emod, Int.natCast_add, Int.add_mul, Int.natCast_one, Int.one_mul]

/-- What is carried on is not negative as long as what is due is held. -/
theorem carried_nonneg (positive : 0 < edge.rows.toInt) {index : Nat}
    (held : ∀ earlier < index, IsWord (edge.due earlier)) : 0 ≤ (edge.carried index).toInt := by
  -- It is a remainder of a division by the rows.
  rw [carried_toInt positive index held]
  exact Int.emod_nonneg _ (by omega)

/-- What is carried on is less than the number of rows, even where what is due leaves its word. -/
theorem natAbs_carried_lt (positive : 0 < edge.rows.toInt) (index : Nat) :
    ((edge.carried index).toInt.natAbs : Int) < edge.rows.toInt := by
  -- It is nothing at first, and a remainder after every row.
  cases index with
  | zero => simpa [carried] using positive
  | succ index =>
    simp only [carried, spreadStep]
    rw [Int64.toInt_mod, Int.natAbs_tmod]
    have small := Nat.mod_lt ((edge.carried index) + edge.change.abs).toInt.natAbs
      (show 0 < edge.rows.toInt.natAbs by omega)
    omega

/-- What is due stays within a word when the change and the rows together are small enough. -/
theorem isWord_due (positive : 0 < edge.rows.toInt)
    (few : edge.change.toInt.natAbs + edge.rows.toInt ≤ 2 ^ 63) (index : Nat) :
    IsWord (edge.due index) := by
  -- What earlier rows leave over is less than the number of rows.
  have carries := natAbs_carried_lt positive index
  unfold due
  exact ⟨by omega, by omega⟩

/-- The stitches added on a row are the growth of the even share. -/
theorem shaping_toInt (positive : 0 < edge.rows.toInt) (index : Nat)
    (held : ∀ earlier ≤ index, IsWord (edge.due earlier)) :
    (edge.shaping index).toInt = evenShare edge.change.toInt edge.rows.toInt (index + 1)
      - evenShare edge.change.toInt edge.rows.toInt index := by
  -- What is carried here is the remainder that the step of the share starts from.
  have before : ∀ earlier < index, IsWord (edge.due earlier) :=
    fun earlier within => held earlier (by omega)
  have carries := carried_toInt positive index before
  have nonneg := carried_nonneg positive before
  rw [shaping, (spreadStep_toInt positive nonneg (held index (by omega))).1, carries,
    evenShare_succ _ _ positive]
  omega

/-- The count after a number of rows is the start and the even share of these rows. -/
theorem count_toInt (positive : 0 < edge.rows.toInt) :
    ∀ index, (∀ earlier < index, IsWord (edge.due earlier)) →
      (∀ earlier < index, IsWord ((edge.count earlier).toInt + (edge.shaping earlier).toInt)) →
      (edge.count index).toInt
        = edge.start.toInt + evenShare edge.change.toInt edge.rows.toInt index := by
  -- The count grows by the shaping, which is the growth of the share.
  intro index
  induction index with
  | zero => simp [count]
  | succ index ih =>
    intro held summed
    have previous := ih (fun earlier before => held earlier (by omega))
      (fun earlier before => summed earlier (by omega))
    rw [count, toInt_add_of_isWord (summed index (by omega)), previous,
      shaping_toInt positive index fun earlier before => held earlier (by omega)]
    omega

/-- A row along the edge shows that the edge has rows. -/
theorem rows_positive {index : Nat} (within : index < edge.length) : 0 < edge.rows.toInt := by
  -- A row count that is not positive has no index below it.
  unfold length at within
  omega

/-- The count of an edge with exact sums is its start and the even share of the rows so far. -/
theorem Exact.count_toInt (exact : edge.Exact) {index : Nat} (within : index ≤ edge.length) :
    (edge.count index).toInt
      = edge.start.toInt + evenShare edge.change.toInt edge.rows.toInt index := by
  -- The start needs no rows, and every later count has a row before it.
  cases index with
  | zero => simp [count]
  | succ index =>
    exact Edge.count_toInt (rows_positive within) (index + 1)
      (fun earlier before => exact.dueHeld earlier (by omega))
      (fun earlier before => exact.sumHeld earlier (by omega))

/-- The shaping of an edge with exact sums is the growth of the even share. -/
theorem Exact.shaping_toInt (exact : edge.Exact) {index : Nat} (within : index < edge.length) :
    (edge.shaping index).toInt = evenShare edge.change.toInt edge.rows.toInt (index + 1)
      - evenShare edge.change.toInt edge.rows.toInt index :=
  Edge.shaping_toInt (rows_positive within) index
    fun earlier before => exact.dueHeld earlier (by omega)

/-- The bounds under which the sums along an edge are exact, in terms of its closed form. -/
structure Bounded (edge : Edge) : Prop where
  dueBelow : edge.change.toInt.natAbs + edge.rows.toInt < 2 ^ 63
  countHeld : ∀ index, 1 ≤ index → index ≤ edge.length →
    IsWord (edge.start.toInt + evenShare edge.change.toInt edge.rows.toInt index)

/-- Every count along the edge is within a word when the last one is. -/
theorem isWord_of_end (final : IsWord (edge.start.toInt + edge.change.toInt)) {index : Nat}
    (within : index ≤ edge.length) :
    IsWord (edge.start.toInt + evenShare edge.change.toInt edge.rows.toInt index) := by
  have first := isWord_toInt edge.start
  -- Every count lies between the start, which a word holds, and the last count.
  cases index with
  | zero => simpa using first
  | succ index =>
    have counted : ((index + 1 : Nat) : Int) ≤ edge.rows.toInt := by
      unfold length at within
      omega
    unfold IsWord at first final ⊢
    rcases evenShare_within edge.change.toInt (rows_positive within) counted with rising | falling
    · omega
    · omega

/-- An edge is bounded when its last count is. -/
theorem bounded_of_end (dueBelow : edge.change.toInt.natAbs + edge.rows.toInt < 2 ^ 63)
    (final : IsWord (edge.start.toInt + edge.change.toInt)) : edge.Bounded where
  dueBelow := dueBelow
  -- Counts lie between the start and the end.
  countHeld _ _ high := isWord_of_end final high

/-- The sums along an edge are exact when what is due is held, and every even count is a word. -/
theorem exact_of_counts (due : ∀ index < edge.length, IsWord (edge.due index))
    (counts : ∀ index, 1 ≤ index → index ≤ edge.length →
      IsWord (edge.start.toInt + evenShare edge.change.toInt edge.rows.toInt index)) :
    edge.Exact where
  dueHeld := due
  sumHeld index within := by
    -- The sum is the closed form of the next count.
    induction index using Nat.strongRecOn with
    | ind index ih =>
      have positive := rows_positive within
      rw [Edge.count_toInt positive index (fun earlier before => due earlier (by omega))
          (fun earlier before => ih earlier before (by omega)),
        Edge.shaping_toInt positive index fun earlier before => due earlier (by omega)]
      have next := counts (index + 1) (by omega) (by omega)
      have sum : edge.start.toInt + evenShare edge.change.toInt edge.rows.toInt index
          + (evenShare edge.change.toInt edge.rows.toInt (index + 1)
            - evenShare edge.change.toInt edge.rows.toInt index)
        = edge.start.toInt + evenShare edge.change.toInt edge.rows.toInt (index + 1) := by omega
      rwa [sum]

/-- The sums along a bounded edge are exact. -/
theorem Bounded.exact (bounded : edge.Bounded) : edge.Exact :=
  exact_of_counts
    (fun index within => isWord_due (rows_positive within) (Int.le_of_lt bounded.dueBelow) index)
    bounded.countHeld

/-- The last count of an edge with exact sums has its whole change. -/
theorem Exact.count_length_toInt (exact : edge.Exact) (positive : 0 < edge.rows.toInt) :
    (edge.count edge.length).toInt = edge.start.toInt + edge.change.toInt := by
  have all : (edge.length : Int) = edge.rows.toInt := by
    unfold length
    omega
  rw [exact.count_toInt (Nat.le_refl edge.length), evenShare_all positive all]

/-- The start of an edge with exact sums and its whole change add up to a word. -/
theorem Exact.isWord_end (exact : edge.Exact) (positive : 0 < edge.rows.toInt) :
    IsWord (edge.start.toInt + edge.change.toInt) := by
  -- The sum is the value of a count, and so the value of a word.
  rw [← exact.count_length_toInt positive]
  exact isWord_toInt _

/-- An edge with exact sums ends at its start and its whole change. -/
theorem Exact.count_length (exact : edge.Exact) (positive : 0 < edge.rows.toInt) :
    edge.count edge.length = edge.start + edge.change := by
  rw [← Int64.toInt_inj, exact.count_length_toInt positive,
    toInt_add_of_isWord (exact.isWord_end positive)]

end Edge

/-- An edge that has the same count after two numbers of rows has it at every number between. -/
theorem Edge.Exact.count_between {edge : Edge} (exact : edge.Exact) {low middle high : Nat}
    (above : low ≤ middle) (below : middle ≤ high) (within : high ≤ edge.length)
    (same : edge.count low = edge.count high) : edge.count middle = edge.count low := by
  -- In exact numbers the counts are even shares, which do not leave a value and come back.
  by_cases empty : edge.length = 0
  · have equal : middle = low := by omega
    rw [equal]
  · have positive : 0 < edge.rows.toInt := Edge.rows_positive (show 0 < edge.length by omega)
    have lowCount := exact.count_toInt (show low ≤ edge.length by omega)
    have middleCount := exact.count_toInt (show middle ≤ edge.length by omega)
    have highCount := exact.count_toInt within
    rw [same] at lowCount
    have between := evenShare_between edge.change.toInt positive above below (by omega)
    rw [← Int64.toInt_inj, same]
    omega

end FlatKnit
