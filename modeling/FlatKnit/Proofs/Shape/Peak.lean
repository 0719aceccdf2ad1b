import FlatKnit.Proofs.Shape.Overflow

/-! Peaks of edges: the most that is due on any row, which decides whether all sums are words. -/

namespace FlatKnit

section Remainders

variable {modulus : Nat}

/-- What a multiple leaves over has room for the common divisor below the modulus. -/
theorem mul_mod_add_gcd_le (number multiple : Nat) (positive : 0 < modulus) :
    multiple * number % modulus + Nat.gcd number modulus ≤ modulus := by
  have small := Nat.mod_lt (multiple * number) positive
  -- The divisor divides the multiple and the modulus, and so what is left over and what it lacks.
  have rest : Nat.gcd number modulus ∣ multiple * number % modulus := by
    rw [Nat.dvd_mod_iff (Nat.gcd_dvd_right number modulus)]
    exact (Nat.gcd_dvd_left number modulus).mul_left multiple
  have lacks := Nat.dvd_sub (Nat.gcd_dvd_right number modulus) rest
  have fits := Nat.le_of_dvd (by omega) lacks
  omega

/-- Some multiple leaves over as much as there is room for. -/
theorem exists_mul_mod_add_gcd (number : Nat) (positive : 0 < modulus) :
    ∃ multiple < modulus, multiple * number % modulus + Nat.gcd number modulus = modulus := by
  have divisorSome := Nat.gcd_pos_of_pos_right number positive
  rcases (Nat.le_of_dvd positive (Nat.gcd_dvd_right number modulus)).lt_or_eq with below | whole
  · -- The multiple that leaves the divisor over, taken off a full turn, leaves all but it.
    obtain ⟨multiple, inside, leaves⟩ := Nat.exists_mul_mod_eq_gcd below
    have nonzero : multiple ≠ 0 := by
      rintro rfl
      simp at leaves
      omega
    refine ⟨modulus - multiple, by omega, ?_⟩
    have turn : (modulus - multiple) * number + number * multiple = modulus * number := by
      rw [Nat.mul_comm number, ← Nat.add_mul, Nat.sub_add_cancel (by omega)]
    have both := Nat.add_mod ((modulus - multiple) * number) (number * multiple) modulus
    rw [turn, Nat.mul_mod_right, leaves] at both
    have small := Nat.mod_lt ((modulus - multiple) * number) positive
    -- The two remainders add up to a multiple of the modulus between it and twice it.
    obtain ⟨turns, sum⟩ := Nat.dvd_of_mod_eq_zero both.symm
    have single : turns = 1 := by
      have above : 0 < modulus * turns := by omega
      have under : modulus * turns < modulus * 2 := by omega
      have some := Nat.pos_of_mul_pos_left above
      have few := Nat.lt_of_mul_lt_mul_left under
      omega
    rw [sum, single, Nat.mul_one]
  · exact ⟨0, positive, by rw [Nat.zero_mul, Nat.zero_mod, Nat.zero_add, whole]⟩

end Remainders

namespace Edge

variable {edge : Edge}

/-- What is due on a row never leaves its word. -/
def DueHeld (edge : Edge) : Prop :=
  ∀ index < edge.length, IsWord (edge.due index)

/-- The most that is due on any row: the whole change, and the most that earlier rows leave over. -/
def peak (edge : Edge) : Nat :=
  edge.change.toInt.natAbs +
    (edge.length - Nat.gcd edge.change.toInt.natAbs edge.length)

/-- What is due on a row, as long as it was held on all rows before. -/
theorem due_eq {index : Nat} (within : index < edge.length)
    (held : ∀ earlier < index, IsWord (edge.due earlier)) :
    edge.due index = ((index * edge.change.toInt.natAbs % edge.length
      + edge.change.toInt.natAbs : Nat) : Int) := by
  have positive := rows_positive within
  have rows : edge.rows.toInt = (edge.length : Int) := by
    unfold length
    omega
  -- What is carried into a row is the remainder of all changes that were due before it.
  rw [due, carried_toInt positive index held, rows]
  push_cast
  rfl

/-- What is due stays within its word on every row exactly when the most of it does. -/
theorem dueHeld_iff (some : 0 < edge.length) : edge.DueHeld ↔ edge.peak < 2 ^ 63 := by
  constructor
  · -- There is a row on which the most is due.
    intro held
    obtain ⟨index, within, most⟩ := exists_mul_mod_add_gcd edge.change.toInt.natAbs some
    have fits := (held index within).2
    rw [due_eq within fun earlier before => held earlier (by omega)] at fits
    unfold peak
    omega
  · -- Row by row: no more than the most is due, as long as it was held before.
    intro below index
    induction index using Nat.strongRecOn with
    | ind index ih =>
      intro within
      have most := mul_mod_add_gcd_le edge.change.toInt.natAbs index some
      rw [due_eq within fun earlier before => ih earlier before (by omega)]
      unfold peak at below
      exact ⟨by omega, by omega⟩

/-- An edge with rows is exact when words hold the most that is due, and where it ends. -/
theorem exact_iff_end (some : 0 < edge.length) :
    edge.Exact ↔ edge.peak < 2 ^ 63 ∧ IsWord (edge.start.toInt + edge.change.toInt) := by
  constructor
  · intro exact
    exact ⟨(dueHeld_iff some).mp exact.dueHeld, exact.isWord_end (rows_positive some)⟩
  · -- Every count lies between the start and the end.
    rintro ⟨below, final⟩
    exact exact_of_counts ((dueHeld_iff some).mpr below) fun _ _ within => isWord_of_end final within

end Edge

namespace Segment

variable {segment : Segment} {fit : Fit}

/-- Words hold the most that is due on either edge of the segment, and where both of them end. -/
structure EdgesFit (segment : Segment) (fit : Fit) : Prop where
  left : (segment.leftEdge fit).peak < 2 ^ 63
  right : (segment.rightEdge fit).peak < 2 ^ 63
  leftEnd : IsWord ((segment.leftStart fit).toInt + (segment.leftChange fit).toInt)
  rightEnd : IsWord ((segment.rightStart fit).toInt + (segment.rightChange fit).toInt)

/-- The sums of a segment are held exactly when words are large enough for its edges. -/
theorem sumsHeld_iff_edgesFit :
    segment.SumsHeld fit ↔ (0 < segment.knittedRows fit → segment.EdgesFit fit) := by
  by_cases some : 0 < segment.knittedRows fit
  · -- Both edges have the rows of the segment.
    have left := Edge.exact_iff_end (show 0 < (segment.leftEdge fit).length from some)
    have right := Edge.exact_iff_end (show 0 < (segment.rightEdge fit).length from some)
    constructor
    · intro held _
      exact ⟨(left.mp held.left).1, (right.mp held.right).1, (left.mp held.left).2,
        (right.mp held.right).2⟩
    · intro fits
      exact ⟨left.mpr ⟨(fits some).left, (fits some).leftEnd⟩,
        right.mpr ⟨(fits some).right, (fits some).rightEnd⟩⟩
  · exact ⟨fun _ isSome => absurd isSome some, fun _ => .of_rowless (by omega)⟩

end Segment

end FlatKnit
