import FlatKnit.Decimal.Literal
import FlatKnit.Proofs.Decimal.Rounding

/-! Shortest digits: they lie in the rounding interval of their double, and are read as it. -/

namespace FlatKnit

/-- A power of a whole exponent, over what lies below zero of it, is what lies above zero. -/
theorem zpow_mul_pow_toNat {base : ℚ} (nonzero : base ≠ 0) (power : Int) :
    base ^ power * base ^ (-power).toNat = base ^ power.toNat := by
  -- Whichever sign the power has, one of its two parts is zero.
  rw [← zpow_natCast base (-power).toNat, ← zpow_add₀ nonzero, ← zpow_natCast]
  congr 1
  omega

/-- Powers of two grow with their exponents. -/
theorem twoTo_le {power other : Nat} (less : power ≤ other) : twoTo power ≤ twoTo other :=
  Nat.pow_le_pow_right (by decide) less

/-- A power of two is not zero. -/
theorem twoTo_pos (power : Nat) : 0 < twoTo power :=
  Nat.two_pow_pos power

/-- A power of two as a rational number. -/
theorem cast_twoTo (power : Nat) : (twoTo power : ℚ) = 2 ^ power := by
  rw [twoTo, Nat.pow_eq, Nat.cast_pow, Nat.cast_ofNat]

/-- A power of ten as a rational number. -/
theorem cast_tenTo (power : Nat) : (tenTo power : ℚ) = 10 ^ power := by
  rw [tenTo, Nat.pow_eq, Nat.cast_pow, Nat.cast_ofNat]

/-- The first digit of a number stands for a power of ten that is not above it. -/
theorem pow_digitCount_le {number : Nat} (positive : 0 < number) :
    10 ^ (digitCount number - 1) ≤ number := by
  rcases Nat.eq_zero_or_pos (digitCount number - 1) with single | several
  · rw [single]
    exact positive
  · -- With fewer digits the number would be smaller.
    have enough : ¬ (Nat.toDigits 10 number).length ≤ digitCount number - 1 := by
      rw [digitCount] at several ⊢
      omega
    rw [Nat.length_toDigits_le_iff (by decide) several] at enough
    exact Nat.le_of_not_lt enough

/-- A number is below the power of ten that its digits are too few for. -/
theorem lt_pow_digitCount (number : Nat) : number < 10 ^ digitCount number :=
  (Nat.length_toDigits_le_iff (by decide) Nat.length_toDigits_pos).mp (Nat.le_refl _)

namespace RoundingInterval

variable {interval : RoundingInterval} {place : Int}

/-- A number lies in the interval; the ends count only where it is closed. -/
structure Holds (interval : RoundingInterval) (number : ℚ) : Prop where
  lower : interval.lower * 2 ^ interval.power ≤ number
  upper : number ≤ interval.upper * 2 ^ interval.power
  ends : interval.closed = false →
    interval.lower * 2 ^ interval.power ≠ number ∧ number ≠ interval.upper * 2 ^ interval.power

/-- A number between the ends lies in the interval, closed or not. -/
theorem holds_of_between {number : ℚ} (lower : interval.lower * 2 ^ interval.power < number)
    (upper : number < interval.upper * 2 ^ interval.power) : interval.Holds number :=
  ⟨lower.le, upper.le, fun _ => ⟨lower.ne, upper.ne⟩⟩

/-- The two factors are those of a quarter and of a place, over one unit that divides both. -/
theorem exists_unit (interval : RoundingInterval) (place : Int) : ∃ unit : ℚ, 0 < unit ∧
    interval.quarterFactor place * unit = 2 ^ interval.power ∧
    interval.placeFactor place * unit = 10 ^ place := by
  -- The unit divides out the powers that were moved to the other side to keep both factors whole.
  have two := zpow_mul_pow_toNat two_ne_zero interval.power
  have ten : (10 : ℚ) ^ place * 10 ^ (-place).toNat = 10 ^ place.toNat :=
    zpow_mul_pow_toNat (by norm_num) place
  refine ⟨(2 ^ (-interval.power).toNat * 10 ^ (-place).toNat)⁻¹, by positivity, ?_, ?_⟩
  · rw [quarterFactor, Nat.cast_mul, cast_twoTo, cast_tenTo, ← two]
    field_simp
  · rw [placeFactor, Nat.cast_mul, cast_twoTo, cast_tenTo, ← ten]
    field_simp

/-- A count of a place is found in the interval when its number lies there. -/
theorem contains_iff {count : Nat} :
    interval.contains place count = true ↔ interval.Holds (count * 10 ^ place) := by
  obtain ⟨unit, positive, quarter, grain⟩ := interval.exists_unit place
  -- Over the common unit, a comparison of whole numbers is one of the numbers they count.
  have compare (left right : Nat) : left ≤ right ↔ (left : ℚ) * unit ≤ right * unit := by
    rw [mul_le_mul_iff_left₀ positive, Nat.cast_le]
  have below (left right : Nat) : left < right ↔ (left : ℚ) * unit < right * unit := by
    rw [mul_lt_mul_iff_left₀ positive, Nat.cast_lt]
  unfold contains
  dsimp only
  simp only [compare, below, Nat.cast_mul, mul_assoc, quarter, grain]
  -- A closed interval has its ends, and an open one is told by strict comparisons.
  cases closed : interval.closed with
  | true =>
    simp only [if_true, Bool.and_eq_true, decide_eq_true_eq]
    constructor
    · rintro ⟨lower, upper⟩
      exact ⟨lower, upper, by simp [closed]⟩
    · rintro ⟨lower, upper, _⟩
      exact ⟨lower, upper⟩
  | false =>
    simp only [Bool.false_eq_true, if_false, Bool.and_eq_true, decide_eq_true_eq]
    constructor
    · rintro ⟨lower, upper⟩
      exact holds_of_between lower upper
    · rintro ⟨lower, upper, ends⟩
      exact ⟨lower.lt_of_ne (ends closed).1, upper.lt_of_ne (ends closed).2⟩

/-- The digits that are found at a place are not none, and lie in the interval. -/
theorem holds_of_nearestAt {tie : TieRule} {digits : Nat}
    (found : interval.nearestAt tie place = some digits) :
    0 < digits ∧ interval.Holds (digits * 10 ^ place) := by
  -- Four cases: each of the two neighbours of the exact count lies in the interval, or does not.
  rw [← contains_iff]
  unfold nearestAt at found
  dsimp only at found
  generalize interval.centre * interval.quarterFactor place / interval.placeFactor place = below
    at found
  generalize interval.centre * interval.quarterFactor place % interval.placeFactor place = rest
    at found
  cases first : interval.contains place below && below != 0 <;>
    cases second : interval.contains place (below + 1) <;> rw [first, second] at found
  · cases found
  · obtain rfl := Option.some.inj found
    exact ⟨Nat.succ_pos below, second⟩
  · obtain rfl := Option.some.inj found
    simp only [Bool.and_eq_true, bne_iff_ne] at first
    exact ⟨Nat.pos_of_ne_zero first.2, first.1⟩
  · -- Both neighbours lie in the interval, and one of them is chosen.
    simp only [Bool.and_eq_true, bne_iff_ne] at first
    have either : digits = below ∨ digits = below + 1 := by
      dsimp only at found
      repeat' split at found
      all_goals
        obtain rfl := Option.some.inj found
        omega
    rcases either with rfl | rfl
    · exact ⟨Nat.pos_of_ne_zero first.2, first.1⟩
    · exact ⟨Nat.succ_pos below, second⟩

/-- Where a neighbour lies in the interval, digits are found. -/
theorem nearestAt_isSome {tie : TieRule} {below : Nat}
    (same : interval.centre * interval.quarterFactor place / interval.placeFactor place = below)
    (either : 0 < below ∧ interval.Holds (below * 10 ^ place) ∨
      interval.Holds ((below + 1 : Nat) * 10 ^ place)) :
    (interval.nearestAt tie place).isSome = true := by
  -- Only one of the four cases finds nothing, and there neither neighbour is in the interval.
  rw [← contains_iff, ← contains_iff] at either
  unfold nearestAt
  dsimp only
  rw [same]
  cases first : interval.contains place below && below != 0 <;>
    cases second : interval.contains place (below + 1)
  · rw [second] at either
    simp only [Bool.and_eq_false_iff, bne_eq_false_iff_eq] at first
    rcases either with ⟨positive, held⟩ | none
    · rcases first with none | rfl
      · rw [none] at held
        cases held
      · cases positive
    · cases none
  · rfl
  · rfl
  · dsimp only
    repeat' split
    all_goals rfl

/-- The exact number of a double, between the ends of its interval. -/
def exact (interval : RoundingInterval) : ℚ :=
  interval.centre * 2 ^ interval.power

/-- The count that is cut off at a place, and the one after it, enclose the exact number. -/
theorem exact_between (interval : RoundingInterval) (place : Int) {below : Nat}
    (same : interval.centre * interval.quarterFactor place / interval.placeFactor place = below) :
    below * 10 ^ place ≤ interval.exact ∧ interval.exact < (below + 1 : Nat) * 10 ^ place := by
  obtain ⟨unit, positive, quarter, grain⟩ := interval.exists_unit place
  -- The count is the quotient, so that its multiple does not pass the dividend and the next one
  -- does.
  have divisor : 0 < interval.placeFactor place :=
    Nat.mul_pos (Nat.pow_pos (by decide)) (Nat.two_pow_pos _)
  have reached : below * interval.placeFactor place ≤
      interval.centre * interval.quarterFactor place := by
    rw [← same]
    exact Nat.div_mul_le_self _ _
  have passed : interval.centre * interval.quarterFactor place <
      (below + 1) * interval.placeFactor place := by
    rw [← Nat.div_lt_iff_lt_mul divisor, same]
    exact Nat.lt_succ_self below
  rw [exact, ← quarter, ← grain, ← mul_assoc, ← mul_assoc, ← mul_assoc]
  constructor
  · rw [mul_le_mul_iff_left₀ positive]
    exact_mod_cast reached
  · rw [mul_lt_mul_iff_left₀ positive]
    exact_mod_cast passed

section Around

variable {mantissa : Nat} {exponent : Int}

/-- The interval of a mantissa reaches two quarters up, and two or one down. -/
theorem around_ends (positive : 0 < mantissa) (exponent : Int) :
    (around mantissa exponent).upper = (around mantissa exponent).centre + 2 ∧
    ((around mantissa exponent).lower + 2 = (around mantissa exponent).centre ∨
      mantissa = 2 ^ 52 ∧
        (around mantissa exponent).lower + 1 = (around mantissa exponent).centre) := by
  -- The lower end is closer only next to a power of two.
  unfold around
  dsimp only
  refine ⟨rfl, ?_⟩
  split
  case isTrue power =>
    simp only [twoTo, Nat.pow_eq, Bool.and_eq_true, beq_iff_eq] at power
    right
    omega
  case isFalse =>
    left
    omega

/--
Where the exact number has seventeen digits at a place, one of its neighbours there lies in the
interval: the places stand closer than the doubles do.
-/
theorem nearestAt_isSome_of_digits {tie : TieRule} {place : Int} (positive : 0 < mantissa)
    (small : mantissa < 2 ^ 53)
    (digits : 10 ^ 16 * 10 ^ place ≤ (around mantissa exponent).exact) :
    ((around mantissa exponent).nearestAt tie place).isSome = true := by
  obtain ⟨upper, lower⟩ := around_ends positive exponent
  have centre : (around mantissa exponent).centre = 4 * mantissa := rfl
  apply nearestAt_isSome rfl
  obtain ⟨reached, passed⟩ := exact_between (around mantissa exponent) place rfl
  generalize (around mantissa exponent).centre * (around mantissa exponent).quarterFactor place /
    (around mantissa exponent).placeFactor place = below at reached passed ⊢
  generalize around mantissa exponent = interval at *
  -- From here on the interval is known by its ends alone, and the count by the numbers around it.
  have grain : (0 : ℚ) < 10 ^ place := by positivity
  have quarter : (0 : ℚ) < 2 ^ interval.power := by positivity
  have counted : 0 < below := by
    by_contra none
    obtain rfl : below = 0 := by omega
    rw [Nat.zero_add, Nat.cast_one, one_mul] at passed
    linarith
  have width : (interval.upper : ℚ) = 4 * mantissa + 2 := by
    rw [upper, centre]
    push_cast
    ring
  -- Seventeen digits make a place smaller than two quarters, because a mantissa has fewer digits.
  have bounded : (mantissa : ℚ) * 2 ^ interval.power ≤ 2 ^ 53 * 2 ^ interval.power := by
    have cast : (mantissa : ℚ) ≤ 2 ^ 53 := by exact_mod_cast small.le
    exact mul_le_mul_of_nonneg_right cast quarter.le
  rw [exact, centre, Nat.cast_mul, Nat.cast_ofNat] at digits reached passed
  rw [Nat.cast_add, Nat.cast_one] at passed ⊢
  rcases lower with lower | ⟨power, lower⟩
  · have depth : (interval.lower : ℚ) = 4 * mantissa - 2 := by
      rw [eq_sub_iff_add_eq]
      exact_mod_cast lower.trans centre
    -- The nearer one of the neighbours is less than two quarters away.
    rcases le_or_gt (2 * (4 * (mantissa : ℚ) * 2 ^ interval.power - below * 10 ^ place))
      (10 ^ place) with near | far
    · left
      refine ⟨counted, holds_of_between ?_ ?_⟩
      · rw [depth]
        linarith
      · rw [width]
        linarith
    · right
      apply holds_of_between
      · rw [depth]
        linarith
      · rw [width]
        linarith
  · -- Next to a power of two the places stand so close that the upper neighbour will do.
    have depth : (interval.lower : ℚ) = 4 * mantissa - 1 := by
      rw [eq_sub_iff_add_eq]
      exact_mod_cast lower.trans centre
    have exactly : (mantissa : ℚ) = 2 ^ 52 := by exact_mod_cast power
    right
    apply holds_of_between
    · rw [depth]
      linarith
    · rw [width]
      rw [exactly] at digits passed reached ⊢
      linarith

/-- The shift of the first digit is enough to bring every double to one or above. -/
theorem twoTo_le_shifted (positive : 0 < mantissa) (least : -1074 ≤ exponent) :
    twoTo (-(around mantissa exponent).power).toNat ≤
      (around mantissa exponent).centre * twoTo (around mantissa exponent).power.toNat *
        tenTo 350 := by
  -- The least double is above the shift of one, and every other exponent needs less.
  have enough : twoTo 1076 ≤ 4 * tenTo 350 := by decide +kernel
  have short : (-(around mantissa exponent).power).toNat ≤ 1076 := by
    show (-(exponent - 2)).toNat ≤ 1076
    omega
  calc
    twoTo (-(around mantissa exponent).power).toNat ≤ twoTo 1076 := twoTo_le short
    _ ≤ 4 * tenTo 350 := enough
    _ ≤ (around mantissa exponent).centre * twoTo (around mantissa exponent).power.toNat *
        tenTo 350 := by
      refine Nat.mul_le_mul_right _ ?_
      exact Nat.le_mul_of_pos_right 4 positive |>.trans
        (Nat.le_mul_of_pos_right _ (twoTo_pos _))

/-- The exact number is not below the power of ten of its first digit. -/
theorem pow_leadingPower_le (positive : 0 < mantissa) (least : -1074 ≤ exponent) :
    10 ^ (around mantissa exponent).leadingPower ≤ (around mantissa exponent).exact := by
  have shifts := twoTo_le_shifted positive least
  have parts := zpow_mul_pow_toNat two_ne_zero (around mantissa exponent).power
  have divisor := twoTo_pos (-(around mantissa exponent).power).toNat
  unfold leadingPower exact
  dsimp only
  generalize around mantissa exponent = interval at *
  -- The digits of the shifted number say which power of ten it is not below.
  have first := pow_digitCount_le (Nat.div_pos shifts divisor)
  rw [Nat.le_div_iff_mul_le divisor] at first
  have counted : 0 < digitCount (interval.centre * twoTo interval.power.toNat * tenTo 350 /
      twoTo (-interval.power).toNat) := Nat.length_toDigits_pos
  generalize digitCount _ = count at first counted ⊢
  obtain ⟨places, rfl⟩ : ∃ places, count = places + 1 := ⟨count - 1, by omega⟩
  have place : Int.ofNat (places + 1) - 351 = (places : Int) - 350 := by
    rw [Int.ofNat_eq_natCast]
    omega
  have shift : (tenTo 350 : ℚ) = 10 ^ (350 : Int) := by
    rw [cast_tenTo, ← zpow_natCast]
    rfl
  have counted : (10 : ℚ) ^ places * 2 ^ (-interval.power).toNat ≤
      interval.centre * 2 ^ interval.power.toNat * 10 ^ (350 : Int) := by
    rw [← shift, ← cast_twoTo, ← cast_twoTo]
    exact_mod_cast first
  -- The part of the power below zero stands on both sides.
  have positive : (0 : ℚ) < 2 ^ (-interval.power).toNat := by positivity
  rw [← parts] at counted
  rw [place, zpow_sub₀ (by norm_num), zpow_natCast, div_le_iff₀ (by positivity),
    ← mul_le_mul_iff_left₀ positive]
  linarith

end Around

end RoundingInterval

namespace Scientific

/-- The number that a decimal stands for. -/
def number (decimal : Scientific) : ℚ :=
  decimal.digits * 10 ^ decimal.exponent

/-- Final zeros that are dropped do not change the number, and some digits remain. -/
theorem number_trimmed (fuel : Nat) (decimal : Scientific) :
    (trimmed fuel decimal).number = decimal.number ∧
      (0 < decimal.digits → 0 < (trimmed fuel decimal).digits) := by
  -- One zero is dropped at a time, as long as there is one to drop.
  induction fuel generalizing decimal with
  | zero => exact ⟨rfl, id⟩
  | succ fuel ih =>
    rw [trimmed]
    split
    case isFalse => exact ⟨rfl, id⟩
    case isTrue zero =>
      simp only [Bool.and_eq_true, beq_iff_eq, bne_iff_ne] at zero
      obtain ⟨same, remains⟩ := ih ⟨decimal.digits / 10, decimal.exponent + 1⟩
      refine ⟨?_, fun _ => remains (by dsimp only; omega)⟩
      -- One zero less, and one power more.
      have tenfold : ((decimal.digits / 10 : Nat) : ℚ) * 10 = decimal.digits := by
        exact_mod_cast Nat.div_mul_cancel (Nat.dvd_of_mod_eq_zero zero.1)
      rw [same, number, number, zpow_add₀ (by norm_num), zpow_one, mul_comm (_ ^ _), ← mul_assoc,
        tenfold]

end Scientific

open RoundingInterval in
/-- The shortest digits of a double have a first digit and lie in its rounding interval. -/
theorem shortest_holds (tie : TieRule) {mantissa : Nat} {exponent : Int} (positive : 0 < mantissa)
    (small : mantissa < 2 ^ 53) (least : -1074 ≤ exponent) :
    0 < (shortest tie mantissa exponent).digits ∧
      (around mantissa exponent).Holds (shortest tie mantissa exponent).number := by
  unfold shortest
  dsimp only
  split
  case h_1 decimal hit =>
    -- A hit on one of the grids lies in the interval, and dropping zeros does not move it.
    obtain ⟨count, _, found⟩ := List.exists_of_findSome?_eq_some hit
    obtain ⟨digits, nearest, rfl⟩ := Option.map_eq_some_iff.mp found
    obtain ⟨counted, held⟩ := holds_of_nearestAt nearest
    obtain ⟨same, remains⟩ := Scientific.number_trimmed 20
      ⟨digits, (around mantissa exponent).leadingPower - Int.ofNat count⟩
    refine ⟨remains counted, ?_⟩
    rw [same]
    exact held
  case h_2 missed =>
    -- With seventeen digits there is always a hit.
    have last := List.findSome?_eq_none_iff.mp missed 16 (by decide)
    rw [Option.map_eq_none_iff] at last
    have digits : 10 ^ 16 * 10 ^ ((around mantissa exponent).leadingPower - Int.ofNat 16) ≤
        (around mantissa exponent).exact := by
      refine le_of_eq_of_le ?_ (pow_leadingPower_le positive least)
      rw [← zpow_natCast, ← zpow_add₀ (by norm_num)]
      congr 1
      rw [Int.ofNat_eq_natCast]
      omega
    have found := @nearestAt_isSome_of_digits _ _ tie _ positive small digits
    rw [last] at found
    cases found

/-- A number in the rounding interval of a double is neither tiny nor huge. -/
theorem holds_bounds {mantissa scale : Nat} (positive : 0 < mantissa) (small : mantissa < 2 ^ 53)
    (limit : scale ≤ 2045) {number : ℚ}
    (held : (RoundingInterval.around mantissa (scale - 1074)).Holds number) :
    10 ^ (-400 : Int) ≤ number ∧ number < 10 ^ (400 : Int) := by
  obtain ⟨upper, lower⟩ := RoundingInterval.around_ends positive (scale - 1074)
  have centre : (RoundingInterval.around mantissa (scale - 1074)).centre = 4 * mantissa := rfl
  have power : (RoundingInterval.around mantissa (scale - 1074)).power = scale - 1076 := by
    show (scale : Int) - 1074 - 2 = scale - 1076
    omega
  obtain ⟨above, below, _⟩ := held
  generalize RoundingInterval.around mantissa (scale - 1074) = interval at *
  rw [power] at above below
  -- Ten is larger than two to a power large enough to cover all scales of doubles.
  have steep : (2 : ℚ) ^ (1076 : Int) ≤ 10 ^ (400 : Int) := by
    have grown : twoTo 1076 ≤ tenTo 400 := by decide +kernel
    have cast : (twoTo 1076 : ℚ) ≤ tenTo 400 := by exact_mod_cast grown
    rw [cast_twoTo, cast_tenTo, ← zpow_natCast, ← zpow_natCast] at cast
    exact cast
  constructor
  · -- The lower end is one quarter at least, and no quarter is below the least one.
    have one : (1 : ℚ) ≤ interval.lower := by
      have counted : 1 ≤ interval.lower := by omega
      exact_mod_cast counted
    calc
      (10 : ℚ) ^ (-400 : Int) ≤ 2 ^ (-1076 : Int) := by
        rw [zpow_neg, zpow_neg]
        exact inv_anti₀ (by positivity) steep
      _ ≤ 2 ^ ((scale : Int) - 1076) := zpow_le_zpow_right₀ one_le_two (by omega)
      _ ≤ interval.lower * 2 ^ ((scale : Int) - 1076) :=
        le_mul_of_one_le_left (by positivity) one
      _ ≤ number := above
  · -- The upper end is four mantissas and a half at most, and the largest scale bounds the rest.
    have most : (interval.upper : ℚ) ≤ 2 ^ (56 : Int) := by
      have counted : interval.upper ≤ 2 ^ 56 := by omega
      exact_mod_cast counted
    calc
      number ≤ interval.upper * 2 ^ ((scale : Int) - 1076) := below
      _ ≤ 2 ^ (56 : Int) * 2 ^ ((scale : Int) - 1076) :=
        mul_le_mul_of_nonneg_right most (by positivity)
      _ = 2 ^ (56 + ((scale : Int) - 1076)) := (zpow_add₀ two_ne_zero _ _).symm
      _ < 2 ^ (1076 : Int) := zpow_lt_zpow_right₀ one_lt_two (by omega)
      _ ≤ 10 ^ (400 : Int) := steep

namespace RoundingInterval

variable {numerator denominator : Nat}

/--
A quotient in an interval is compared with its ends in whole numbers, once a quarter is known as a
part of some unit.
-/
theorem Holds.counts {interval : RoundingInterval} (divisor : 0 < denominator) {unit grain : Nat}
    (positive : 0 < unit) (quarter : (2 : ℚ) ^ interval.power * (4 * unit) = grain)
    (held : interval.Holds (numerator / denominator)) :
    interval.lower * (denominator * grain) ≤ 4 * (numerator * unit) ∧
    4 * (numerator * unit) ≤ interval.upper * (denominator * grain) ∧
    (interval.closed = false →
      interval.lower * (denominator * grain) ≠ 4 * (numerator * unit) ∧
      4 * (numerator * unit) ≠ interval.upper * (denominator * grain)) := by
  obtain ⟨above, below, ends⟩ := held
  have factor : (0 : ℚ) < denominator * (4 * unit) := by
    have first : (0 : ℚ) < denominator := by exact_mod_cast divisor
    have second : (0 : ℚ) < unit := by exact_mod_cast positive
    positivity
  -- Both sides of every comparison are multiplied by the divisor and by four units.
  have count (quarters : Nat) : (quarters : ℚ) * 2 ^ interval.power * (denominator * (4 * unit)) =
      (quarters * (denominator * grain) : Nat) := by
    push_cast
    rw [← quarter]
    ring
  have whole : (numerator : ℚ) / denominator * (denominator * (4 * unit)) =
      (4 * (numerator * unit) : Nat) := by
    have nonzero : (denominator : ℚ) ≠ 0 := by exact_mod_cast divisor.ne'
    push_cast
    field_simp
  -- Over the common factor, both comparisons are between whole numbers.
  rw [← mul_le_mul_iff_left₀ factor, count, whole, Nat.cast_le] at above below
  refine ⟨above, below, ?_⟩
  intro opened
  obtain ⟨lower, upper⟩ := ends opened
  -- Where the ends are excluded, an equality of counts would reach one of them.
  constructor
  · intro same
    refine lower (mul_right_cancel₀ factor.ne' ?_)
    rw [count, whole, same]
  · intro same
    refine upper (mul_right_cancel₀ factor.ne' ?_)
    rw [count, whole, same]

/-- Next to a power of two, an interval above the least scale reaches one quarter down. -/
theorem around_power {scale : Nat} (nonzero : scale ≠ 0) :
    (around (2 ^ 52) (scale - 1074)).lower + 1 = 4 * 2 ^ 52 := by
  -- Above the least scale the exponent is not the least one, so that the interval takes its closer
  -- end.
  have other : ((scale : Int) - 1074 != -1074) = true := by
    rw [bne_iff_ne]
    omega
  unfold around
  simp only [twoTo, Nat.pow_eq, beq_self_eq_true, other, Bool.and_self, if_true]
  omega

/-- A quarter of the last place of a double is a fourth of its grain, counted in least doubles. -/
theorem around_quarter (mantissa scale : Nat) :
    (2 : ℚ) ^ (around mantissa (scale - 1074)).power * (4 * twoTo 1074) = twoTo scale := by
  -- The powers of two add up to the scale.
  have four : (4 : ℚ) = 2 ^ (2 : Int) := by norm_num
  have power : (around mantissa (scale - 1074)).power + (2 + (1074 : Nat)) = (scale : Nat) := by
    show (scale : Int) - 1074 - 2 + (2 + (1074 : Nat)) = (scale : Nat)
    omega
  rw [cast_twoTo, cast_twoTo, four, ← zpow_natCast, ← zpow_natCast, ← zpow_add₀ two_ne_zero,
    ← zpow_add₀ two_ne_zero, power]

/-- A quotient in the rounding interval of a double lies around its mantissa. -/
theorem Holds.liesAround {mantissa scale : Nat} (positive : 0 < mantissa)
    (divisor : 0 < denominator)
    (held : (around mantissa (scale - 1074)).Holds (numerator / denominator)) :
    LiesAround mantissa scale (numerator * twoTo 1074) (denominator * twoTo scale) := by
  -- Once the ends are whole numbers, what is left is linear in the mantissa and its grain.
  obtain ⟨above, below, ends⟩ :=
    held.counts divisor (twoTo_pos 1074) (around_quarter mantissa scale)
  have closed : (around mantissa (scale - 1074)).closed = (mantissa % 2 == 0) := rfl
  have upper : (around mantissa (scale - 1074)).upper = 4 * mantissa + 2 := rfl
  have lower : 4 * mantissa ≤ (around mantissa (scale - 1074)).lower + 2 := by
    have centre : (around mantissa (scale - 1074)).centre = 4 * mantissa := rfl
    have depth := (around_ends positive (scale - 1074)).2
    omega
  have closer : mantissa = 2 ^ 52 → scale ≠ 0 →
      (around mantissa (scale - 1074)).lower + 1 = 4 * mantissa := by
    rintro rfl nonzero
    exact around_power nonzero
  rw [closed] at ends
  rw [upper] at below ends
  generalize (around mantissa (scale - 1074)).lower = least at *
  generalize numerator * twoTo 1074 = number at *
  generalize denominator * twoTo scale = grain at *
  have deep := Nat.mul_le_mul_right grain lower
  rw [Nat.add_mul, Nat.mul_assoc] at below ends deep
  refine ⟨by omega, by omega, ?_, ?_⟩
  · -- An odd mantissa leaves the ends to its neighbours.
    intro tie
    by_contra odd
    obtain ⟨notLower, notUpper⟩ := ends (by simpa using odd)
    omega
  · intro power nonzero
    have quarter := congrArg (· * grain) (closer power nonzero)
    rw [Nat.add_mul, Nat.mul_assoc] at quarter
    omega

end RoundingInterval

/-- The first digit of a decimal says between which powers of ten it lies. -/
theorem pow_le_digits_mul {digits : Nat} (nonzero : 0 < digits) (exponent : Int) :
    (10 : ℚ) ^ (digitCount digits + exponent - 1) ≤ digits * 10 ^ exponent ∧
      (digits * 10 ^ exponent : ℚ) < 10 ^ (digitCount digits + exponent) := by
  -- The count of digits bounds the number from both sides, and the exponent moves both bounds.
  have least : (10 : ℚ) ^ (digitCount digits - 1) ≤ digits := by
    exact_mod_cast pow_digitCount_le nonzero
  have most : (digits : ℚ) < 10 ^ digitCount digits := by
    exact_mod_cast lt_pow_digitCount digits
  have counted : 0 < digitCount digits := Nat.length_toDigits_pos
  have power : (10 : ℚ) ^ exponent > 0 := by positivity
  constructor
  · have split :
        (digitCount digits + exponent - 1 : Int) = (digitCount digits - 1 : Nat) + exponent := by
      omega
    rw [split, zpow_add₀ (by norm_num), zpow_natCast]
    exact mul_le_mul_of_nonneg_right least power.le
  · rw [zpow_add₀ (by norm_num), zpow_natCast]
    exact mul_lt_mul_of_pos_right most power

/-- Digits in the rounding interval of a double are read as that double. -/
theorem nearestDouble_eq {value : Float} {mantissa scale : Nat} (made : MadeOf mantissa scale value)
    {digits : Nat} {exponent : Int} (nonzero : 0 < digits)
    (held : (RoundingInterval.around mantissa (scale - 1074)).Holds (digits * 10 ^ exponent)) :
    nearestDouble digits exponent = value := by
  obtain ⟨least, most⟩ := holds_bounds made.positive made.small made.limit held
  obtain ⟨below, above⟩ := pow_le_digits_mul nonzero exponent
  have ten : (1 : ℚ) < 10 := by norm_num
  -- The digits are neither so small nor so large that the reader gives up on them.
  have notTiny : -400 ≤ (digitCount digits + exponent : Int) := by
    by_contra tiny
    have shrunk := zpow_le_zpow_right₀ ten.le
      (show (digitCount digits + exponent : Int) ≤ -400 by omega)
    linarith
  have notHuge : (digitCount digits + exponent : Int) ≤ 400 := by
    by_contra huge
    have grown := zpow_le_zpow_right₀ ten.le
      (show (400 : Int) ≤ digitCount digits + exponent - 1 by omega)
    linarith
  -- The number that is read is a quotient of whole numbers, and it lies around the mantissa.
  have quotient : (digits * 10 ^ exponent : ℚ) =
      (digits * tenTo exponent.toNat : Nat) / (tenTo (-exponent).toNat : Nat) := by
    rw [Nat.cast_mul, cast_tenTo, cast_tenTo, ← zpow_mul_pow_toNat (by norm_num) exponent]
    field_simp
  rw [quotient] at held
  have divisor : 0 < tenTo (-exponent).toNat := Nat.pow_pos (by decide)
  have rounded := nearestBits_eq divisor made.small made.leading made.limit
    (held.liesAround made.positive divisor)
  unfold nearestDouble
  dsimp only
  rw [if_neg, if_neg, rounded, ← made.bits, UInt64.ofNat_toNat, Float.ofBits_toBits]
  · rw [Int.ofNat_eq_natCast]
    omega
  · simp only [Bool.or_eq_true, beq_iff_eq, decide_eq_true_eq, Int.ofNat_eq_natCast]
    omega

end FlatKnit
