import FlatKnit.Proofs.Chain
import FlatKnit.Proofs.Decimal.Finite
import FlatKnit.Record

/-! Finite lengths: which texts are read as a finite number of inches, and which are not. -/

namespace FlatKnit

/-- The words of a length with fractions behind its sign; true is a minus, which counts for all. -/
def signedWords (text : List Char) : Bool × List (List Char) :=
  match words text with
  | ('-' :: first) :: rest => (true, first :: rest)
  | parts => (false, parts)

/-- Words are read as the parts of a length, one by one. -/
def ReadAsParts (text : List (List Char)) (parts : List Float) : Prop :=
  List.Forall₂ (fun word part => readLengthPart word = .ok part) text parts

/-- The totals on the way from one number to a sum, both of them included. -/
def runningTotals (total : Float) (parts : List Float) : List Float :=
  parts.scanl (· + ·) total

/-- The first running total is the number that the sum starts from. -/
theorem mem_runningTotals (total : Float) (parts : List Float) :
    total ∈ runningTotals total parts := by
  cases parts <;> simp [runningTotals]

/-- A sum is finite exactly when no total on the way to it is infinite or no number. -/
theorem isFinite_sum_iff (total : Float) (parts : List Float) :
    (parts.foldl (· + ·) total).isFinite = true ↔
      ∀ running ∈ runningTotals total parts, running.isFinite = true := by
  induction parts generalizing total with
  | nil => simp [runningTotals]
  | cons part rest ih =>
    have totals : runningTotals total (part :: rest)
        = total :: runningTotals (total + part) rest := List.scanl_cons
    rw [List.foldl_cons, ih, totals, List.forall_mem_cons]
    -- A total that is not finite spoils the next one, so the first total is finite with the others.
    constructor
    · intro finite
      exact ⟨(isFinite_add (finite _ (mem_runningTotals _ _))).1, finite⟩
    · exact fun finite => finite.2

/-- Adding up words succeeds exactly when every word is read as a part. -/
theorem sumLengthParts_eq_ok_iff {total value : Float} {text : List (List Char)} :
    sumLengthParts total text = .ok value ↔
      ∃ parts, ReadAsParts text parts ∧ parts.foldl (· + ·) total = value := by
  -- The total is carried along the words, so the induction is on them for any total.
  induction text generalizing total with
  | nil =>
    constructor
    · intro read
      exact ⟨[], .nil, Except.ok.inj read⟩
    · rintro ⟨parts, reads, rfl⟩
      cases reads
      rfl
  | cons word rest ih =>
    rw [sumLengthParts, bind_eq_ok_iff]
    constructor
    · rintro ⟨part, first, later⟩
      obtain ⟨parts, reads, sum⟩ := ih.mp later
      exact ⟨part :: parts, .cons first reads, sum⟩
    · rintro ⟨parts, reads, rfl⟩
      cases reads with
      | cons first reads => exact ⟨_, first, ih.mpr ⟨_, reads, rfl⟩⟩

/-- A minus in front of the first word belongs to the whole length. -/
theorem signedWords_minus {text first : List Char} {rest : List (List Char)}
    (parted : words text = ('-' :: first) :: rest) : signedWords text = (true, first :: rest) := by
  simp only [signedWords, parted]

/-- Without a minus in front, the words stay as they are. -/
theorem signedWords_plain {text : List Char}
    (unsigned : ∀ first rest, words text = ('-' :: first) :: rest → False) :
    signedWords text = (false, words text) := by
  -- The other case of the match is what is ruled out.
  unfold signedWords
  split
  case h_1 parted => exact absurd parted (unsigned _ _)
  case h_2 => rfl

/-- A length with fractions is the sum of its parts with the sign in front. -/
theorem readFractionLength_eq (text : List Char) :
    readFractionLength text
      = (sumLengthParts 0.0 (signedWords text).2).map (signed (signedWords text).1) := by
  -- The sign is a minus in front of the first word; a minus on any other belongs to its part.
  unfold readFractionLength
  split
  case h_1 parted =>
    rw [signedWords_minus parted]
    rfl
  case h_2 unsigned =>
    rw [signedWords_plain unsigned]
    cases sumLengthParts 0.0 (words text) <;> rfl

/-- Zero is a finite number. -/
theorem isFinite_zero : (0.0 : Float).isFinite = true := by
  decide +kernel

/-- A length without a slash is finite, if it is read at all. -/
theorem isFinite_of_decimal {text : String} (noSlash : '/' ∉ bareLength text) {value : Float}
    (read : readInches text = .ok value) : value.isFinite = true := by
  have unslashed : (bareLength text).contains '/' = false := by simpa using noSlash
  rw [readInches] at read
  by_cases empty : (bareLength text).isEmpty = true
  · -- An empty text is zero.
    rw [if_pos empty] at read
    obtain rfl := Except.ok.inj read
    exact isFinite_zero
  · simp only [empty, unslashed, if_false, Bool.false_eq_true, readDecimalLength] at read
    split at read
    · cases read
    · obtain ⟨finite, rfl⟩ := guard_eq_ok_iff.mp read
      exact finite

/-- A length with a slash is the sum of its parts, with its sign. -/
theorem readInches_fraction {text : String} (slash : '/' ∈ bareLength text) {value : Float} :
    readInches text = .ok value ↔
      ∃ parts, ReadAsParts (signedWords (bareLength text)).2 parts ∧
        signed (signedWords (bareLength text)).1 (parts.foldl (· + ·) 0.0) = value := by
  have slashed : (bareLength text).contains '/' = true := by simpa using slash
  -- A text with a slash is neither empty nor read as a decimal.
  have filled : (bareLength text).isEmpty = false := by
    cases bare : bareLength text with
    | nil => rw [bare] at slash; cases slash
    | cons => rfl
  simp only [readInches, filled, slashed, if_true, Bool.false_eq_true, if_false,
    readFractionLength_eq, map_eq_ok_iff, sumLengthParts_eq_ok_iff]
  constructor
  · rintro ⟨_, ⟨parts, reads, rfl⟩, rfl⟩
    exact ⟨parts, reads, rfl⟩
  · rintro ⟨parts, reads, rfl⟩
    exact ⟨_, ⟨parts, reads, rfl⟩, rfl⟩

/-- A sign in front does not make a double infinite. -/
theorem isFinite_signed (negative : Bool) (value : Float) :
    (signed negative value).isFinite = value.isFinite := by
  cases negative
  · rfl
  · exact isFinite_neg value

/-- A record loads a text as its length in inches, and as zero where it has none. -/
theorem Record.inches_text {entries : List (String × Json)} {key text : String}
    (found : entries.lookup key = some (.text text)) :
    Record.inches entries key = (readInches text).toOption.getD 0.0 := by
  rw [inches, found]

/-- A text has a slash, and a total on the way through its parts is infinite or no number. -/
def LeavesFinite (text : String) : Prop :=
  '/' ∈ bareLength text ∧ ∃ parts, ReadAsParts (signedWords (bareLength text)).2 parts ∧
    ∃ total ∈ runningTotals 0.0 parts, total.isFinite = false

/-- A text is read as a length that is not finite exactly when it leaves the finite numbers. -/
theorem readInches_not_finite_iff {text : String} :
    (∃ value, readInches text = .ok value ∧ value.isFinite = false) ↔ LeavesFinite text := by
  by_cases slash : '/' ∈ bareLength text
  · simp only [readInches_fraction slash, LeavesFinite, slash, true_and]
    -- The sum is what the sign stands in front of, and it is the last of its totals.
    have spoiled : ∀ parts, (parts.foldl (· + ·) (0.0 : Float)).isFinite = false ↔
        ∃ total ∈ runningTotals 0.0 parts, total.isFinite = false := by
      intro parts
      have sums := not_congr (isFinite_sum_iff 0.0 parts)
      simpa using sums
    constructor
    · rintro ⟨_, ⟨parts, reads, rfl⟩, broken⟩
      rw [isFinite_signed] at broken
      exact ⟨parts, reads, (spoiled parts).mp broken⟩
    · rintro ⟨parts, reads, broken⟩
      refine ⟨_, ⟨parts, reads, rfl⟩, ?_⟩
      rw [isFinite_signed]
      exact (spoiled parts).mpr broken
  · -- Without a slash the length is checked before it is given.
    constructor
    · rintro ⟨value, read, broken⟩
      rw [isFinite_of_decimal slash read] at broken
      cases broken
    · exact fun leaves => absurd leaves.1 slash

/--
A length is read as a finite number, unless its text has a slash and its parts, or their sum, are
infinite or no numbers: nothing checks them.

The same holds for what a record loads from a text, with zero in place of what cannot be read.
-/
theorem readInches_finite (text : String) :
    ((∃ value, readInches text = .ok value ∧ value.isFinite = false) ↔ LeavesFinite text) ∧
    (∀ entries key, entries.lookup key = some (.text text) →
      ((Record.inches entries key).isFinite = false ↔ LeavesFinite text)) := by
  refine ⟨readInches_not_finite_iff, ?_⟩
  intro entries key found
  rw [Record.inches_text found, ← readInches_not_finite_iff]
  cases readInches text with
  | error fault =>
    -- Zero stands in for what cannot be read, and is finite.
    simp only [Except.toOption, Option.getD_none, isFinite_zero, reduceCtorEq, false_and,
      exists_false]
  | ok value => simp [Except.toOption]

/-- An infinite numerator and a sum of finite parts leave the finite numbers, a mixed one stays. -/
theorem height_not_finite :
    (Record.inches [("height", .text "inf/1")] "height").isFinite = false ∧
    (Record.inches [("height", .text "1e308 8e307/1")] "height").isFinite = false ∧
    ¬ LeavesFinite "5 1/2" := by
  -- A record takes the length as it is read, so it is enough to look at the reader.
  have read : ∀ text, (readInches text).toOption.map Float.isFinite = some false →
      (Record.inches [("height", .text text)] "height").isFinite = false := by
    intro text inspected
    obtain ⟨value, found, broken⟩ := Option.map_eq_some_iff.mp inspected
    have decides := readInches_finite text
    exact (decides.2 _ _ rfl).mpr (decides.1.mp ⟨value, toOption_eq_some_iff.mp found, broken⟩)
  refine ⟨read _ (by decide +kernel), read _ (by decide +kernel), ?_⟩
  intro leaves
  have loaded := ((readInches_finite "5 1/2").2 [("height", .text "5 1/2")] "height" rfl).mpr leaves
  exact absurd loaded (by decide +kernel)

/-- A text that is no error is read as an infinite length. -/
theorem infinite_length : ∃ value, readInches "inf/1" = .ok value ∧ value.isFinite = false :=
  ⟨1.0 / 0.0, toOption_eq_some_iff.mp (by decide +kernel), by decide +kernel⟩

end FlatKnit
