/-!
Words: whole numbers of a fixed size, and arithmetic that ends a run where it leaves them.

A checked operation yields nothing when its exact result is no word. The operations of the words
themselves wrap around instead, so that a result of a checked operation is also theirs.
-/

namespace FlatKnit

/-- Whether a whole number is the value of a signed word of 64 bits. -/
def IsWord (number : Int) : Prop :=
  -0x8000000000000000 ≤ number ∧ number < 0x8000000000000000

instance (number : Int) : Decidable (IsWord number) :=
  inferInstanceAs (Decidable (_ ∧ _))

/-- A whole number as a word, unless no word has its value. -/
def word? (number : Int) : Option Int64 :=
  if IsWord number then some (Int64.ofInt number) else none

/-- The sum of two words, unless it leaves its word. -/
def sum? (left right : Int64) : Option Int64 :=
  word? (left.toInt + right.toInt)

/-- The difference of two words, unless it leaves its word. -/
def difference? (left right : Int64) : Option Int64 :=
  word? (left.toInt - right.toInt)

/-- The size of a word without its sign, which only the least word does not have. -/
def magnitude? (word : Int64) : Option Int64 :=
  word? word.toInt.natAbs

/-- The number after a row number or a count of rows, unless it was the last one. -/
def numberAfter? (number : UInt32) : Option UInt32 :=
  if number.toNat + 1 < UInt32.size then some (number + 1) else none

end FlatKnit
