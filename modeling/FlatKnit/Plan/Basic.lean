import FlatKnit.Instruction
import FlatKnit.Plan.Row

/-! Stitch plans: the rows of one segment, and the fewest lines that tell them. -/

namespace FlatKnit

/-- The rows of one segment, in knitting order. -/
structure StitchPlan where
  rows : List Row
  deriving Repr, DecidableEq, Inhabited

namespace StitchPlan

/-- The plan without rows. -/
def empty : StitchPlan := ⟨[]⟩

/-- A plan with one more row at its end. -/
def push (plan : StitchPlan) (row : Row) : StitchPlan :=
  ⟨plan.rows ++ [row]⟩

/-- The first row. -/
def first? (plan : StitchPlan) : Option Row :=
  plan.rows.head?

/-- The last row. -/
def last? (plan : StitchPlan) : Option Row :=
  plan.rows.getLast?

/-- A plan with one more row at its end, whose number has to follow that of the row before. -/
def push? (plan : StitchPlan) (row : Row) : Option StitchPlan :=
  match plan.last? with
  | some last =>
    if numberAfter? last.number = some row.number then some (plan.push row) else none
  | none => some (plan.push row)

/-- All shaping of one edge, summed up from the first row on, unless a sum leaves its word. -/
def shapingSum? (edge : Row → Int64) (plan : StitchPlan) : Option Int64 :=
  plan.rows.foldlM (fun sum row => sum? sum (edge row)) 0

/-- All shaping of the left edge. -/
def leftShaping? (plan : StitchPlan) : Option Int64 :=
  plan.shapingSum? Row.leftShaping

/-- All shaping of the right edge. -/
def rightShaping? (plan : StitchPlan) : Option Int64 :=
  plan.shapingSum? Row.rightShaping

/-- The number of the row after the plan; an empty plan stays at its start. -/
def nextRow (plan : StitchPlan) (start : UInt32) : UInt32 :=
  match plan.last? with
  | some row => row.number + 1
  | none => start

/-- The number of the row after the plan, unless the last row has the last number. -/
def nextRow? (plan : StitchPlan) (start : UInt32) : Option UInt32 :=
  match plan.last? with
  | some row => numberAfter? row.number
  | none => some start

/-- The lines for the rows after `previous`, when `run` rows are knitted but not yet told. -/
def linesAfter (previous : Row) (run : UInt32) : List Row → List Instruction
  -- At the end, what is still untold was knitted plainly.
  | [] => if 0 < run then [.knitRows run previous.number previous.total] else []
  | row :: rest =>
    if row.sameCounts previous then linesAfter row (run + 1) rest
    else
      -- A row with other counts closes a line that covers every row since the line before.
      .shaping (row.left - previous.left) (row.right - previous.right) (run + 1)
        row.number row.total :: linesAfter row 0 rest

/-- The lines for the rows after `previous`, unless a number that they tell leaves its word. -/
def linesAfter? (previous : Row) (run : UInt32) : List Row → Option (List Instruction)
  | [] =>
    if 0 < run then do
      let total ← previous.total?
      return [.knitRows run previous.number total]
    else some []
  | row :: rest => do
    let run ← numberAfter? run
    if row.sameCounts previous then linesAfter? row run rest
    else
      let left ← difference? row.left previous.left
      let right ← difference? row.right previous.right
      let total ← row.total?
      let lines ← linesAfter? row 0 rest
      return .shaping left right run row.number total :: lines

/-- The lines of a plan; one that ends with the counts of its first row is knitted plainly. -/
def compile (plan : StitchPlan) : List Instruction :=
  match plan.rows with
  | [] => []
  | first :: rest =>
    let last := rest.getLastD first
    if first.sameCounts last then
      [.knitRows (UInt32.ofNat plan.rows.length) last.number last.total]
    -- The loop starts with the first row, which is knitted but not yet told.
    else linesAfter first 1 rest

/-- The lines of a plan, unless a number that they tell leaves its word. -/
def compile? (plan : StitchPlan) : Option (List Instruction) :=
  match plan.rows with
  | [] => some []
  | first :: rest =>
    let last := rest.getLastD first
    if first.sameCounts last then do
      let total ← last.total?
      -- The number of rows is cut off to its word, and not checked.
      return [.knitRows (UInt32.ofNat plan.rows.length) last.number total]
    else linesAfter? first 1 rest

/-- The record of a plan. -/
def toJson (plan : StitchPlan) : Json :=
  .object [("rows", .list (plan.rows.map Row.toJson))]

end StitchPlan

end FlatKnit
