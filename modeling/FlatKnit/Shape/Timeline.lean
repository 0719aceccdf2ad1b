import FlatKnit.Shape.Basic

/-! Timelines: the plans and the instructions of a whole shape, in knitting order. -/

namespace FlatKnit

namespace Segment

/-- Whether a segment that follows another one is knitted; one without height is bound off. -/
def isKnitted (segment : Segment) (fit : Fit) : Bool :=
  -- A height that rounds away to no rows still counts as a height.
  segment.heightAt fit.size > 0.0

/-- The stitches in work after the segment: those of its last row, or else of its lower edge. -/
def finalStitches (segment : Segment) (fit : Fit) (plan : StitchPlan) : Int64 :=
  match plan.last? with
  | some row => row.total
  -- A segment without rows leaves the stitches that it was to start with.
  | none => segment.lowerStitches fit

/-- The stitches in work after the segment, unless the total of its last row leaves its word. -/
def finalStitches? (segment : Segment) (fit : Fit) (plan : StitchPlan) : Option Int64 :=
  match plan.last? with
  | some row => row.total?
  | none => some (segment.lowerStitches fit)

/-- The row lines of a segment, and its notes after them. -/
def ownLines (segment : Segment) (plan : StitchPlan) : List Instruction :=
  plan.compile ++ segment.notes.map .note

/-- The row lines of a segment and its notes, unless a number that they tell leaves its word. -/
def ownLines? (segment : Segment) (plan : StitchPlan) : Option (List Instruction) := do
  let lines ← plan.compile?
  return lines ++ segment.notes.map .note

end Segment

namespace Shape

mutual

/-- The plans of the root and of every knitted segment after it; sections start at the same row. -/
def plans (fit : Fit) (start : UInt32) : Shape → List StitchPlan
  | node segment successors =>
    let plan := segment.plan fit start
    plan :: successorPlans fit (plan.nextRow start) successors

/-- The plans of the knitted shapes of a list. -/
def successorPlans (fit : Fit) (start : UInt32) : List Shape → List StitchPlan
  | [] => []
  | shape :: shapes =>
    -- A successor that is bound off has no plan, and neither has anything behind it.
    (if shape.segment.isKnitted fit then plans fit start shape else []) ++
      successorPlans fit start shapes

end

mutual

/-- The plans of a shape, unless a sum or a row number leaves its word. -/
def plans? (fit : Fit) (start : UInt32) : Shape → Option (List StitchPlan)
  | node segment successors => do
    let plan ← segment.plan? fit start
    let next ← plan.nextRow? start
    let later ← successorPlans? fit next successors
    return plan :: later

/-- The plans of the knitted shapes of a list, unless a sum or a row number leaves its word. -/
def successorPlans? (fit : Fit) (start : UInt32) : List Shape → Option (List StitchPlan)
  | [] => some []
  | shape :: shapes => do
    let here ← (if shape.segment.isKnitted fit then plans? fit start shape else some [])
    let later ← successorPlans? fit start shapes
    return here ++ later

end

mutual

/-- The lines from the first row of a shape to its last bind-off, without a cast-on. -/
def lines (fit : Fit) (start : UInt32) : Shape → List Instruction
  | node segment successors =>
    let plan := segment.plan fit start
    let next := plan.nextRow start
    segment.ownLines plan ++
      match successors with
      -- A piece without successors ends here.
      | [] => [.bindOff (segment.finalStitches fit plan)]
      -- A single successor goes on with the same stitches.
      | [only] =>
        if only.segment.isKnitted fit then lines fit next only
        else [.bindOff (only.segment.lowerStitches fit)]
      -- Several successors are announced one by one, and all start at the same row.
      | first :: second :: rest =>
        .divide (rest.length + 2) ::
          sectionLines fit next 1 (first :: second :: rest)

/-- The lines of sections from an index on. -/
def sectionLines (fit : Fit) (start : UInt32) (index : Nat) : List Shape → List Instruction
  | [] => []
  | shape :: shapes =>
    let stitches := shape.segment.lowerStitches fit
    -- A section is told from its header to its end before the next one starts.
    (if shape.segment.isKnitted fit then .startSection index stitches :: lines fit start shape
      else [.bindOffSection index stitches]) ++
      sectionLines fit start (index + 1) shapes

end

mutual

/-- The lines of a shape, unless a sum, a total or a row number leaves its word. -/
def lines? (fit : Fit) (start : UInt32) : Shape → Option (List Instruction)
  | node segment successors => do
    let plan ← segment.plan? fit start
    let own ← segment.ownLines? plan
    -- The next row number is taken even where nothing follows.
    let next ← plan.nextRow? start
    let later ← (match successors with
      | [] => (segment.finalStitches? fit plan).map fun stitches => [.bindOff stitches]
      | [only] =>
        if only.segment.isKnitted fit then lines? fit next only
        else some [.bindOff (only.segment.lowerStitches fit)]
      | first :: second :: rest =>
        (sectionLines? fit next 1 (first :: second :: rest)).map (.divide (rest.length + 2) :: ·))
    return own ++ later

/-- The lines of sections from an index on, unless a number of theirs leaves its word. -/
def sectionLines? (fit : Fit) (start : UInt32) (index : Nat) :
    List Shape → Option (List Instruction)
  | [] => some []
  | shape :: shapes => do
    let stitches := shape.segment.lowerStitches fit
    let here ← (if shape.segment.isKnitted fit then
        (lines? fit start shape).map (.startSection index stitches :: ·)
      else some [.bindOffSection index stitches])
    let later ← sectionLines? fit start (index + 1) shapes
    return here ++ later

end

/-- The cast-on of a shape, if its root has rows. -/
def castOn (fit : Fit) (start : UInt32) (shape : Shape) : List Instruction :=
  match (shape.segment.plan fit start).first? with
  | some row => [.castOn row.total]
  -- With no first row there is nothing to take a count of stitches from.
  | none => []

/-- The cast-on of a shape, unless the total of the first row leaves its word. -/
def castOn? (fit : Fit) (start : UInt32) (shape : Shape) : Option (List Instruction) := do
  let plan ← shape.segment.plan? fit start
  match plan.first? with
  | some row => do
    let stitches ← row.total?
    return [.castOn stitches]
  | none => return []

/-- The instructions of a shape; only one that starts a panel has a cast-on. -/
def instructions (fit : Fit) (start : UInt32) (isRoot : Bool) (shape : Shape) : List Instruction :=
  (if isRoot then shape.castOn fit start else []) ++ shape.lines fit start

/-- The instructions of a shape, unless a sum, a total or a row number leaves its word. -/
def instructions? (fit : Fit) (start : UInt32) (isRoot : Bool) (shape : Shape) :
    Option (List Instruction) := do
  let first ← (if isRoot then shape.castOn? fit start else some [])
  let lines ← shape.lines? fit start
  return first ++ lines

end Shape

end FlatKnit
