import FlatKnit.Plan.Basic

/-! Row tables: every row of a list of plans in aligned columns. -/

namespace FlatKnit

/-- A text moved to the right end of a column; a wider text keeps all its characters. -/
def alignRight (width : Nat) (text : String) : String :=
  String.ofList (List.replicate (width - text.length) ' ') ++ text

/-- A whole number with its sign, zero with a plus. -/
def signedText (number : Int64) : String :=
  if number < 0 then toString number else "+" ++ toString number

/-- A line of the table: a row column and five count columns. -/
def tableLine (row left right total leftShaping rightShaping : String) : String :=
  alignRight 5 row ++ " " ++ alignRight 6 left ++ " " ++ alignRight 6 right ++ " " ++
    alignRight 6 total ++ " " ++ alignRight 6 leftShaping ++ " " ++
    alignRight 6 rightShaping ++ "\n"

namespace Row

/-- The line of a row. -/
def tableText (row : Row) : String :=
  tableLine (toString row.number) (toString row.left) (toString row.right) (toString row.total)
    (signedText row.leftShaping) (signedText row.rightShaping)

end Row

namespace StitchPlan

/-- The table of one plan at its position, or nothing for a plan without rows. -/
def tableText? (position : Nat) (plan : StitchPlan) : Option String :=
  match plan.first?, plan.last? with
  | some first, some last =>
    -- The heading tells the position of the plan and the rows that it covers.
    some ("Segment " ++ toString position ++ " (rows " ++ toString first.number ++ "-" ++
      toString last.number ++ ")\n" ++ tableLine "row" "left" "right" "total" "dl" "dr" ++
      String.join (plan.rows.map Row.tableText))
  | _, _ => none

end StitchPlan

/-- The tables of plans with blank lines between; plans without rows are counted but not shown. -/
def rowTable (plans : List StitchPlan) : String :=
  -- Positions are counted before plans without rows are left out.
  "\n".intercalate ((plans.zipIdx 1).filterMap fun (plan, position) => plan.tableText? position)

/-- The tables of plans, unless the total of a row leaves its word. -/
def rowTable? (plans : List StitchPlan) : Option String :=
  if plans.all fun plan => plan.rows.all fun row => row.total?.isSome then some (rowTable plans)
  else none

end FlatKnit
