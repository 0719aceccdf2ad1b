import FlatKnit.CommandLine.Run
import FlatKnit.Proofs.Garment.Overflow
import FlatKnit.Proofs.Settings.Valid
import FlatKnit.Proofs.Shape.Dimensions
import FlatKnit.Proofs.Shape.StitchCheck

/-! The row command: every row that it prints has passed the stitch check. -/

namespace FlatKnit

/-- A run goes on with what was computed, and with nothing else. -/
theorem RunError.computed_eq_ok_iff {α : Type} {attempt : Option α} {value : α} :
    computed attempt = .ok value ↔ attempt = some value := by
  cases attempt <;> simp [computed]

namespace Shape

variable {fit : Fit} {shape : Shape}

/-- A shape passes when its dimensions and its stitches do. -/
theorem check_eq_ok_iff :
    shape.check fit = .ok () ↔
      shape.checkDimensions = .ok () ∧ shape.checkStitches fit = .ok () := by
  -- The first check has nothing to hand on, so only its passing matters to the second.
  rw [check, bind_eq_ok_iff]
  constructor
  · rintro ⟨⟨⟩, dimensions, stitches⟩
    exact ⟨mapError_eq_ok_iff.mp dimensions, stitches⟩
  · rintro ⟨dimensions, stitches⟩
    exact ⟨(), mapError_eq_ok_iff.mpr dimensions, stitches⟩

/-- Where the row numbers can last, the check speaks for every plan that can be made. -/
theorem checkStitches_eq_ok_iff_planned (checkable : shape.Checkable fit)
    (countable : ∀ segment ∈ shape.segments, segment.knittedRows fit < 2 ^ 32) :
    shape.checkStitches fit = .ok () ↔
      ∀ segment ∈ shape.segments, ∀ start plan, segment.plan? fit start = some plan →
        ∀ row ∈ plan.rows, row.Nonnegative := by
  constructor
  · intro passed segment member start plan there
    obtain ⟨_, rfl⟩ := Segment.plan?_eq_some_iff.mp there
    exact (checkStitches_eq_ok_iff checkable).mp passed segment member start
  · -- At row zero there is a plan of every segment.
    intro holds
    rw [checkStitches, passes_eq_ok_iff]
    intro segment member
    have inside : (0 : UInt32).toNat + segment.knittedRows fit < 2 ^ 32 := by
      have room := countable segment member
      rw [UInt32.toNat_zero]
      omega
    have there := Segment.plan?_eq_some_iff.mpr ⟨⟨(checkable segment member).toSumsHeld, inside⟩, rfl⟩
    exact ((checkable segment member).stitchStop?_eq_none_iff 0).mpr
      (holds segment member 0 _ there)

/-- No plan of a shape that passes its check at a usable fit has a row below zero. -/
theorem plans?_nonnegative {start : UInt32} {plans : List StitchPlan}
    (passed : shape.check fit = .ok ()) (gauge : fit.gauge.usable = true)
    (size : isUsable fit.size = true) (there : shape.plans? fit start = some plans) :
    ∀ plan ∈ plans, ∀ row ∈ plan.rows, row.Nonnegative := by
  obtain ⟨held, rfl⟩ := plans?_eq_some_iff.mp there
  obtain ⟨valid, stitches⟩ := check_eq_ok_iff.mp passed
  rw [checkDimensions, passes_eq_ok_iff] at valid
  rw [checkStitches, passes_eq_ok_iff] at stitches
  rw [plans_eq_map]
  -- A plan on the timeline is that of a segment whose sums are held, for which the check is exact.
  intro plan listed
  obtain ⟨way, visited, rfl⟩ := List.mem_map.mp listed
  obtain ⟨found, reached⟩ := (mem_visitedWays.mp visited).nodeAt?_eq_some
  have member : found.segment ∈ shape.segments := (mem_segments shape).mpr ⟨way, found, reached, rfl⟩
  have checkable : found.segment.Checkable fit :=
    ⟨held.sums way found (mem_visitedWays.mp visited) reached,
      fun _ => Segment.lowerStitches_nonneg (valid _ member) gauge size⟩
  rw [planAt, reached]
  exact checkable.staysNonnegative (stitches _ member) _

end Shape

namespace Panel

/-- No row of a panel that passes its check at a usable fit has a side below zero. -/
theorem plans?_nonnegative {panel : Panel} {plans : List StitchPlan}
    (passed : panel.check = .ok ()) (gauge : panel.fit.gauge.usable = true)
    (size : isUsable panel.fit.size = true) (there : panel.plans? = some plans) :
    ∀ plan ∈ plans, ∀ row ∈ plan.rows, row.Nonnegative := by
  unfold plans? at there
  split at there
  case h_1 shape given =>
    rw [check, given] at passed
    exact Shape.plans?_nonnegative passed gauge size there
  case h_2 =>
    -- Without a shape there are no plans.
    obtain rfl := Option.some.inj there
    exact List.forall_mem_nil _

end Panel

namespace Invocation

variable {tree : FileTree} {folder : Option String} {settings : Settings} {invocation : Invocation}

/-- The gauge of a run can be used. -/
theorem usable_gauge {options : Options} {document : Option Gauge} {chosen : Gauge}
    (given : gauge options document settings = .ok chosen) : chosen.usable = true := by
  -- The check is the last step for the gauge, and changes nothing.
  obtain ⟨usable, rfl⟩ := guard_eq_ok_iff.mp (mapError_eq_ok_iff.mp given)
  exact usable

/-- The size of a run on a panel can be used. -/
theorem usable_panelSize {options : Options} {document : Option Float} {chosen : Float}
    (given : panelSize options document settings = .ok chosen) : isUsable chosen = true := by
  -- The check is the last step for the size, and changes nothing.
  obtain ⟨usable, rfl⟩ := guard_eq_ok_iff.mp (mapError_eq_ok_iff.mp given)
  exact usable

/-- A panel that is loaded has a usable fit and has passed its check. -/
theorem loadPanel_checked {panel : Panel}
    (loaded : invocation.loadPanel tree settings = .ok panel) :
    panel.fit.gauge.usable = true ∧ isUsable panel.fit.size = true ∧ panel.check = .ok () := by
  obtain ⟨text, _, loaded⟩ := bind_eq_ok_iff.mp loaded
  dsimp only at loaded
  -- A text that is no document ends the run.
  split at loaded
  case h_2 => cases loaded
  obtain ⟨document, _, loaded⟩ := bind_eq_ok_iff.mp loaded
  obtain ⟨written, _, loaded⟩ := bind_eq_ok_iff.mp loaded
  obtain ⟨gauge, chosenGauge, loaded⟩ := bind_eq_ok_iff.mp loaded
  obtain ⟨size, chosenSize, loaded⟩ := bind_eq_ok_iff.mp loaded
  obtain ⟨⟨⟩, checked, loaded⟩ := bind_eq_ok_iff.mp loaded
  obtain rfl := Except.ok.inj loaded
  exact ⟨usable_gauge chosenGauge, usable_panelSize chosenSize, mapError_eq_ok_iff.mp checked⟩

/-- What the row command prints of plans, before its last line break. -/
def rowsText (format : OutputFormat) (plans : List StitchPlan) : String :=
  match format with
  | .text => rowTable plans
  | .json => (Json.list (plans.map StitchPlan.toJson)).pretty

/-- What the row command prints of plans, unless the stitches of a row leave their word. -/
def rowsText? (format : OutputFormat) (plans : List StitchPlan) : Option String :=
  match format with
  | .text => rowTable? plans
  | .json => some (Json.list (plans.map StitchPlan.toJson)).pretty

/-- A text of plans that can be told is that of the plans. -/
theorem eq_of_rowsText? {format : OutputFormat} {plans : List StitchPlan} {printed : String}
    (told : rowsText? format plans = some printed) : rowsText format plans = printed := by
  cases format with
  | text => exact (rowTable?_eq_some_iff.mp told).2
  | json => exact Option.some.inj told

/-- The row command prints the plans of the panel that it loads, and nothing else. -/
theorem run_rows_iff {text : String} (asked : invocation.subcommand = .rows) :
    invocation.run tree folder = .ok text ↔
      ∃ settings panel plans printed,
        Settings.loadOrStandard tree folder invocation.config = .ok settings ∧
        invocation.loadPanel tree settings = .ok panel ∧ panel.plans? = some plans ∧
        rowsText? (invocation.options.format.getD settings.format) plans = some printed ∧
        text = endLine printed := by
  -- The listing is all that the output makes of a panel that loads.
  have told (settings : Settings) (printed : String) :
      invocation.output tree settings = .ok printed ↔
        ∃ panel plans, invocation.loadPanel tree settings = .ok panel ∧
          panel.plans? = some plans ∧
          rowsText? (invocation.options.format.getD settings.format) plans = some printed := by
    rw [output, asked]
    simp only [bind_eq_ok_iff, RunError.computed_eq_ok_iff]
    refine exists_congr fun panel => ?_
    rw [← exists_and_left]
    refine exists_congr fun plans => and_congr_right fun _ => and_congr_right fun _ => ?_
    cases invocation.options.format.getD settings.format with
    | text => exact RunError.computed_eq_ok_iff
    | json => exact ⟨fun same => congrArg some (Except.ok.inj same),
        fun same => congrArg Except.ok (Option.some.inj same)⟩
  rw [run]
  simp only [bind_eq_ok_iff, mapError_eq_ok_iff, told]
  constructor
  · rintro ⟨settings, read, printed, ⟨panel, plans, loaded, there, shown⟩, ended⟩
    exact ⟨settings, panel, plans, printed, read, loaded, there, shown,
      (Except.ok.inj ended).symm⟩
  · rintro ⟨settings, panel, plans, printed, read, loaded, there, shown, rfl⟩
    exact ⟨settings, read, printed, ⟨panel, plans, loaded, there, shown⟩, rfl⟩

/-- A run of the row command loads a panel without a row below zero, and prints its rows. -/
theorem rows_nonnegative {text : String} (asked : invocation.subcommand = .rows)
    (ran : invocation.run tree folder = .ok text) :
    ∃ settings panel, Settings.loadOrStandard tree folder invocation.config = .ok settings ∧
      invocation.loadPanel tree settings = .ok panel ∧
      text = endLine
        (rowsText (invocation.options.format.getD settings.format) panel.plans) ∧
      panel.check = .ok () ∧ ∀ plan ∈ panel.plans, ∀ row ∈ plan.rows, row.Nonnegative := by
  -- What is printed has passed its checks when it was loaded, and these look at every plan.
  obtain ⟨settings, panel, plans, printed, read, loaded, there, told, rfl⟩ :=
    (run_rows_iff asked).mp ran
  obtain ⟨gauge, size, passed⟩ := loadPanel_checked loaded
  obtain rfl := Panel.eq_of_plans? there
  exact ⟨settings, panel, read, loaded, congrArg endLine (eq_of_rowsText? told).symm, passed,
    Panel.plans?_nonnegative passed gauge size there⟩

end Invocation

namespace Shape

/--
The stitch check passes exactly the shapes that have no row below zero, wherever their rows start.

When it fails, the error tells the last row of the first segment that falls below zero. When it
passes, no row of the timeline is below zero, and neither is any that the row command prints.
-/
theorem checkStitches_exact :
    (∀ (fit : Fit) (shape : Shape), shape.Checkable fit →
      (shape.checkStitches fit = .ok () ↔
        ∀ segment ∈ shape.segments, segment.StaysNonnegative fit) ∧
      ((∀ segment ∈ shape.segments, segment.knittedRows fit ≤ 2 ^ 32) →
        (shape.checkStitches fit = .ok () ↔
          ∀ segment ∈ shape.segments, ∀ start : UInt32,
            start.toNat + segment.knittedRows fit ≤ 2 ^ 32 →
              ∀ row ∈ (segment.plan fit start).rows, row.Nonnegative)) ∧
      ((∀ segment ∈ shape.segments, segment.knittedRows fit < 2 ^ 32) →
        (shape.checkStitches fit = .ok () ↔
          ∀ segment ∈ shape.segments, ∀ start plan, segment.plan? fit start = some plan →
            ∀ row ∈ plan.rows, row.Nonnegative)) ∧
      (∀ stop, shape.checkStitches fit = .error stop →
        ∃ fault, stop = .fault fault ∧ shape.FirstBelowZero fit fault) ∧
      (shape.checkStitches fit = .ok () → ∀ start,
        ∀ plan ∈ shape.plans fit start, ∀ row ∈ plan.rows, row.Nonnegative)) ∧
    (∀ (fit : Fit) (shape : Shape), shape.checkDimensions = .ok () →
      fit.gauge.usable = true → isUsable fit.size = true →
      (∀ segment ∈ shape.segments, segment.SumsHeld fit) → shape.Checkable fit) ∧
    (∀ (tree : FileTree) (folder : Option String) (invocation : Invocation) (text : String),
      invocation.subcommand = .rows → invocation.run tree folder = .ok text →
      ∃ settings panel, Settings.loadOrStandard tree folder invocation.config = .ok settings ∧
        invocation.loadPanel tree settings = .ok panel ∧
        text = Invocation.endLine (Invocation.rowsText
          (invocation.options.format.getD settings.format) panel.plans) ∧
        panel.check = .ok () ∧ ∀ plan ∈ panel.plans, ∀ row ∈ plan.rows, row.Nonnegative) := by
  -- The check is exact for shapes that can be checked, and valid ones can be, as long as their sums
  -- are held.
  refine ⟨?_, ?_, ?_⟩
  · intro fit shape checkable
    exact ⟨checkStitches_eq_ok_iff checkable, checkStitches_eq_ok_iff_numbered checkable,
      checkStitches_eq_ok_iff_planned checkable, fun _ => firstBelowZero checkable,
      plans_nonnegative checkable⟩
  · intro fit shape valid gauge size held
    exact checkable_of_valid valid gauge size held
  · intro tree folder invocation text asked ran
    exact Invocation.rows_nonnegative asked ran

/-- The leaning segment, and one after it whose left edge rounds to a stitch too few. -/
def overhanging : Shape :=
  .node Segment.leaning [.node { Segment.plain 1.0 3.0 7.0 with shift := 3.5 } []]

/-- The left and the right edge of every segment. -/
def edges (fit : Fit) (shape : Shape) : List (Edge × Edge) :=
  shape.segments.map fun segment => (segment.leftEdge fit, segment.rightEdge fit)

/-- Edges that hold their sums are those of segments that do. -/
theorem sumsHeld_of_edges {fit : Fit} {shape : Shape}
    (exact : ∀ pair ∈ shape.edges fit, pair.1.Exact ∧ pair.2.Exact) :
    ∀ segment ∈ shape.segments, segment.SumsHeld fit := by
  intro segment member
  obtain ⟨left, right⟩ := exact _ (List.mem_map_of_mem member)
  exact ⟨left, right⟩

/-- The edges of the overhanging shape. -/
theorem overhanging_edges : overhanging.edges Segment.leaningFit
    = [(⟨12, -8, 7⟩, ⟨13, 18, 7⟩), (⟨7, -8, 7⟩, ⟨8, 28, 7⟩)] := by
  decide +kernel

/-- All edges of the overhanging shape hold their sums. -/
theorem overhanging_exact :
    ∀ pair ∈ overhanging.edges Segment.leaningFit, pair.1.Exact ∧ pair.2.Exact := by
  rw [overhanging_edges]
  intro pair member
  -- Ends far inside a word leave room for every sum on the way to them.
  simp only [List.mem_cons, List.not_mem_nil, or_false] at member
  rcases member with rfl | rfl
  · exact ⟨(Edge.bounded_of_end (by decide) (by decide)).exact,
      (Edge.bounded_of_end (by decide) (by decide)).exact⟩
  · exact ⟨(Edge.bounded_of_end (by decide) (by decide)).exact,
      (Edge.bounded_of_end (by decide) (by decide)).exact⟩

/-- A file with the leaning segment alone. -/
def leaningTree : FileTree where
  files := [(["leaning.json"],
    "\x7b\"height\": 1, \"baseA\": 5, \"baseB\": 7, \"baseBHorizontalOffset\": 2.5\x7d")]
  folders := []

/-- The row command on that file, at seven rows and five stitches to the inch. -/
def leaningRun : Invocation :=
  ⟨.rows, "leaning.json", none, ⟨some 20.0, some 28.0, some 1.0, none, false, none⟩⟩

/-- There is no settings file for the run to read. -/
theorem leaningRun_settings :
    Settings.loadOrStandard leaningTree (some "") leaningRun.config = .ok Settings.standard :=
  -- The only file in the tree is the panel.
  Settings.loadOrStandard_of_lost rfl

/-- The run loads the leaning segment, and the table of its rows can be told. -/
theorem leaningRun_told :
    ((leaningRun.loadPanel leaningTree Settings.standard).toOption.bind fun panel =>
      panel.plans?.bind (Invocation.rowsText? .text)).isSome = true := by
  rw [Invocation.loadPanel, FileTree.read, FileTree.resolve_eq_walk _ (by decide)]
  decide +kernel

/-- The check fails the overhanging shape at its second segment, and passes what the run loads. -/
theorem overhanging_firstBelowZero :
    overhanging.checkDimensions = .ok () ∧ overhanging.Checkable Segment.leaningFit ∧
      (∃ fault, overhanging.checkStitches Segment.leaningFit = .error (.fault fault) ∧
        overhanging.FirstBelowZero Segment.leaningFit fault) ∧
      ∃ text panel, leaningRun.run leaningTree (some "") = .ok text ∧
        leaningRun.loadPanel leaningTree Settings.standard = .ok panel ∧
        ∀ plan ∈ panel.plans, ∀ row ∈ plan.rows, row.Nonnegative := by
  have decides := checkStitches_exact
  -- The dimensions pass and the sums hold, so that the check of the stitches decides.
  have valid : overhanging.checkDimensions = .ok () := by
    rw [checkDimensions, passes_eq_ok_iff]
    decide +kernel
  have checkable := decides.2.1 Segment.leaningFit overhanging valid (by decide +kernel)
    (by decide +kernel) (sumsHeld_of_edges overhanging_exact)
  refine ⟨valid, checkable, ?_, ?_⟩
  · -- The stitches do not pass, and the fault says where they first fall below zero.
    cases checked : overhanging.checkStitches Segment.leaningFit with
    | ok passed =>
      rw [checkStitches, passes_eq_ok_iff] at checked
      exact absurd checked (by decide +kernel)
    | error stop =>
      obtain ⟨fault, rfl, first⟩ :=
        (decides.1 Segment.leaningFit overhanging checkable).2.2.2.1 stop checked
      exact ⟨fault, rfl, first⟩
  · -- The run prints what can be told, and so no row that is below zero.
    obtain ⟨printed, told⟩ := Option.isSome_iff_exists.mp leaningRun_told
    obtain ⟨panel, loads, told⟩ := Option.bind_eq_some_iff.mp told
    obtain ⟨plans, there, told⟩ := Option.bind_eq_some_iff.mp told
    have loaded := toOption_eq_some_iff.mp loads
    have ran := (Invocation.run_rows_iff rfl).mpr
      ⟨_, panel, plans, printed, leaningRun_settings, loaded, there, told, rfl⟩
    obtain ⟨settings, found, read, reloaded, _, _, holds⟩ :=
      decides.2.2 leaningTree (some "") leaningRun _ rfl ran
    -- The run has one settings value and one panel.
    obtain rfl := Except.ok.inj (leaningRun_settings.symm.trans read)
    obtain rfl := Except.ok.inj (loaded.symm.trans reloaded)
    exact ⟨_, panel, ran, loaded, holds⟩

end Shape

end FlatKnit
