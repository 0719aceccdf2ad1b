import FlatKnit.Garment
import FlatKnit.Proofs.Shape.Numbering

/-! Panels and patterns: what can be told of them when no number on the way leaves its word. -/

namespace FlatKnit

/-- Attempts on all values of a list succeed when each one does, with what would be made of them. -/
theorem mapM_eq_some_iff {α β : Type} {attempt : α → Option β} {make : α → β}
    (exact : ∀ value result, attempt value = some result → make value = result)
    {values : List α} {results : List β} :
    values.mapM attempt = some results ↔
      (∀ value ∈ values, (attempt value).isSome = true) ∧ values.map make = results := by
  -- The results stay free, since those of the tail are not yet known.
  induction values generalizing results with
  | nil => simp
  | cons value values ih =>
    simp only [List.mapM_cons, Option.bind_eq_bind, Option.bind_eq_some_iff, ih, Option.pure_def,
      Option.some.injEq, List.forall_mem_cons, List.map_cons]
    constructor
    · rintro ⟨result, there, _, ⟨others, rfl⟩, rfl⟩
      exact ⟨⟨by rw [there]; rfl, others⟩, by rw [exact value result there]⟩
    · rintro ⟨⟨first, others⟩, rfl⟩
      obtain ⟨result, there⟩ := Option.isSome_iff_exists.mp first
      exact ⟨result, there, _, ⟨others, rfl⟩, by rw [exact value result there]⟩

namespace Panel

variable {panel : Panel}

/-- Instructions of a panel that can be told are those of the panel. -/
theorem eq_of_instructions? {lines : List Instruction}
    (there : panel.instructions? = some lines) : panel.instructions = lines := by
  unfold instructions? at there
  unfold instructions
  split at there
  · exact (Shape.instructions?_eq_some_iff.mp there).2
  · exact Option.some.inj there

/-- Plans of a panel that can be told are those of the panel. -/
theorem eq_of_plans? {plans : List StitchPlan} (there : panel.plans? = some plans) :
    panel.plans = plans := by
  unfold plans? at there
  unfold Panel.plans
  split at there
  · exact (Shape.plans?_eq_some_iff.mp there).2
  · exact Option.some.inj there

end Panel

variable {listing : Listing} {text : String}

/-- Instructions have a text when each of them does. -/
theorem instructionsText?_eq_some_iff {lines : List Instruction} :
    instructionsText? listing lines = some text ↔
      (∀ line ∈ lines, line.text?.isSome = true) ∧ instructionsText listing lines = text := by
  simp [instructionsText?]

/-- A pattern has a text when every line of every panel does. -/
theorem Pattern.text?_eq_some_iff {pattern : Pattern} :
    pattern.text? listing = some text ↔
      (∀ panel ∈ pattern.panels, ∀ line ∈ panel.instructions, line.text?.isSome = true) ∧
        pattern.text listing = text := by
  simp [text?]

/-- The pattern of a garment can be told when the instructions of every panel can. -/
theorem Garment.pattern?_eq_some_iff {garment : Garment} {fit : Fit} {pattern : Pattern} :
    garment.pattern? fit = some pattern ↔
      (∀ panel ∈ garment.panels, (panel.2.instructions? fit 1 true).isSome = true) ∧
        garment.pattern fit = pattern := by
  -- What is told of a panel is its lines under its name.
  have exact (panel : String × Panel) (lines : PanelLines)
      (there : (panel.2.instructions?.bind fun told => some (⟨panel.1, told⟩ : PanelLines))
        = some lines) : (⟨panel.1, panel.2.instructions⟩ : PanelLines) = lines := by
    obtain ⟨told, there, rest⟩ := Option.bind_eq_some_iff.mp there
    rw [Panel.eq_of_instructions? there]
    exact Option.some.inj rest
  have panels : (∀ panel ∈ garment.panelsAt fit,
      (panel.2.instructions?.bind fun told => some (⟨panel.1, told⟩ : PanelLines)).isSome = true) ↔
        ∀ panel ∈ garment.panels, (panel.2.instructions? fit 1 true).isSome = true := by
    rw [panelsAt, List.forall_mem_map]
    refine forall₂_congr fun panel _ => ?_
    rw [Option.isSome_bind]
    simp [Panel.plain, Panel.instructions?]
  rw [pattern?, Garment.pattern, ← panels]
  simp only [Option.bind_eq_bind, Option.bind_eq_some_iff, Option.pure_def, mapM_eq_some_iff exact,
    Option.some.injEq]
  constructor
  · rintro ⟨_, ⟨told, rfl⟩, rfl⟩
    exact ⟨told, rfl⟩
  · rintro ⟨told, rfl⟩
    exact ⟨_, ⟨told, rfl⟩, rfl⟩

end FlatKnit
