import FlatKnit.Panel

/-! Panel documents: what the loader takes from a document, and from a bare shape record. -/

namespace FlatKnit

namespace Panel

variable {entries : List (String × Json)}

/-- A record without shapes is a bare shape, and loads as a panel at the standard fit. -/
theorem ofJson_bare (bare : entries.lookup "shapes" = none) :
    ofJson (.object entries)
      = .ok (plain (Shape.ofJson? (.object entries)) Gauge.standard standardSize) := by
  simp [ofJson, bare]

/-- A record with shapes loads whenever its gauge does. -/
theorem ofJson_document {shapes : Json} (present : entries.lookup "shapes" = some shapes) :
    ofJson (.object entries) = (gaugeOf (entries.lookup "gauge")).map fun gauge =>
      { shape := Shape.ofJson? shapes
        fit := ⟨gauge, (Record.multiplier? entries "sizeModifier").getD standardSize⟩
        motif := (entries.lookup "visualMotif").bind motifOf } := by
  -- The gauge is the one part that can fail.
  simp only [ofJson, present]
  cases gaugeOf (entries.lookup "gauge") with
  | error fault => rfl
  | ok gauge => rfl

/-- A gauge that is not null is read as a record of a gauge. -/
theorem gaugeOf_some {record : Json} (notNull : record ≠ .null) :
    gaugeOf (some record) = Gauge.ofJson record := by
  cases record with
  | null => exact absurd rfl notNull
  | _ => rfl

/-- A motif is a value other than null. -/
theorem motifOf_eq_some_iff {value motif : Json} :
    motifOf value = some motif ↔ motif ≠ .null ∧ value = motif := by
  constructor
  · intro given
    -- Null is the only value that is no motif.
    cases value with
    | null => cases given
    | _ =>
      obtain rfl := Option.some.inj given
      simp
  · rintro ⟨notNull, rfl⟩
    cases value with
    | null => exact absurd rfl notNull
    | _ => rfl

/-- The motif of a panel that is loaded is an entry of its document, and not null. -/
theorem motif_of_ofJson {value motif : Json} {panel : Panel} (loaded : ofJson value = .ok panel)
    (given : panel.motif = some motif) : motif ≠ .null ∧ ∃ entries, value = .object entries ∧
      entries.lookup "visualMotif" = some motif := by
  cases value with
  | object entries =>
    cases present : entries.lookup "shapes" with
    | none =>
      -- A bare shape has no motif.
      rw [ofJson_bare present] at loaded
      obtain rfl := Except.ok.inj loaded
      cases given
    | some shapes =>
      rw [ofJson_document present] at loaded
      cases read : gaugeOf (entries.lookup "gauge") with
      | error fault =>
        rw [read] at loaded
        cases loaded
      | ok gauge =>
        rw [read] at loaded
        obtain rfl := Except.ok.inj loaded
        -- A motif that is null is left out, so that the one kept is the entry itself.
        obtain ⟨kept, found, same⟩ := Option.bind_eq_some_iff.mp given
        obtain ⟨notNull, rfl⟩ := motifOf_eq_some_iff.mp same
        exact ⟨notNull, entries, rfl, found⟩
  | _ =>
    obtain rfl := Except.ok.inj loaded
    cases given

end Panel

end FlatKnit
