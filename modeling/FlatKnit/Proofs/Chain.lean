/-! Chains of steps that can fail: what each step has given when the whole chain ends one way. -/

namespace FlatKnit

variable {ε ε' α β : Type}

/-- A chain goes on from the result of its first step. -/
@[simp] theorem ok_bind (value : α) (next : α → Except ε β) :
    Except.ok value >>= next = next value :=
  rfl

/-- A chain ends where its first step fails. -/
@[simp] theorem error_bind (error : ε) (next : α → Except ε β) :
    (Except.error error >>= next) = .error error :=
  rfl

/-- A result has no error to put into other words. -/
@[simp] theorem mapError_ok (rename : ε → ε') (value : α) :
    (Except.ok value).mapError rename = .ok value :=
  rfl

/-- An error is put into other words. -/
@[simp] theorem mapError_error (rename : ε → ε') (error : ε) :
    (Except.error error : Except ε α).mapError rename = .error (rename error) :=
  rfl

/-- A chain gives a result when its first step does, and what follows goes on from there. -/
theorem bind_eq_ok_iff {first : Except ε α} {next : α → Except ε β} {result : β} :
    first >>= next = .ok result ↔ ∃ value, first = .ok value ∧ next value = .ok result := by
  -- A chain only goes on from a result, so the first step decides what is left to show.
  cases first with
  | error error =>
    constructor
    · intro ran
      cases ran
    · rintro ⟨_, given, _⟩
      cases given
  | ok value =>
    constructor
    · exact fun ran => ⟨value, rfl, ran⟩
    · rintro ⟨_, given, ran⟩
      cases given
      exact ran

/-- A chain fails at its first step, or later on. -/
theorem bind_eq_error_iff {first : Except ε α} {next : α → Except ε β} {error : ε} :
    first >>= next = .error error ↔
      first = .error error ∨ ∃ value, first = .ok value ∧ next value = .error error := by
  cases first with
  | error fault =>
    constructor
    · exact fun ran => .inl (congrArg Except.error (Except.error.inj ran))
    · rintro (given | ⟨_, given, _⟩)
      · cases given
        rfl
      · cases given
  | ok value =>
    constructor
    · exact fun ran => .inr ⟨value, rfl, ran⟩
    · rintro (given | ⟨_, given, ran⟩)
      · cases given
      · cases given
        exact ran

/-- What is made of a result comes from a result. -/
theorem map_eq_ok_iff {make : α → β} {outcome : Except ε α} {result : β} :
    outcome.map make = .ok result ↔ ∃ value, outcome = .ok value ∧ make value = result := by
  cases outcome <;> simp [Except.map]

/-- What is left without the error is a result. -/
theorem toOption_eq_some_iff {outcome : Except ε α} {result : α} :
    outcome.toOption = some result ↔ outcome = .ok result := by
  cases outcome <;> simp [Except.toOption]

/-- A check has passed when there is no error. -/
theorem isOk_iff {outcome : Except ε Unit} : outcome.isOk = true ↔ outcome = .ok () := by
  cases outcome <;> simp [Except.isOk, Except.toBool]

/-- Other words for an error do not change a result. -/
theorem mapError_eq_ok_iff {rename : ε → ε'} {outcome : Except ε α} {result : α} :
    outcome.mapError rename = .ok result ↔ outcome = .ok result := by
  cases outcome <;> simp

/-- An error in other words comes from an error. -/
theorem mapError_eq_error_iff {rename : ε → ε'} {outcome : Except ε α} {error : ε'} :
    outcome.mapError rename = .error error ↔
      ∃ cause, outcome = .error cause ∧ rename cause = error := by
  cases outcome <;> simp

/-- A guard gives its value when it lets it pass. -/
theorem guard_eq_ok_iff {holds : Prop} [Decidable holds] {value result : α} {error : ε} :
    (if holds then Except.ok value else Except.error error) = .ok result ↔
      holds ∧ value = result := by
  by_cases passed : holds <;> simp [passed]

/-- A guard gives its error when it does not let the value pass. -/
theorem guard_eq_error_iff {holds : Prop} [Decidable holds] {value : α} {error fault : ε} :
    (if holds then Except.ok value else Except.error error) = .error fault ↔
      ¬ holds ∧ error = fault := by
  by_cases passed : holds <;> simp [passed]

end FlatKnit
