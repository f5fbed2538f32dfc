/-!
# Outcomes of steps

A step that may fail succeeds exactly if each of its parts does, and fails with the error of the
first part that does not. These laws take an outcome apart without unfolding what produced it.
-/

namespace NodeQuery

variable {Error Other Value Result : Type}

/-! ## Successes -/

/-- One step after another succeeds exactly if the first does and the second does on its
value. -/
theorem bind_eq_ok_iff {step : Except Error Value} {next : Value → Except Error Result}
    {result : Result} :
    (step >>= next) = .ok result ↔ ∃ value, step = .ok value ∧ next value = .ok result := by
  cases step with
  | error error =>
    constructor
    · intro failed
      cases failed
    · rintro ⟨value, failed, _⟩
      cases failed
  | ok value =>
    constructor
    · intro succeeded
      exact ⟨value, rfl, succeeded⟩
    · rintro ⟨_, same, succeeded⟩
      cases same
      exact succeeded

/-- A step whose value is changed succeeds exactly if the step does. -/
theorem map_eq_ok_iff {step : Except Error Value} {make : Value → Result} {result : Result} :
    step.map make = .ok result ↔ ∃ value, step = .ok value ∧ make value = result := by
  cases step with
  | error error =>
    constructor
    · intro failed
      cases failed
    · rintro ⟨value, failed, _⟩
      cases failed
  | ok value =>
    constructor
    · intro succeeded
      exact ⟨value, rfl, Except.ok.inj succeeded⟩
    · rintro ⟨_, same, rfl⟩
      cases same
      rfl

/-- A step whose error is changed succeeds exactly if the step does. -/
theorem mapError_eq_ok_iff {step : Except Error Value} {change : Error → Other} {value : Value} :
    step.mapError change = .ok value ↔ step = .ok value := by
  cases step with
  | error error =>
    constructor <;>
      · intro failed
        cases failed
  | ok value =>
    constructor <;>
      · intro succeeded
        cases succeeded
        rfl

/-! ## Failures -/

/-- One step after another fails if the first does, or if the second does on its value. -/
theorem bind_eq_error_iff {step : Except Error Value} {next : Value → Except Error Result}
    {error : Error} :
    (step >>= next) = .error error ↔
      step = .error error ∨ ∃ value, step = .ok value ∧ next value = .error error := by
  cases step with
  | error cause =>
    constructor
    · intro failed
      cases failed
      exact Or.inl rfl
    · rintro (same | ⟨value, succeeded, _⟩)
      · cases same
        rfl
      · cases succeeded
  | ok value =>
    constructor
    · intro failed
      exact Or.inr ⟨value, rfl, failed⟩
    · rintro (failed | ⟨_, same, failed⟩)
      · cases failed
      · cases same
        exact failed

/-- A step whose value is changed fails exactly if the step does. -/
theorem map_eq_error_iff {step : Except Error Value} {make : Value → Result} {error : Error} :
    step.map make = .error error ↔ step = .error error := by
  cases step with
  | error cause =>
    constructor <;>
      · intro failed
        cases failed
        rfl
  | ok value =>
    constructor <;>
      · intro failed
        cases failed

/-- A step whose error is changed fails exactly if the step does, with what its error is changed
to. -/
theorem mapError_eq_error_iff {step : Except Error Value} {change : Error → Other}
    {error : Other} :
    step.mapError change = .error error ↔ ∃ cause, step = .error cause ∧ change cause = error := by
  cases step with
  | error cause =>
    constructor
    · intro failed
      exact ⟨cause, rfl, Except.error.inj failed⟩
    · rintro ⟨_, same, rfl⟩
      cases same
      rfl
  | ok value =>
    constructor
    · intro failed
      cases failed
    · rintro ⟨_, failed, _⟩
      cases failed

end NodeQuery
