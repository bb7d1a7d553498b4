/-
BreakCheck/Proofs/Attempt.lean

What comes out of a step, put together from its parts.

A step that may fail is a pair of a result and of notices.  One behind another adds
its notices to those before it; after a failure nothing is added.
-/
import BreakCheck.Log

namespace BreakCheck.Attempt

variable {ε ε' α β : Type}

/-- A step is nothing more than its outcome. -/
theorem eq_of_outcome_eq {step : Attempt ε α} {outcome : Logged (Except ε α)}
    (same : step.outcome = outcome) : step = ExceptT.mk outcome := same

@[simp] theorem outcome_pure (a : α) : outcome (pure a : Attempt ε α) = ⟨.ok a, []⟩ := rfl

@[simp] theorem outcome_throw (error : ε) :
    outcome (throw error : Attempt ε α) = ⟨.error error, []⟩ := rfl

/-- A value with notices is an attempt that cannot fail. -/
@[simp] theorem outcome_lift (x : Logged α) :
    outcome (monadLift x : Attempt ε α) = ⟨.ok x.value, x.notices⟩ :=
  congrArg (Logged.mk _) (List.append_nil x.notices)

/-- After a success the next step adds its notices. -/
theorem outcome_bind_ok {step : Attempt ε α} {a : α} {notices : List Notice}
    (first : step.outcome = ⟨.ok a, notices⟩) (next : α → Attempt ε β) :
    outcome (step >>= next)
      = ⟨(next a).outcome.value, notices ++ (next a).outcome.notices⟩ := by
  rw [eq_of_outcome_eq first]
  rfl

/-- After a failure nothing more happens, and the notices so far remain. -/
theorem outcome_bind_error {step : Attempt ε α} {error : ε} {notices : List Notice}
    (first : step.outcome = ⟨.error error, notices⟩) (next : α → Attempt ε β) :
    outcome (step >>= next) = ⟨.error error, notices⟩ := by
  rw [eq_of_outcome_eq first]
  exact congrArg (Logged.mk _) (List.append_nil notices)

/-- The value behind two steps depends on their values only. -/
theorem value_bind (step : Attempt ε α) (next : α → Attempt ε β) :
    (outcome (step >>= next)).value = step.outcome.value >>= fun a => (next a).outcome.value := by
  cases same : step.outcome with
  | mk value notices =>
    cases value with
    | ok a => rw [outcome_bind_ok same]; rfl
    | error error => rw [outcome_bind_error same]; rfl

/-- Behind a step that cannot fail only its value matters. -/
theorem lift_bind_congr {x : Logged α} {next next' : α → Attempt ε β}
    (same : next x.value = next' x.value) :
    (monadLift x >>= next : Attempt ε β) = monadLift x >>= next' := by
  apply eq_of_outcome_eq
  rw [outcome_bind_ok (outcome_lift x), same]
  exact (outcome_bind_ok (outcome_lift x) next').symm

/-- Whatever comes out of two steps comes out of the second one, after the first. -/
theorem exists_of_bind_ok {step : Attempt ε α} {next : α → Attempt ε β} {b : β}
    (done : (outcome (step >>= next)).value = .ok b) :
    ∃ a, step.outcome.value = .ok a ∧ (next a).outcome.value = .ok b := by
  cases first : step.outcome with
  | mk value notices =>
    cases value with
    | ok a =>
      rw [outcome_bind_ok first] at done
      exact ⟨a, rfl, done⟩
    | error error =>
      rw [outcome_bind_error first] at done
      cases done

@[simp] theorem outcome_mapError (f : ε → ε') (step : Attempt ε α) :
    outcome (step.mapError f) = ⟨step.outcome.value.mapError f, step.outcome.notices⟩ :=
  congrArg (Logged.mk _) (List.append_nil _)

end BreakCheck.Attempt
