import AmountProofs.Failure

/-!
Outcomes of computations that may fail.

A computation of several steps gives a result if each of its steps does, and it fails as the first
step that fails. The equivalences take an outcome apart in this way, so that later proofs need not look
into the computation.
-/

namespace AmountProofs.Outcome

variable {ε ε' α β : Type}

theorem bind_eq_ok_iff {x : Except ε α} {f : α → Except ε β} {b : β} :
    x >>= f = .ok b ↔ ∃ a, x = .ok a ∧ f a = .ok b := by
  cases x <;> simp [bind, Except.bind]

theorem bind_eq_error_iff {x : Except ε α} {f : α → Except ε β} {e : ε} :
    x >>= f = .error e ↔ x = .error e ∨ ∃ a, x = .ok a ∧ f a = .error e := by
  cases x <;> simp [bind, Except.bind]

theorem mapError_eq_ok_iff {x : Except ε α} {f : ε → ε'} {a : α} :
    x.mapError f = .ok a ↔ x = .ok a := by
  cases x with
  | ok b => constructor <;> rintro ⟨⟩ <;> rfl
  | error cause => exact iff_of_false nofun nofun

theorem mapError_eq_error_iff {x : Except ε α} {f : ε → ε'} {e : ε'} :
    x.mapError f = .error e ↔ ∃ cause, x = .error cause ∧ f cause = e := by
  cases x with
  | ok a =>
    refine iff_of_false nofun ?_
    rintro ⟨_, ⟨⟩, -⟩
  | error cause =>
    constructor
    · intro told
      exact ⟨cause, rfl, Except.error.inj told⟩
    · rintro ⟨_, ⟨⟩, rfl⟩
      rfl

/-- Behind a check, a computation gives its result if the condition that is checked for fails. -/
theorem guard_eq_ok_iff {c : Prop} [Decidable c] {e : ε} {rest : PUnit → Except ε α} {a : α} :
    (if c then throw e >>= rest else rest ⟨⟩) = .ok a ↔ ¬c ∧ rest ⟨⟩ = .ok a := by
  by_cases condition : c <;> simp [condition, bind, Except.bind]

end AmountProofs.Outcome
