import AmountProofs.Failure
import AmountProofs.Indexed

/-!
How computations on a state run.

Each way to build an `Attempt` has one equation that says what its run gives; runs of longer
computations are composed of them step by step, and nothing else looks into the monad. A family of
computations that is run in order fails exactly if one of its members does.
-/

namespace AmountProofs

namespace Attempt

variable {σ τ α β : Type}

@[simp] theorem on_pure (a : α) (s : σ) : (pure a : Attempt σ α).on s = (.ok a, s) := rfl

@[simp] theorem on_throw (e : Failure) (s : σ) :
    (throw e : Attempt σ α).on s = (.error e, s) := rfl

@[simp] theorem on_get (s : σ) : (get : Attempt σ σ).on s = (.ok s, s) := rfl

@[simp] theorem on_set (s t : σ) : (set t : Attempt σ Unit).on s = (.ok (), t) := rfl

@[simp] theorem on_modify (f : σ → σ) (s : σ) :
    (modify f : Attempt σ Unit).on s = (.ok (), f s) := rfl

@[simp] theorem on_ofExcept (x : Except Failure α) (s : σ) :
    (ofExcept x : Attempt σ α).on s = (x, s) := by
  cases x <;> rfl

@[simp] theorem on_zoom (get : σ → τ) (set : τ → σ → σ) (x : Attempt τ α) (s : σ) :
    (zoom get set x).on s = ((x.on (get s)).1, set (x.on (get s)).2 s) := rfl

/-- After a result, the rest runs on the state that was left. -/
theorem on_bind_of_ok {x : Attempt σ α} {s t : σ} {a : α} (run : x.on s = (.ok a, t))
    (f : α → Attempt σ β) : (x >>= f).on s = (f a).on t := by
  change (x >>= f) s = f a t
  change x s = (.ok a, t) at run
  simp only [bind, ExceptT.bind, ExceptT.mk, StateT.bind, run, ExceptT.bindCont]

/-- After a failure, nothing else runs. -/
theorem on_bind_of_error {x : Attempt σ α} {s t : σ} {e : Failure} (run : x.on s = (.error e, t))
    (f : α → Attempt σ β) : (x >>= f).on s = (.error e, t) := by
  change (x >>= f) s = (.error e, t)
  change x s = (.error e, t) at run
  simp only [bind, ExceptT.bind, ExceptT.mk, StateT.bind, run, ExceptT.bindCont]
  rfl

end Attempt

/-! ## Families of computations -/

namespace Indexed

variable {σ α : Type}

@[simp] theorem cons_eta {n : Nat} (a : Fin (n + 1) → α) : cons (a 0) (fun i => a i.succ) = a := by
  funext i
  cases i using Fin.cases <;> rfl

/-- If each member gives its result and takes its step, whatever the state, so does the family. -/
theorem on_traverse {n : Nat} {f : Fin n → Attempt σ α} {a : Fin n → α} {step : Fin n → σ → σ}
    (runs : ∀ i s, (f i).on s = (.ok (a i), step i s)) (s : σ) :
    (traverse f).on s = (.ok a, (List.finRange n).foldl (fun s i => step i s) s) := by
  induction n generalizing s with
  | zero =>
    have none : a = fun i => i.elim0 := funext fun i => i.elim0
    rw [none]
    rfl
  | succ n ih =>
    rw [traverse, Attempt.on_bind_of_ok (runs 0 s),
      Attempt.on_bind_of_ok (ih (fun i s => runs i.succ s) (step 0 s)), Attempt.on_pure, cons_eta,
      List.finRange_succ, List.foldl_cons, List.foldl_map]

/-- The same for computations without results. -/
theorem on_each {n : Nat} {f : Fin n → Attempt σ Unit} {step : Fin n → σ → σ}
    (runs : ∀ i s, (f i).on s = (.ok (), step i s)) (s : σ) :
    (each f).on s = (.ok (), (List.finRange n).foldl (fun s i => step i s) s) := by
  induction n generalizing s with
  | zero => rfl
  | succ n ih =>
    rw [each, Attempt.on_bind_of_ok (runs 0 s), ih (fun i s => runs i.succ s) (step 0 s),
      List.finRange_succ, List.foldl_cons, List.foldl_map]

/-- If each member has a result, so does a family without a state. -/
theorem traverse_eq_ok {n : Nat} {f : Fin n → Except Failure α} {a : Fin n → α}
    (results : ∀ i, f i = .ok (a i)) : traverse f = .ok a := by
  induction n with
  | zero =>
    have none : a = fun i => i.elim0 := funext fun i => i.elim0
    rw [none]
    rfl
  | succ n ih =>
    rw [traverse, results 0, ih fun i => results i.succ]
    exact congrArg Except.ok (cons_eta a)

/-- A family of results has the results of its members. -/
theorem eq_ok_of_traverse_eq_ok {n : Nat} {f : Fin n → Except Failure α} {a : Fin n → α}
    (run : traverse f = .ok a) (i : Fin n) : f i = .ok (a i) := by
  induction n with
  | zero => exact i.elim0
  | succ n ih =>
    rcases first : f 0 with e | head
    · rw [traverse, first] at run
      cases run
    · rcases later : (traverse fun i => f i.succ) with e | tail
      · rw [traverse, first, later] at run
        cases run
      · rw [traverse, first, later] at run
        cases run
        cases i using Fin.cases with
        | zero => exact first
        | succ i => exact ih later i

/-- A family of results without a state is the same with one. -/
theorem traverse_ofExcept {n : Nat} (f : Fin n → Except Failure α) :
    (traverse fun i => (Attempt.ofExcept (f i) : Attempt σ α)) = Attempt.ofExcept (traverse f) := by
  induction n with
  | zero => rfl
  | succ n ih =>
    rw [traverse, traverse, ih]
    cases f 0 with
    | error e => rfl
    | ok a => cases traverse (fun i => f i.succ) <;> rfl

/-- What holds of all results of the members holds of the results of the family. -/
theorem forall_of_on_traverse {n : Nat} {f : Fin n → Attempt σ α} {P : α → Prop}
    (results : ∀ i s a t, (f i).on s = (.ok a, t) → P a) {a : Fin n → α} {s t : σ}
    (run : (traverse f).on s = (.ok a, t)) (i : Fin n) : P (a i) := by
  induction n generalizing s with
  | zero => exact i.elim0
  | succ n ih =>
    rw [traverse] at run
    rcases first : (f 0).on s with ⟨e | head, u⟩
    · rw [Attempt.on_bind_of_error first] at run
      cases run
    · rw [Attempt.on_bind_of_ok first] at run
      rcases later : (traverse fun i => f i.succ).on u with ⟨e | tail, v⟩
      · rw [Attempt.on_bind_of_error later] at run
        cases run
      · rw [Attempt.on_bind_of_ok later] at run
        cases run
        cases i using Fin.cases with
        | zero => exact results 0 s head u first
        | succ i => exact ih (fun i => results i.succ) later i

/-- A family with a member that always fails does so too, with the failure of a member. -/
theorem on_traverse_of_error {n : Nat} {f : Fin n → Attempt σ α} {P : Failure → Prop}
    (failures : ∀ i s e, ((f i).on s).1 = .error e → P e)
    (fails : ∃ i, ∀ s, ∃ e, ((f i).on s).1 = .error e) (s : σ) :
    ∃ e t, (traverse f).on s = (.error e, t) ∧ P e := by
  -- The first member decides unless it gives a result; then the failing one is among the others.
  induction n generalizing s with
  | zero =>
    obtain ⟨i, -⟩ := fails
    exact i.elim0
  | succ n ih =>
    rw [traverse]
    rcases run : (f 0).on s with ⟨result, t⟩
    cases result with
    | error e =>
      exact ⟨e, t, Attempt.on_bind_of_error run _, failures 0 s e (congrArg Prod.fst run)⟩
    | ok a =>
      have later : ∃ i : Fin n, ∀ s, ∃ e, ((f i.succ).on s).1 = .error e := by
        obtain ⟨i, always⟩ := fails
        cases i using Fin.cases with
        | zero =>
          obtain ⟨e, failed⟩ := always s
          rw [run] at failed
          cases failed
        | succ i => exact ⟨i, always⟩
      obtain ⟨e, u, failed, holds⟩ := ih (fun i => failures i.succ) later t
      refine ⟨e, u, ?_, holds⟩
      rw [Attempt.on_bind_of_ok run, Attempt.on_bind_of_error failed]

/-- The same without a state. -/
theorem exists_traverse_eq_error {n : Nat} {f : Fin n → Except Failure α} {P : Failure → Prop}
    (failures : ∀ i e, f i = .error e → P e) (fails : ∃ i e, f i = .error e) :
    ∃ e, traverse f = .error e ∧ P e := by
  obtain ⟨i, e, failed⟩ := fails
  have always : ∃ i, ∀ s, ∃ e, ((Attempt.ofExcept (f i) : Attempt Unit α).on s).1 = .error e :=
    ⟨i, fun s => ⟨e, by rw [Attempt.on_ofExcept, failed]⟩⟩
  obtain ⟨e, t, run, holds⟩ := on_traverse_of_error (σ := Unit) (f := fun i => .ofExcept (f i))
    (fun i s e failed => failures i e (by rwa [Attempt.on_ofExcept] at failed)) always ()
  rw [traverse_ofExcept, Attempt.on_ofExcept] at run
  exact ⟨e, congrArg Prod.fst run, holds⟩

/-- A family without a state fails as one of its members does. -/
theorem of_traverse_eq_error {n : Nat} {f : Fin n → Except Failure α} {P : Failure → Prop}
    (failures : ∀ i e, f i = .error e → P e) {e : Failure} (failed : traverse f = .error e) :
    P e := by
  by_cases fails : ∃ i e, f i = .error e
  · obtain ⟨e', failed', holds⟩ := exists_traverse_eq_error failures fails
    rw [failed] at failed'
    cases failed'
    exact holds
  · have results (i : Fin n) : ∃ a, f i = .ok a := by
      rcases member : f i with e' | a
      · exact absurd ⟨i, e', member⟩ fails
      · exact ⟨a, rfl⟩
    rw [traverse_eq_ok fun i => (results i).choose_spec] at failed
    cases failed

end Indexed

end AmountProofs
