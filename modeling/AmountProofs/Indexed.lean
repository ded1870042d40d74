/-!
Families indexed by the numbers below a bound, and computations on all of their members in order.
-/

namespace AmountProofs.Indexed

variable {m : Type → Type} [Monad m] {α : Type}

/-- A family with a given first member. -/
def cons {n : Nat} (first : α) (rest : Fin n → α) : Fin (n + 1) → α := Fin.cases first rest

/-- Runs a family of computations in the order of their indices and collects the results. -/
def traverse : {n : Nat} → (Fin n → m α) → m (Fin n → α)
  | 0, _ => pure fun i => i.elim0
  | _ + 1, f => do
    let first ← f 0
    let rest ← traverse fun i => f i.succ
    return cons first rest

/-- Runs a family of computations in the order of their indices. -/
def each : {n : Nat} → (Fin n → m Unit) → m Unit
  | 0, _ => pure ()
  | _ + 1, f => do
    f 0
    each fun i => f i.succ

end AmountProofs.Indexed
