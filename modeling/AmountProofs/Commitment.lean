import AmountProofs.Multiscalar
import AmountProofs.Randomness

/-!
Commitments to amounts.

The commitment to an amount `x` with opening `r` is `x * base + r * blinding`. Openings are secret
scalars; sums and differences of commitments commit to the sums and differences.
-/

namespace AmountProofs

/-- The secret randomness of a commitment. -/
structure Opening where
  scalar : Scalar
  deriving DecidableEq, Repr

/-- A commitment to an amount. -/
structure Commitment (S : Suite) where
  point : Point S
  deriving DecidableEq, Repr

namespace Opening

def ofPayload (p : Payload) : Except Failure Opening := do
  return ⟨← Scalar.ofNamed "opening" "opening" p⟩

def fresh : Attempt Tape Opening := do return ⟨← Tape.scalar⟩

def toBytes (r : Opening) : Bytes := r.scalar.toBytes

instance : Add Opening := ⟨fun a b => ⟨a.scalar + b.scalar⟩⟩

instance : Sub Opening := ⟨fun a b => ⟨a.scalar - b.scalar⟩⟩

/-- What is shown of an opening: nothing, since it is secret. -/
def display : String := "PedersenOpening(...)"

end Opening

namespace Commitment

variable {S : Suite}

/-- The commitment to an amount with an opening. -/
def create (amount : Int) (opening : Opening) : Except Failure (Commitment S) := do
  let x ← Scalar.ofAmount amount
  let left ← Point.mul x Point.base
  let right ← Point.mul opening.scalar Point.blinding
  return ⟨← left.add right⟩

def createFresh (amount : Int) : Attempt Tape (Commitment S × Opening) := do
  let opening ← Opening.fresh
  let commitment ← .ofExcept (create amount opening)
  return (commitment, opening)

def ofPayload (p : Payload) : Except Failure (Commitment S) := do
  return ⟨← Point.ofNamed "commitment" p⟩

def toBytes (c : Commitment S) : Bytes := c.point.toBytes

def add (a b : Commitment S) : Except Failure (Commitment S) := do return ⟨← a.point.add b.point⟩

def sub (a b : Commitment S) : Except Failure (Commitment S) := do return ⟨← a.point.sub b.point⟩

end Commitment

end AmountProofs
