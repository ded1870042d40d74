import AmountProofs.Scalar

/-!
What the protocols need of a curve and of a hash.

A `Suite` gives the curve's operations on encoded points, each of which may refuse its operands, the
two generators that commitments are made with, and an extendable-output function for challenges.
The protocols are written over any suite; `Suite.standard` is the one that is run.
-/

namespace AmountProofs

/-- The operations of a curve on encoded points, two generators and an extendable-output function. -/
structure Suite where
  /-- Whether a word encodes a point of prime order. -/
  isValid : Word → Bool
  add : Word → Word → Option Word
  sub : Word → Word → Option Word
  /-- The multiple of an encoded point by a stored scalar. -/
  mul : Scalar → Word → Option Word
  /-- The generator that amounts are multiplied with. -/
  base : Word
  /-- The generator that openings are multiplied with. -/
  blinding : Word
  /-- As many bytes as asked for, drawn from a message. -/
  xof : Bytes → (n : Nat) → Vector UInt8 n

namespace Suite

/-- The word that stores the neutral element: `x = 0`, `y = 1`. -/
def neutralWord : Word := 1

/-- The word that stands for the neutral element where points are written out. -/
def neutralWire : Word := 0

end Suite

end AmountProofs
