import AmountProofs.Point

/-!
Sums of multiples of points.

`Multiscalar.sum` evaluates every term and `Multiscalar.sumPublic` skips the terms that vanish; both
give the same result and fail alike. A refusal of the curve becomes an error of their own.
-/

namespace AmountProofs

namespace Multiscalar

variable {S : Suite}

/-- A scalar and the point that it multiplies. -/
abbrev Term (S : Suite) := Scalar × Point S

/-- Adds the terms to a point, one after the other. -/
def accumulate : Point S → List (Term S) → Except Failure (Point S)
  | acc, [] => .ok acc
  | acc, (s, p) :: rest => do
    let product ← Point.mul s p
    let acc ← acc.add product
    accumulate acc rest

/-- Whether a term is the neutral element whatever its other half is. -/
def vanishes (t : Term S) : Bool := t.1.isZero || t.2.isNeutral

/-- Adds the terms that do not vanish to a point, one after the other. -/
def accumulatePublic : Point S → List (Term S) → Except Failure (Point S)
  | acc, [] => .ok acc
  | acc, (s, p) :: rest =>
    if vanishes (s, p) then accumulatePublic acc rest
    else do
      let product ← Point.mul s p
      let acc ← acc.add product
      accumulatePublic acc rest

/-- A refusal of the curve as an error of multiscalar multiplication. -/
def reportRefusal : Failure → Failure
  | .refused => .library (.create .multiscalarMul .multiscalarMul "Unexpected library error" .null)
  | other => other

/-- The sum of all terms. -/
def sum (terms : List (Term S)) : Except Failure (Point S) :=
  (accumulate .neutral terms).mapError reportRefusal

/-- The sum of all terms, for public ones: its running time depends on them. -/
def sumPublic (terms : List (Term S)) : Except Failure (Point S) :=
  (accumulatePublic .neutral terms).mapError reportRefusal

/-- Scalars and points as terms; there must be as many of the ones as of the others. -/
def pair (scalars : List Scalar) (points : List (Point S)) : Except Failure (List (Term S)) :=
  if scalars.length = points.length then .ok (scalars.zip points)
  else .error (.badValue (.termCount scalars.length points.length))

end Multiscalar

end AmountProofs
