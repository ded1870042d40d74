import AmountProofs.Log.Record
import AmountProofs.Proof.Basic

/-!
Verifying proofs.

The verifier draws the challenge `c` from the announced points and a weight `w` from the responses, and checks all
equations at once: the sum over the equations `i` of `w ^ i` times

  (the left side at the responses) - c * (the right side) - (the announced point)

has to be the neutral element. The sum is one multiscalar product.
-/

namespace AmountProofs

variable {S : Suite} {k : ProofKind}

/-- What a verification gives: its result, the transcript after it, and the records it logged. -/
structure Verdict (S : Suite) where
  result : Except Failure Unit
  transcript : Transcript S
  log : List Log.Record

namespace Proof

/-- The weight `w ^ (i + 1)` of the equation after the first `i + 1`. -/
def power (w : Scalar) : Nat → Scalar
  | 0 => w
  | i + 1 => w * power w i

/-- A scalar times the weight of the equation with index `i`; the first equation has none. -/
def weigh (w : Scalar) : Nat → Scalar → Scalar
  | 0, s => s
  | i + 1, s => power w i * s

/-- The terms that one equation contributes to the sum. -/
def rowTerms (c w : Scalar) (z : Fin k.witnesses → Scalar) (i : Nat)
    (form : LinearForm S k.witnesses) (target announced : Point S) : List (Multiscalar.Term S) :=
  form.map (fun (j, p) => (weigh w i (z j), p))
    ++ [(-(weigh w i c), target), (-(weigh w i Scalar.one), announced)]

/-- The terms of the sum that has to be the neutral element. -/
def terms (statement : Statement S k) (c w : Scalar) (z : Fin k.witnesses → Scalar)
    (announced : Fin k.rows → Point S) : List (Multiscalar.Term S) :=
  (List.finRange k.rows).flatMap fun (i : Fin k.rows) =>
    rowTerms c w z i (statement.forms i) (statement.targets i) (announced i)

/-- The sum of the terms: the zero proof's verifier evaluates every term, the others skip the terms
that vanish. -/
def sumTerms (k : ProofKind) (terms : List (Multiscalar.Term S)) : Except Failure (Point S) :=
  match k with
  | .zeroCiphertext => Multiscalar.sum terms
  | .commitmentEquality | .ciphertextEquality => Multiscalar.sumPublic terms

/-- Absorbs an announced point and reads it, or leaves the reading for later. -/
def absorbAnnouncement (p : Proof k) (i : Fin k.rows) : Attempt (Transcript S) (Option (Point S)) :=
  let name := label (k.announcementName i)
  if k.readsLate i then do
    Transcript.appendPoint name (p.announcements i)
    return none
  else do
    let point ← Transcript.appendValidPoint name (p.announcements i)
    return some point

/-- Reads an announced point that was left for later. -/
def readAnnouncement (p : Proof k) (i : Fin k.rows) : Option (Point S) → Except Failure (Point S)
  | some point => .ok point
  | none => Point.ofPayload (p.announcements i)

/-- Checks a proof; low-level errors are not rewrapped yet. -/
def check (p : Proof k) (statement : Statement S k) : Attempt (Transcript S) Unit := do
  Transcript.separateDomain (.bytes k.domain)
  let early ← Indexed.traverse fun i => absorbAnnouncement p i
  let c ← Transcript.challengeScalar challengeLabel
  Indexed.each fun j => Transcript.appendScalar (label (k.responseName j)) (p.responses j)
  let w ← Transcript.challengeScalar weightLabel
  let announced ← Indexed.traverse fun i => .ofExcept (readAnnouncement p i (early i))
  let total ← .ofExcept (sumTerms k (terms statement c w p.responses announced))
  if total.isNeutral then return ()
  else throw (.library (.create (.rejection k.family) .algebraicRelation "" .null))

/-- The record of a rejection, for failures that are one. -/
def rejectionLog (k : ProofKind) : Except Failure Unit → List Log.Record
  | .error (.library e) =>
    if e.kind.isRejectionOf k.family then
      [⟨Log.debug, k.logger, Text.ofString (k.title ++ " rejected: " ++ e.reason)⟩]
    else []
  | _ => []

/-- Verifies a proof of a statement on a transcript. All low-level errors are rejections of the kind's
family, and every rejection is logged. -/
def verify (p : Proof k) (statement : Statement S k) (t : Transcript S) : Verdict S :=
  let (result, after) := (check p statement).on t
  let result := within k.family result
  ⟨result, after, rejectionLog k result⟩

end Proof

end AmountProofs
