import AmountProofs.Proof.Verifier

/-!
Proofs bundled with the statements they speak about.

The transcript of a bundle binds a label and every part of the statement before the proof is made or
checked, so a proof cannot be used with other keys, ciphertexts or commitments. A policy may name
the label and may refuse the neutral element as a public key.
-/

namespace AmountProofs

variable {S : Suite} {k : ProofKind}

/-- How bundles are made and verified. -/
structure Policy where
  /-- Whether a neutral public key is rejected before anything else. -/
  rejectNeutralKeys : Bool := false
  /-- The label of the transcript; an empty one leaves the label of the proof's kind. -/
  label : Text := []

/-- The label of a policy in UTF-8, or another one if it is empty. -/
def Policy.labelOr (policy : Policy) (other : Bytes) : Except Failure Bytes :=
  if policy.label.isEmpty then .ok other
  else
    match policy.label.utf8? with
    | some b => .ok b
    | none => .error .unpairedSurrogate

/-- The transcript that binds a statement. -/
def Statement.transcript (statement : Statement S k) (policy : Policy) :
    Except Failure (Transcript S) := do
  let label ← policy.labelOr k.statementLabel
  let t ← Transcript.create (.bytes label)
  let bind := statement.parts.forM fun (name, part) =>
    Transcript.appendMessage (S := S) (Proof.label name) (.bytes part)
  match bind.on t with
  | (.ok _, t) => return t
  | (.error e, _) => throw e

structure Bundle (S : Suite) (k : ProofKind) where
  statement : Statement S k
  proof : Proof k

namespace Bundle

/-- Makes a proof and bundles it with its statement. -/
def create (w : Witness S k) (other : Counterpart S k) (policy : Policy) :
    Attempt Tape (Bundle S k) := do
  let statement := w.statement other
  let t ← .ofExcept (statement.transcript policy)
  let proof ← Attempt.zoom (fun tape => ⟨t, tape⟩) (fun s _ => s.tape) (Proof.create w)
  return ⟨statement, proof⟩

/-- Rejects neutral public keys if the policy says so. -/
def checkKeys (b : Bundle S k) (policy : Policy) : Except Failure Unit :=
  if policy.rejectNeutralKeys then b.statement.keys.forM (PublicKey.checkNotNeutral k.family)
  else .ok ()

/-- Verifies a bundle: the result and the records it logged. -/
def verify (b : Bundle S k) (policy : Policy) : Except Failure Unit × List Log.Record :=
  match b.checkKeys policy >>= fun _ => b.statement.transcript policy with
  | .error e => (.error e, [])
  | .ok t =>
    let verdict := b.proof.verify b.statement t
    (verdict.result, verdict.log)

/-- The bytes of a bundle: those of the statement, then those of the proof. -/
def toBytes (b : Bundle S k) : Except Failure Bytes := do
  let proof ← b.proof.toBytes
  return b.statement.toBytes ++ proof

/-- Reads a bundle of exactly the length of its kind. All failures are rejections of the kind's
family. -/
def ofPayload (k : ProofKind) (data : Payload) : Except Failure (Bundle S k) :=
  within k.family do
    let first := 32 * k.points
    let expected := first + 32 * k.chunks
    let size ← data.size
    if size ≠ expected then throw (.malformed s!"expected {expected} bytes, got {size}" .null)
    let b ← data.toBytes
    let statement ← Statement.ofPayload k (.bytes (b.take first))
    let proof ← Proof.ofPayload S k (.bytes (b.drop first))
    return ⟨statement, proof⟩

end Bundle

end AmountProofs
