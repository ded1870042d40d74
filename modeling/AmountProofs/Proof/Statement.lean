import AmountProofs.Chunks
import AmountProofs.Encryption
import AmountProofs.Indexed
import AmountProofs.Proof.Kind

/-!
What is proved, as linear equations between points.

With the secret key `s`, the amount `x` and the opening `r`, the equations are

* `s * P = H`: the key `P` belongs to `s` (`H` is the blinding generator);
* `x * G + s * D = C`: the ciphertext `(C, D)` holds `x` (for the zero proof `s * D = C`);
* `x * G + r * H = C'`: the commitment, or the second ciphertext's one, holds `x`;
* `r * P' = D'`: the second ciphertext's handle belongs to its key `P'`.

The left sides are linear forms in the scalars with points as coefficients (`forms`), the right
sides are points (`targets`).
-/

namespace AmountProofs

variable {S : Suite}

/-- A sum of multiples of points, whose scalars are named by their indices. -/
abbrev LinearForm (S : Suite) (n : Nat) := List (Fin n × Point S)

namespace LinearForm

/-- The value of a form. A form of one term is a plain product. -/
def value {n : Nat} (form : LinearForm S n) (z : Fin n → Scalar) : Except Failure (Point S) :=
  match form with
  | [(j, p)] => Point.mul (z j) p
  | terms => Multiscalar.sum (terms.map fun (j, p) => (z j, p))

def ofZero (key handle : Point S) : Fin 2 → LinearForm S 1
  | 0 => [(0, key)]
  | 1 => [(0, handle)]

/-- The forms of the proof of equality with a commitment. -/
def ofCommitment (key handle : Point S) : Fin 3 → LinearForm S 3
  | 0 => [(0, key)]
  | 1 => [(1, Point.base), (0, handle)]
  | 2 => [(1, Point.base), (2, Point.blinding)]

/-- The forms of the proof of equality of two ciphertexts. -/
def ofCiphertexts (key handle secondKey : Point S) : Fin 4 → LinearForm S 3
  | 0 => [(0, key)]
  | 1 => [(1, Point.base), (0, handle)]
  | 2 => [(1, Point.base), (2, Point.blinding)]
  | 3 => [(2, secondKey)]

end LinearForm

/-- What a proof of a kind speaks about. -/
inductive Statement (S : Suite) : ProofKind → Type
  | zeroCiphertext (key : PublicKey S) (ciphertext : Ciphertext S) : Statement S .zeroCiphertext
  | commitmentEquality (key : PublicKey S) (ciphertext : Ciphertext S)
      (commitment : Commitment S) : Statement S .commitmentEquality
  | ciphertextEquality (firstKey secondKey : PublicKey S)
      (first second : Ciphertext S) : Statement S .ciphertextEquality
  deriving DecidableEq

namespace Statement

/-- The left sides of the equations. -/
def forms {k : ProofKind} : Statement S k → Fin k.rows → LinearForm S k.witnesses
  | zeroCiphertext key ciphertext => LinearForm.ofZero key.point ciphertext.handle.point
  | commitmentEquality key ciphertext _ => LinearForm.ofCommitment key.point ciphertext.handle.point
  | ciphertextEquality firstKey secondKey first _ =>
    LinearForm.ofCiphertexts firstKey.point first.handle.point secondKey.point

/-- The right sides of the equations. -/
def targets {k : ProofKind} : Statement S k → Fin k.rows → Point S
  | zeroCiphertext _ ciphertext => fun i =>
    match i with
    | 0 => Point.blinding
    | 1 => ciphertext.commitment.point
  | commitmentEquality _ ciphertext commitment => fun i =>
    match i with
    | 0 => Point.blinding
    | 1 => ciphertext.commitment.point
    | 2 => commitment.point
  | ciphertextEquality _ _ first second => fun i =>
    match i with
    | 0 => Point.blinding
    | 1 => first.commitment.point
    | 2 => second.commitment.point
    | 3 => second.handle.point

def keys {k : ProofKind} : Statement S k → List (PublicKey S)
  | zeroCiphertext key _ => [key]
  | commitmentEquality key _ _ => [key]
  | ciphertextEquality firstKey secondKey _ _ => [firstKey, secondKey]

/-- The parts of a statement in the order in which they are written, with the labels under which
they are bound into a transcript. -/
def parts {k : ProofKind} : Statement S k → List (String × Bytes)
  | zeroCiphertext key ciphertext =>
    [("pubkey", key.toBytes), ("ciphertext", ciphertext.toBytes)]
  | commitmentEquality key ciphertext commitment =>
    [("pubkey", key.toBytes), ("ciphertext", ciphertext.toBytes),
     ("commitment", commitment.toBytes)]
  | ciphertextEquality firstKey secondKey first second =>
    [("first-pubkey", firstKey.toBytes), ("second-pubkey", secondKey.toBytes),
     ("first-ciphertext", first.toBytes), ("second-ciphertext", second.toBytes)]

def toBytes {k : ProofKind} (statement : Statement S k) : Bytes :=
  statement.parts.flatMap fun (_, part) => part

/-- The statement with given points, in the order in which they are written. -/
def ofPoints : {k : ProofKind} → (Fin k.points → Point S) → Statement S k
  | .zeroCiphertext, p => .zeroCiphertext ⟨p 0⟩ ⟨⟨p 1⟩, ⟨p 2⟩⟩
  | .commitmentEquality, p => .commitmentEquality ⟨p 0⟩ ⟨⟨p 1⟩, ⟨p 2⟩⟩ ⟨p 3⟩
  | .ciphertextEquality, p => .ciphertextEquality ⟨p 0⟩ ⟨p 1⟩ ⟨⟨p 2⟩, ⟨p 3⟩⟩ ⟨⟨p 4⟩, ⟨p 5⟩⟩

/-- Reads a statement of exactly the length of its kind. -/
def ofPayload (k : ProofKind) (data : Payload) : Except Failure (Statement S k) := do
  let expected := 32 * k.points
  let size ← data.size
  if size ≠ expected then throw (.malformed s!"expected {expected} bytes, got {size}" .null)
  let b ← data.toBytes
  let points ← Indexed.traverse fun i : Fin k.points => Point.ofWire (Chunks.chunk b i)
  return ofPoints points

end Statement

/-- What the maker of a proof holds: the keypair and the ciphertext and, for an equality, the
opening and the amount of the other side. -/
inductive Witness (S : Suite) : ProofKind → Type
  | zeroCiphertext (keypair : Keypair S) (ciphertext : Ciphertext S) : Witness S .zeroCiphertext
  | commitmentEquality (keypair : Keypair S) (ciphertext : Ciphertext S) (opening : Opening)
      (amount : Int) : Witness S .commitmentEquality
  | ciphertextEquality (keypair : Keypair S) (secondKey : PublicKey S) (ciphertext : Ciphertext S)
      (opening : Opening) (amount : Int) : Witness S .ciphertextEquality

/-- The side of an equality that its prover does not compute with. -/
inductive Counterpart (S : Suite) : ProofKind → Type
  | nothing : Counterpart S .zeroCiphertext
  | commitment (commitment : Commitment S) : Counterpart S .commitmentEquality
  | ciphertext (second : Ciphertext S) : Counterpart S .ciphertextEquality

namespace Witness

def forms {k : ProofKind} : Witness S k → Fin k.rows → LinearForm S k.witnesses
  | zeroCiphertext keypair ciphertext =>
    LinearForm.ofZero keypair.publicKey.point ciphertext.handle.point
  | commitmentEquality keypair ciphertext _ _ =>
    LinearForm.ofCommitment keypair.publicKey.point ciphertext.handle.point
  | ciphertextEquality keypair secondKey ciphertext _ _ =>
    LinearForm.ofCiphertexts keypair.publicKey.point ciphertext.handle.point secondKey.point

/-- The scalars that solve the equations; the amount must be in range. -/
def scalars {k : ProofKind} : Witness S k → Except Failure (Fin k.witnesses → Scalar)
  | zeroCiphertext keypair _ => .ok fun _ => keypair.secretKey.scalar
  | commitmentEquality keypair _ opening amount => do
    let x ← Scalar.ofAmount amount
    return fun j => match j with
      | 0 => keypair.secretKey.scalar
      | 1 => x
      | 2 => opening.scalar
  | ciphertextEquality keypair _ _ opening amount => do
    let x ← Scalar.ofAmount amount
    return fun j => match j with
      | 0 => keypair.secretKey.scalar
      | 1 => x
      | 2 => opening.scalar

/-- The statement that a witness and the other side of its equality make. -/
def statement {k : ProofKind} (w : Witness S k) (other : Counterpart S k) : Statement S k :=
  match w, other with
  | zeroCiphertext keypair ciphertext, .nothing => .zeroCiphertext keypair.publicKey ciphertext
  | commitmentEquality keypair ciphertext _ _, .commitment c =>
    .commitmentEquality keypair.publicKey ciphertext c
  | ciphertextEquality keypair secondKey ciphertext _ _, .ciphertext second =>
    .ciphertextEquality keypair.publicKey secondKey ciphertext second

end Witness

end AmountProofs
