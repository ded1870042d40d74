import AmountProofs.Failure

/-!
The three kinds of proof.

A proof shows that its maker knows scalars that solve a system of linear equations between points.
A kind fixes how many equations there are (`rows`) and how many scalars they share (`witnesses`),
and the names under which everything enters a transcript.
-/

namespace AmountProofs

/-- What a proof is about: that a ciphertext holds nothing, that a ciphertext and a commitment hold
the same amount, or that two ciphertexts do. -/
inductive ProofKind
  | zeroCiphertext
  | commitmentEquality
  | ciphertextEquality
  deriving DecidableEq, Repr

namespace ProofKind

/-- The number of equations. -/
@[reducible] def rows : ProofKind → Nat
  | zeroCiphertext => 2
  | commitmentEquality => 3
  | ciphertextEquality => 4

/-- The number of scalars that solve the equations: the secret key, and for an equality also the
amount and the opening. -/
@[reducible] def witnesses : ProofKind → Nat
  | zeroCiphertext => 1
  | commitmentEquality => 3
  | ciphertextEquality => 3

/-- The number of points in a statement. -/
@[reducible] def points : ProofKind → Nat
  | zeroCiphertext => 3
  | commitmentEquality => 4
  | ciphertextEquality => 6

/-- The number of chunks of a proof: a point for each equation, a response for each scalar. -/
def chunks (k : ProofKind) : Nat := k.rows + k.witnesses

def family : ProofKind → ProofFamily
  | zeroCiphertext => .zeroCiphertext
  | commitmentEquality | ciphertextEquality => .equality

/-- The name of the proof's domain in a transcript. -/
def domain : ProofKind → Bytes
  | zeroCiphertext => Bytes.ofAscii "zero-ciphertext-proof-v1"
  | commitmentEquality => Bytes.ofAscii "ciphertext-commitment-equality-proof-v1"
  | ciphertextEquality => Bytes.ofAscii "ciphertext-ciphertext-equality-proof-v1"

/-- The label of the transcript that binds a statement, unless a policy names another. -/
def statementLabel : ProofKind → Bytes
  | zeroCiphertext => Bytes.ofAscii "zero-ciphertext-instruction"
  | commitmentEquality => Bytes.ofAscii "ciphertext-commitment-equality-instruction"
  | ciphertextEquality => Bytes.ofAscii "ciphertext-ciphertext-equality-instruction"

def announcementName (k : ProofKind) (i : Fin k.rows) : String :=
  match k with
  | zeroCiphertext => if i.val = 0 then "Y_P" else "Y_D"
  | commitmentEquality | ciphertextEquality => "Y_" ++ toString i.val

def responseName (k : ProofKind) (j : Fin k.witnesses) : String :=
  match k with
  | zeroCiphertext => "z"
  | commitmentEquality | ciphertextEquality =>
    if j.val = 0 then "z_s" else if j.val = 1 then "z_x" else "z_r"

/-- Whether an announced point is absorbed as it is and only read when all challenges are drawn. -/
def readsLate (k : ProofKind) (i : Fin k.rows) : Bool :=
  match k with
  | zeroCiphertext => i.val == 1
  | commitmentEquality | ciphertextEquality => false

/-- The logger that rejections are reported to. -/
def logger : ProofKind → String
  | zeroCiphertext => "zksigma.sigma_proofs.zero_ciphertext"
  | commitmentEquality => "zksigma.sigma_proofs.ciphertext_commitment_equality"
  | ciphertextEquality => "zksigma.sigma_proofs.ciphertext_ciphertext_equality"

/-- What log messages call the proof. -/
def title : ProofKind → String
  | zeroCiphertext => "Zero-ciphertext proof"
  | commitmentEquality => "Ciphertext-commitment equality proof"
  | ciphertextEquality => "Ciphertext-ciphertext equality proof"

/-! ## Numerals for the indices of scalars

Named, so that numerals are the same terms in every module. -/

scoped instance neZero_one : @NeZero Nat Zero.ofOfNat0 1 := ⟨by decide⟩

scoped instance neZero_three : @NeZero Nat Zero.ofOfNat0 3 := ⟨by decide⟩

end ProofKind

end AmountProofs
