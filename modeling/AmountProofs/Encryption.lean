import AmountProofs.Commitment

/-!
Encrypted amounts.

The public key of a secret `s` is the multiple of the blinding generator by the inverse of `s`. A
ciphertext of an amount is a commitment to it together with a handle, the multiple of the public key
by the commitment's opening; who knows `s` can take the opening's part away again and is left with
the amount times the base point.
-/

namespace AmountProofs

variable {S : Suite}

structure SecretKey where
  scalar : Scalar
  deriving DecidableEq, Repr

structure PublicKey (S : Suite) where
  point : Point S
  deriving DecidableEq, Repr

/-- A public key and a secret key; nothing is assumed of how they fit. -/
structure Keypair (S : Suite) where
  publicKey : PublicKey S
  secretKey : SecretKey
  deriving DecidableEq, Repr

/-- The part of a ciphertext that ties its opening to a public key. -/
structure Handle (S : Suite) where
  point : Point S
  deriving DecidableEq, Repr

/-- An encrypted amount. -/
structure Ciphertext (S : Suite) where
  commitment : Commitment S
  handle : Handle S
  deriving DecidableEq, Repr

namespace SecretKey

def ofPayload (p : Payload) : Except Failure SecretKey := do
  return ⟨← Scalar.ofNamed "secret key" "secret key" p⟩

def fresh : Attempt Tape SecretKey := do return ⟨← Tape.scalar⟩

def toBytes (s : SecretKey) : Bytes := s.scalar.toBytes

/-- The amount times the base point, for a ciphertext under the key. -/
def decrypt (s : SecretKey) (c : Ciphertext S) : Except Failure (Point S) := do
  let shared ← Point.mul s.scalar c.handle.point
  c.commitment.point.sub shared

/-- What is shown of a secret key: nothing. -/
def display : String := "ElGamalSecretKey(...)"

end SecretKey

namespace Handle

def ofPayload (p : Payload) : Except Failure (Handle S) := do return ⟨← Point.ofNamed "handle" p⟩

def toBytes (h : Handle S) : Bytes := h.point.toBytes

def add (a b : Handle S) : Except Failure (Handle S) := do return ⟨← a.point.add b.point⟩

def sub (a b : Handle S) : Except Failure (Handle S) := do return ⟨← a.point.sub b.point⟩

end Handle

namespace PublicKey

/-- The public key of a secret key, which must not be zero. -/
def ofSecret (s : SecretKey) : Except Failure (PublicKey S) := do
  if s.scalar.isZero then throw (.badValue .zeroSecret)
  let inverse ← s.scalar.invert
  return ⟨← Point.mul inverse Point.blinding⟩

def ofPayload (p : Payload) : Except Failure (PublicKey S) := do
  return ⟨← Point.ofNamed "pubkey" p⟩

def toBytes (k : PublicKey S) : Bytes := k.point.toBytes

/-- The handle of an opening under a key. -/
def handle (k : PublicKey S) (opening : Opening) : Except Failure (Handle S) := do
  return ⟨← Point.mul opening.scalar k.point⟩

def encryptWith (k : PublicKey S) (amount : Int) (opening : Opening) :
    Except Failure (Ciphertext S) := do
  let commitment ← Commitment.create amount opening
  let handle ← k.handle opening
  return ⟨commitment, handle⟩

def encrypt (k : PublicKey S) (amount : Int) : Attempt Tape (Ciphertext S) := do
  let opening ← Opening.fresh
  .ofExcept (k.encryptWith amount opening)

/-- Rejects the neutral element as a public key. Proofs under it are not rejected for that alone,
so this check is for callers that want the explicit reason. -/
def checkNotNeutral (f : ProofFamily) (k : PublicKey S) : Except Failure Unit :=
  if k.point.isNeutral then .error (.library (.create (.rejection f) .pubkeyIsIdentity "" .null))
  else .ok ()

end PublicKey

namespace Keypair

def ofSecret (s : SecretKey) : Except Failure (Keypair S) := do return ⟨← PublicKey.ofSecret s, s⟩

def fresh : Attempt Tape (Keypair S) := do
  let s ← SecretKey.fresh
  .ofExcept (ofSecret s)

/-- What is shown of a keypair: the beginning of its public key. -/
def display (k : Keypair S) : String :=
  "ElGamalKeypair(pubkey=" ++ String.ofList ((Bytes.hex k.publicKey.toBytes).toList.take 16) ++ "...)"

end Keypair

namespace Ciphertext

/-- The trivial encryption of nothing. -/
def zero : Ciphertext S := ⟨⟨Point.neutral⟩, ⟨Point.neutral⟩⟩

/-- Reads a ciphertext: 64 bytes, a commitment and a handle. -/
def ofPayload (p : Payload) : Except Failure (Ciphertext S) := do
  let size ← p.size
  if size ≠ 64 then throw (.malformed s!"ciphertext must be 64 bytes, got {size}" .null)
  let commitment ← Commitment.ofPayload (p.slice 0 32)
  let handle ← Handle.ofPayload (p.slice 32 64)
  return ⟨commitment, handle⟩

def toBytes (c : Ciphertext S) : Bytes := c.commitment.toBytes ++ c.handle.toBytes

def add (a b : Ciphertext S) : Except Failure (Ciphertext S) := do
  let commitment ← a.commitment.add b.commitment
  let handle ← a.handle.add b.handle
  return ⟨commitment, handle⟩

def sub (a b : Ciphertext S) : Except Failure (Ciphertext S) := do
  let commitment ← a.commitment.sub b.commitment
  let handle ← a.handle.sub b.handle
  return ⟨commitment, handle⟩

end Ciphertext

end AmountProofs
