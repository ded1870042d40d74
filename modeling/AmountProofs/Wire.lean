import AmountProofs.Base64
import AmountProofs.Bundle

/-!
Everything that has a wire form, under one roof.

A `Format` names a type of value that is written as bytes; `Format.Value` is that type, `read` and
`write` go between values and bytes, and `readText` and `writeText` between values and Base64.
-/

namespace AmountProofs.Wire

/-- The types of value that have a wire form. -/
inductive Format
  | secretKey
  | publicKey
  | opening
  | commitment
  | handle
  | ciphertext
  | proof (k : ProofKind)
  | statement (k : ProofKind)
  | bundle (k : ProofKind)
  deriving DecidableEq, Repr

namespace Format

variable {S : Suite}

/-- The values of a format. -/
abbrev Value (S : Suite) : Format → Type
  | secretKey => SecretKey
  | publicKey => PublicKey S
  | opening => Opening
  | commitment => Commitment S
  | handle => Handle S
  | ciphertext => Ciphertext S
  | proof k => Proof k
  | statement k => Statement S k
  | bundle k => Bundle S k

def read (S : Suite) : (f : Format) → Payload → Except Failure (f.Value S)
  | secretKey => SecretKey.ofPayload
  | publicKey => PublicKey.ofPayload
  | opening => Opening.ofPayload
  | commitment => Commitment.ofPayload
  | handle => Handle.ofPayload
  | ciphertext => Ciphertext.ofPayload
  | proof k => Proof.ofPayload S k
  | statement k => Statement.ofPayload k
  | bundle k => Bundle.ofPayload k

def write : (f : Format) → f.Value S → Except Failure Bytes
  | secretKey, s => .ok s.toBytes
  | publicKey, p => .ok p.toBytes
  | opening, r => .ok r.toBytes
  | commitment, c => .ok c.toBytes
  | handle, h => .ok h.toBytes
  | ciphertext, c => .ok c.toBytes
  | proof _, p => p.toBytes
  | statement _, s => .ok s.toBytes
  | bundle _, b => b.toBytes

def writeText (f : Format) (v : f.Value S) : Except Failure Text := do
  let b ← f.write v
  return Base64.encode b

def readText (S : Suite) (f : Format) (t : Text) : Except Failure (f.Value S) :=
  match Base64.decode t with
  | .ok b => f.read S (.bytes b)
  | .error fault => .error (.malformed ("invalid base64: " ++ fault.message) .null)

end Format

end AmountProofs.Wire
