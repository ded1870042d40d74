import AmountProofs.Log.Record
import AmountProofs.Payload

/-!
Points that nobody knows a multiple for: a seed is hashed together with a counter until the hash is
a valid encoding.
-/

namespace AmountProofs

namespace SeededPoint

/-- A point found for a seed, and how many hashes were tried. -/
structure Found where
  attempts : Nat
  point : Word
  deriving DecidableEq, Repr

/-- The record of a found point. -/
def Found.log (f : Found) : Log.Record where
  level := Log.debug
  logger := "zksigma.encryption.pedersen"
  message := Text.ofString s!"hash_to_point succeeded after {f.attempts} attempts"

/-- How many hashes are tried. -/
def maxAttempts : Nat := 1024

/-- Tries the counters from `counter` on, at most `left` of them. -/
def search (isValid : Word → Bool) (hash : Bytes → Word) (seed : Bytes) :
    (left counter : Nat) → Option Found
  | 0, _ => none
  | left + 1, counter =>
    let candidate := hash (seed ++ Bytes.ofNat 4 counter)
    if isValid candidate then some ⟨counter + 1, candidate⟩
    else search isValid hash seed left (counter + 1)

/-- The first hash of the seed and a counter that is valid. -/
def find (isValid : Word → Bool) (hash : Bytes → Word) (seed : Bytes) : Option Found :=
  search isValid hash seed maxAttempts 0

/-- The point found for a seed that owns its bytes. -/
def ofPayload (isValid : Word → Bool) (hash : Bytes → Word) (seed : Payload) : Except Failure Found :=
  match seed.owned? with
  | none => .error .wrongType
  | some b =>
    match find isValid hash b with
    | some found => .ok found
    | none => .error (.aborted s!"hash to point failed after {maxAttempts} attempts")

end SeededPoint

end AmountProofs
