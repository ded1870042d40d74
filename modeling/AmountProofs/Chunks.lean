import AmountProofs.Point

/-!
Concatenations of 32-byte chunks.

A proof is written as its fields one after the other, 32 bytes each. `Chunks.split` takes a byte
string of exactly the right length apart and `Chunks.join` puts fields together; reading a field
back checks it as a point or as a scalar.
-/

namespace AmountProofs

namespace Chunks

variable {S : Suite}

def size : Nat := 32

/-- The chunk at a position of a byte string. -/
def chunk (b : Bytes) (i : Nat) : Word := Word.ofBytes ((b.drop (size * i)).take size)

/-- The bytes of a payload of exactly `expected` bytes. -/
def exactly (expected : Int) (data : Payload) : Except Failure Bytes :=
  match data.content? with
  | none => .error (.malformed ("expected bytes, got " ++ data.typeName) .null)
  | some b =>
    if (b.length : Int) = expected then .ok b
    else .error (.showing (.int expected) (.malformed s!"expected {expected} bytes, got {b.length}"
      (.record [("expected", .int expected), ("actual", .int b.length)])))

/-- The chunks of a payload of exactly `count` chunks. -/
def split (data : Payload) (count : Int) : Except Failure (List Word) := do
  let b ← exactly (size * count) data
  return (List.range count.toNat).map (chunk b)

/-- Checks that a payload is a point and gives its bytes. -/
def pointBytes (S : Suite) (chunk : Payload) : Except Failure Bytes := do
  let _ ← (Point.ofPayload chunk : Except Failure (Point S))
  chunk.toBytes

/-- The reduced scalar that a payload stores. -/
def scalar (chunk : Payload) : Except Failure Scalar := do
  match ← Scalar.ofCanonical chunk with
  | some s => return s
  | none => throw (.malformed "non-canonical scalar encoding" .null)

/-- Something that is written as a chunk. -/
inductive Field
  | scalar (s : Scalar)
  | payload (p : Payload)
  deriving DecidableEq, Repr

/-- The first count of bytes that cannot be addressed. -/
def addressLimit : Int := Int.pow 2 63

/-- The length of the bytes that a field is turned into; an integer asks for that many zeros. -/
def Field.size : Field → Except Failure Nat
  | scalar _ => .ok 32
  | payload (.text _) => .error .wrongType
  | payload (.number n) =>
    if addressLimit ≤ n ∨ n < -addressLimit then .error .tooLarge
    else if n < 0 then .error (.badValue .negativeCount)
    else .ok n.toNat
  | payload p => do
    let b ← p.toBytes
    return b.length

/-- The bytes of a field that has the length of a chunk. -/
def Field.bytes : Field → Except Failure Bytes
  | scalar s => .ok s.toBytes
  | payload (.number n) => .ok (List.replicate n.toNat 0)
  | payload p => p.toBytes

def Field.chunk (f : Field) : Except Failure Bytes := do
  let n ← f.size
  if n ≠ Chunks.size then throw (.badValue (.chunkSize n))
  f.bytes

/-- The fields one after the other. -/
def join : List Field → Except Failure Bytes
  | [] => .ok []
  | f :: rest => do
    let chunk ← f.chunk
    let tail ← join rest
    return chunk ++ tail

end Chunks

end AmountProofs
