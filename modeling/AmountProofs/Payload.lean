import AmountProofs.Failure

/-!
Values handed over where a byte string is wanted.

The library's readers do not assume that their caller passes bytes. A `Payload` is what a caller may
pass: bytes in one of three shapes, or something else. Each reader first takes the size of the
payload and then its bytes, and each of the two steps has its own way to fail.
-/

namespace AmountProofs

/-- A value handed over where a byte string is wanted; the items of a list are integers, or `none`
for anything else. -/
inductive Payload
  | bytes (content : Bytes)
  | buffer (content : Bytes)
  | view (content : Bytes)
  | text (content : Text)
  | number (value : Int)
  | list (items : List (Option Int))
  | absent
  deriving DecidableEq, Repr

namespace Payload

/-- What messages call the type of a payload. -/
def typeName : Payload → String
  | bytes _ => "bytes"
  | buffer _ => "bytearray"
  | view _ => "memoryview"
  | text _ => "str"
  | number _ => "int"
  | list _ => "list"
  | absent => "NoneType"

/-- The content of a payload that is a byte string in any of the three shapes. -/
def content? : Payload → Option Bytes
  | bytes b | buffer b | view b => some b
  | _ => none

/-- The content of a payload that owns its bytes. -/
def owned? : Payload → Option Bytes
  | bytes b | buffer b => some b
  | _ => none

/-- The number of bytes, characters or items. -/
def size : Payload → Except Failure Nat
  | bytes b | buffer b | view b => .ok b.length
  | text t => .ok t.length
  | list items => .ok items.length
  | number _ | absent => .error .wrongType

/-- The bytes that a list of integers spells; `fault` is the failure for an integer that is no
byte. -/
def itemBytes (fault : BadValue) : List (Option Int) → Except Failure Bytes
  | [] => .ok []
  | none :: _ => .error .wrongType
  | some n :: rest =>
    if 0 ≤ n ∧ n < 256 then do
      let tail ← itemBytes fault rest
      return UInt8.ofNat n.toNat :: tail
    else .error (.badValue fault)

/-- The bytes of a payload that has a size. -/
def sizedBytes (fault : BadValue) : Payload → Except Failure Bytes
  | bytes b | buffer b | view b => .ok b
  | list items => itemBytes fault items
  | text _ | number _ | absent => .error .wrongType

/-- The bytes of a payload, copied. -/
def toBytes : Payload → Except Failure Bytes := sizedBytes .listItem

/-- The bytes of a payload, copied into a buffer. -/
def toBuffer : Payload → Except Failure Bytes := sizedBytes .bufferItem

/-- The part of a payload from one position to another, in the same shape. -/
def slice (first last : Nat) : Payload → Payload
  | bytes b => bytes ((b.take last).drop first)
  | buffer b => buffer ((b.take last).drop first)
  | view b => view ((b.take last).drop first)
  | text t => text ((t.take last).drop first)
  | list items => list ((items.take last).drop first)
  | p => p

/-- Equality of payloads as values: byte strings are compared by content, whatever their shape. -/
def same (p q : Payload) : Bool :=
  match p.content?, q.content? with
  | some b, some c => b == c
  | _, _ => p == q

end Payload

end AmountProofs
