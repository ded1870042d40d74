import AmountProofs.Point
import AmountProofs.Json.Display

/-!
The running transcript that challenges are drawn from.

A transcript is the byte string absorbed so far. Every operation absorbs one record, the operation's
tag, the length and the bytes of a label, the length and the bytes of a message, and a challenge
also absorbs the bytes it gave out, so that asking twice under one label gives two answers. An
operation that fails leaves the transcript as it was: all checks come before the first byte.
-/

namespace AmountProofs

/-- The bytes absorbed so far; challenges are drawn with the suite's hash. -/
structure Transcript (S : Suite) where
  absorbed : Bytes
  deriving DecidableEq, Repr

namespace Transcript

variable {S : Suite}

/-- The two operations that absorb a record. -/
inductive Operation
  | append
  | challenge
  deriving DecidableEq, Repr

/-- The byte that opens a record. -/
def Operation.tag : Operation → UInt8
  | append => 1
  | challenge => 2

structure Record where
  operation : Operation
  label : Bytes
  message : Bytes
  deriving DecidableEq, Repr

/-- The bytes of a record: tag, length of the label in four bytes, label, length of the message in
eight bytes, message. -/
def Record.encode (r : Record) : Bytes :=
  r.operation.tag :: (Bytes.ofNat 4 r.label.length ++ r.label
    ++ (Bytes.ofNat 8 r.message.length ++ r.message))

/-- What every transcript starts with. -/
def protocolLabel : Bytes := Bytes.ofAscii "zksigma-transcript-v1"

/-- The label under which domains are told apart. -/
def domainLabel : Bytes := Bytes.ofAscii "dom-sep"

/-- The longest label: its length has to fit four bytes. -/
def maxLabelSize : Nat := Nat.pow 2 32 - 1

def maxChallengeSize : Nat := 1024

/-- The transcript before its first operation. -/
def start : Transcript S := ⟨protocolLabel⟩

/-- The bytes of a label or a message, which must own them. -/
def ownedBytes (role : String) (p : Payload) : Except Failure Bytes :=
  match p.owned? with
  | some b => .ok b
  | none => .error (.transcript (role ++ " must be bytes, got " ++ p.typeName))

/-- The record of an operation on what a caller passed. -/
def record (operation : Operation) (label message : Payload) : Except Failure Record := do
  let l ← ownedBytes "label" label
  let m ← ownedBytes "message" message
  if maxLabelSize < l.length then throw (.transcript "label too long")
  return ⟨operation, l, m⟩

/-- Absorbs bytes as they are. -/
def update (b : Bytes) : Attempt (Transcript S) Unit := modify fun t => ⟨t.absorbed ++ b⟩

/-- Checks what a caller passed and absorbs its record, part by part. -/
def absorb (operation : Operation) (label message : Payload) : Attempt (Transcript S) Unit := do
  let r ← .ofExcept (record operation label message)
  update [r.operation.tag]
  update (Bytes.ofNat 4 r.label.length)
  update r.label
  update (Bytes.ofNat 8 r.message.length)
  update r.message

def appendMessage (label message : Payload) : Attempt (Transcript S) Unit :=
  absorb .append label message

/-- Absorbs a number below `2 ^ 64` as eight bytes. -/
def appendNumber (label : Payload) (value : Int) : Attempt (Transcript S) Unit := do
  if 0 ≤ value ∧ value < Int.pow 2 64 then
    appendMessage label (.bytes (Bytes.ofNat 8 value.toNat))
  else throw (.showing (.int value) (.transcript s!"u64 value out of range: {value}"))

def separateDomain (name : Payload) : Attempt (Transcript S) Unit :=
  appendMessage (.bytes domainLabel) name

/-- Absorbs an encoded point as it is. -/
def appendPoint (label point : Payload) : Attempt (Transcript S) Unit := appendMessage label point

def appendScalar (label : Payload) (s : Scalar) : Attempt (Transcript S) Unit :=
  appendMessage label (.bytes s.toBytes)

/-- Reads a point and absorbs its encoding; nothing is absorbed if it is none. -/
def appendValidPoint (label point : Payload) : Attempt (Transcript S) (Point S) := do
  let p ← .ofExcept (Point.ofPayload point)
  let b ← .ofExcept point.toBytes
  appendMessage label (.bytes b)
  return p

/-- Draws `n` bytes and absorbs them. -/
def draw (label : Payload) (n : Nat) : Attempt (Transcript S) (Vector UInt8 n) := do
  absorb .challenge label (.bytes (Bytes.ofNat 8 n))
  let t ← get
  let output := S.xof t.absorbed n
  update output.toList
  return output

/-- The number of bytes that a value asks for, if a challenge may have that many. -/
def requestedSize? (length : Json) : Option Nat := do
  let n ← length.asInt?
  if 0 < n ∧ n ≤ maxChallengeSize then some n.toNat else none

/-- Draws as many bytes as a value asks for. -/
def challengeBytes (label : Payload) (length : Json) : Attempt (Transcript S) Bytes := do
  match requestedSize? length with
  | some n =>
    let output ← draw label n
    return output.toList
  | none =>
    throw (.showing length (.transcript ("invalid challenge length: " ++ length.display.toString)))

/-- Draws a scalar, from 64 bytes. -/
def challengeScalar (label : Payload) : Attempt (Transcript S) Scalar := do
  let output ← draw label 64
  return Scalar.ofWide output

/-- A new transcript for a domain. -/
def create (label : Payload) : Except Failure (Transcript S) :=
  match (separateDomain label).on (start : Transcript S) with
  | (.ok _, t) => .ok t
  | (.error e, _) => .error e

end Transcript

end AmountProofs
