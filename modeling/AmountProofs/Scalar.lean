import AmountProofs.Payload

/-!
Scalars: integers modulo the order of the group, in 32 bytes.

A scalar stores a 256-bit word. All arithmetic is exact modulo the order and gives the reduced word;
only a scalar that was built from 32 given bytes may store an unreduced one. Equality and the test
for zero look at the stored word.

Powers are written `Nat.pow` in definitions: what `^` elaborates to depends on what is imported.
-/

namespace AmountProofs

/-- A scalar, as the word that stores it. -/
structure Scalar where
  word : Word
  deriving DecidableEq, Repr

namespace Scalar

/-- The order of the group, a prime. -/
def order : Nat := Nat.pow 2 252 + 27742317777372353535851937790883648493

def amountBound : Nat := Nat.pow 2 64

/-- The stored value. -/
def toNat (s : Scalar) : Nat := s.word.toNat

/-- The reduced scalar that is congruent to a natural number. -/
def ofNat (n : Nat) : Scalar := ⟨BitVec.ofNat 256 (n % order)⟩

/-- The reduced scalar that is congruent to an integer. -/
def ofInt (n : Int) : Scalar := ofNat (n % order).toNat

def zero : Scalar := ⟨0⟩

def one : Scalar := ofNat 1

/-- An amount as a scalar; it is below the order, so it is stored as it is. -/
def ofAmount (value : Int) : Except Failure Scalar :=
  if 0 ≤ value ∧ value < amountBound then .ok (ofNat value.toNat)
  else .error (.badValue (.amount value))

def isZero (s : Scalar) : Bool := s.word == 0

instance : Add Scalar := ⟨fun a b => ofNat (a.toNat + b.toNat)⟩

instance : Mul Scalar := ⟨fun a b => ofNat (a.toNat * b.toNat)⟩

instance : Neg Scalar := ⟨fun a => ofNat (order - a.toNat % order)⟩

instance : Sub Scalar := ⟨fun a b => ofNat (a.toNat + (order - b.toNat % order))⟩

/-- A power modulo a number, by squaring. -/
def powMod (modulus : Nat) (base exponent : Nat) : Nat :=
  if exponent = 0 then 1 % modulus
  else
    let half := powMod modulus (base * base % modulus) (exponent / 2)
    if exponent % 2 = 1 then base * half % modulus else half
termination_by exponent

/-- The multiplicative inverse, as the power that exists because the order is prime; zero has
none. -/
def invert (s : Scalar) : Except Failure Scalar :=
  if s.isZero then .error .zeroInverse
  else .ok (ofNat (powMod order (s.toNat % order) (order - 2)))

def toBytes (s : Scalar) : Bytes := Word.toBytes s.word

/-- Whether the stored word is reduced. -/
def isCanonical (s : Scalar) : Bool := s.toNat < order

/-- The scalar stored in 32 given bytes, reduced or not. -/
def ofPayload (p : Payload) : Except Failure Scalar := do
  let size ← p.size
  if size ≠ 32 then throw (.badValue (.scalarSize size))
  let b ← p.toBuffer
  return ⟨Word.ofBytes b⟩

/-- The scalar in 32 given bytes if they store a reduced one. -/
def ofCanonical (p : Payload) : Except Failure (Option Scalar) := do
  let size ← p.size
  if size ≠ 32 then return none
  let b ← p.toBytes
  let s : Scalar := ⟨Word.ofBytes b⟩
  return if s.isCanonical then some s else none

/-- A payload of 32 bytes read as a reduced scalar; `role` names it if it has another size, `short`
if it is not reduced. -/
def ofNamed (role short : String) (p : Payload) : Except Failure Scalar := do
  let size ← p.size
  if size ≠ 32 then throw (.malformed s!"{role} must be 32 bytes, got {size}" .null)
  match ← ofCanonical p with
  | some s => return s
  | none => throw (.malformed ("non-canonical " ++ short) .null)

/-- The scalar congruent to the number that 64 bytes spell. -/
def ofWide (b : Vector UInt8 64) : Scalar := ofNat (Bytes.toNat b.toList)

/-- The scalar congruent to the number that 64 given bytes spell. -/
def ofWidePayload (p : Payload) : Except Failure Scalar := do
  let size ← p.size
  if size ≠ 64 then throw (.badValue (.wideScalarSize size))
  let b ← p.toBytes
  return ofNat (Bytes.toNat b)

/-- What is shown of a scalar: nothing, since it may be secret. -/
def display : String := "Scalar(...)"

end Scalar

end AmountProofs
