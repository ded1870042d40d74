/-!
Byte strings, and the 256-bit words that 32 of them spell.

Everything that crosses a boundary of the library (an encoded point, a scalar, a proof) is cut
into 32-byte chunks, and a chunk is handled as the number below `2 ^ 256` whose base-256 digits
are its bytes, lowest first. `Word.toBytes` and `Word.ofBytes` are inverse to each other on
chunks, so nothing is lost by that.
-/

namespace AmountProofs

abbrev Bytes := List UInt8

/-- A 32-byte chunk, as a number with the lowest byte first. -/
abbrev Word := BitVec 256

namespace Bytes

/-- The number whose base-256 digits are the bytes, lowest first. -/
def toNat : Bytes → Nat
  | [] => 0
  | b :: rest => b.toNat + 256 * toNat rest

/-- The lowest `width` base-256 digits of a number, lowest first. -/
def ofNat : (width n : Nat) → Bytes
  | 0, _ => []
  | width + 1, n => UInt8.ofNat n :: ofNat width (n / 256)

@[simp] theorem length_ofNat (width n : Nat) : (ofNat width n).length = width := by
  induction width generalizing n with
  | zero => rfl
  | succ width ih => simp [ofNat, ih]

/-- The bytes of an ASCII text. -/
def ofAscii (s : String) : Bytes := s.toList.map fun c => UInt8.ofNat c.toNat

private def hexDigit (n : Nat) : Char := if n < 10 then Char.ofNat (48 + n) else Char.ofNat (87 + n)

/-- Two lower-case hexadecimal digits a byte. -/
def hex (b : Bytes) : String :=
  String.ofList (b.flatMap fun c => [hexDigit (c.toNat / 16), hexDigit (c.toNat % 16)])

/-- The value of a hexadecimal digit of either case. -/
def hexValue? (c : Char) : Option Nat :=
  if '0' ≤ c ∧ c ≤ '9' then some (c.toNat - 48)
  else if 'a' ≤ c ∧ c ≤ 'f' then some (c.toNat - 87)
  else if 'A' ≤ c ∧ c ≤ 'F' then some (c.toNat - 55)
  else none

/-- Reads pairs of hexadecimal digits; `none` at an odd digit or any other character. -/
def ofHex? (s : String) : Option Bytes := go s.toList
where
  go : List Char → Option Bytes
    | [] => some []
    | [_] => none
    | c :: d :: rest => do
      let high ← hexValue? c
      let low ← hexValue? d
      let tail ← go rest
      return UInt8.ofNat (16 * high + low) :: tail

end Bytes

namespace Word

/-- The 32 bytes of a word, lowest first. -/
def toBytes (w : Word) : Bytes := Bytes.ofNat 32 w.toNat

/-- The word that a byte string spells, cut at 256 bits. -/
def ofBytes (b : Bytes) : Word := BitVec.ofNat 256 (Bytes.toNat b)

@[simp] theorem length_toBytes (w : Word) : (toBytes w).length = 32 := by simp [toBytes]

def hex (w : Word) : String := Bytes.hex (toBytes w)

end Word

end AmountProofs
