import AmountProofs.Bytes
import Mathlib.Algebra.Group.Nat.Defs
import Mathlib.Logic.Function.Basic

/-!
Byte strings as numbers.

A byte string spells a number below a power of 256, and a number is read back from its digits, cut
to as many as there are. So 32 bytes and the word that they spell tell each other.
-/

namespace AmountProofs

namespace Bytes

/-- Writing a number in `width` digits and reading it back keeps it modulo `256 ^ width`. -/
theorem toNat_ofNat (width n : Nat) : toNat (ofNat width n) = n % 256 ^ width := by
  induction width generalizing n with
  | zero => simp [ofNat, toNat, Nat.mod_one]
  | succ width ih =>
    have digit : (UInt8.ofNat n).toNat = n % 256 := by simp [UInt8.toNat_ofNat']
    rw [ofNat, toNat, ih, digit, Nat.pow_succ, Nat.mul_comm (256 ^ width) 256,
      Nat.mod_mul]

/-- A byte string of length `k` spells a number below `256 ^ k`. -/
theorem toNat_lt (b : Bytes) : toNat b < 256 ^ b.length := by
  induction b with
  | nil => simp [toNat]
  | cons c rest ih =>
    have digit := c.toNat_lt
    simp only [toNat, List.length_cons, Nat.pow_succ]
    omega

/-- Reading a byte string and writing as many digits gives the string back. -/
theorem ofNat_toNat (b : Bytes) : ofNat b.length (toNat b) = b := by
  induction b with
  | nil => rfl
  | cons c rest ih =>
    have digit := c.toNat_lt
    have low : UInt8.ofNat (c.toNat + 256 * toNat rest) = c := by
      apply UInt8.toNat_inj.1
      simp only [UInt8.toNat_ofNat']
      omega
    have high : (c.toNat + 256 * toNat rest) / 256 = toNat rest := by omega
    simp only [List.length_cons, toNat, ofNat, low, high, ih]

/-- A number that fits its digits is told by them. -/
theorem ofNat_inj_of_lt {width m n : Nat} (left : m < 256 ^ width) (right : n < 256 ^ width)
    (same : ofNat width m = ofNat width n) : m = n := by
  have read := congrArg toNat same
  rwa [toNat_ofNat, toNat_ofNat, Nat.mod_eq_of_lt left, Nat.mod_eq_of_lt right] at read

end Bytes

namespace Word

theorem toNat_ofBytes {b : Bytes} (sized : b.length = 32) :
    (ofBytes b).toNat = Bytes.toNat b := by
  have bound := Bytes.toNat_lt b
  rw [sized] at bound
  rw [ofBytes, BitVec.toNat_ofNat]
  exact Nat.mod_eq_of_lt bound

@[simp] theorem ofBytes_toBytes (w : Word) : ofBytes (toBytes w) = w := by
  apply BitVec.eq_of_toNat_eq
  have bound := w.isLt
  simp only [ofBytes, toBytes, Bytes.toNat_ofNat, BitVec.toNat_ofNat]
  omega

theorem toBytes_ofBytes {b : Bytes} (sized : b.length = 32) : toBytes (ofBytes b) = b := by
  have back := Bytes.ofNat_toNat b
  rw [sized] at back
  rw [toBytes, toNat_ofBytes sized, back]

theorem toBytes_injective : Function.Injective toBytes :=
  Function.LeftInverse.injective ofBytes_toBytes

end Word

end AmountProofs
