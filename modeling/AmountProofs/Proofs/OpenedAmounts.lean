import AmountProofs.Encryption
import AmountProofs.Proofs.GroupReading

/-!
Commitments and ciphertexts, read in the group.

An integer `x` with an integer `r` as opening is committed to by `x • base + r • blinding` and
encrypted under a key by that together with `r • key` (`Suite.Reading.commitment`,
`Suite.Reading.ciphertext`). Amounts and openings in range give such commitments and ciphertexts and
are never refused; sums and differences of these are those of the integers behind them, which may
leave the range; and the secret key takes the opening's part away again.
-/

namespace AmountProofs

variable {S : Suite} {E : Type} [AddCommGroup E] [Module Residue E]

/-- An amount that fits eight bytes, with a reduced opening. -/
structure Opened where
  amount : Int
  opening : Opening
  low : 0 ≤ amount
  high : amount < 2 ^ 64
  reduced : opening.scalar.isCanonical = true

namespace Scalar

/-- The integer that a stored scalar spells stands for its residue. -/
theorem cast_toNat (s : Scalar) : ((s.toNat : Int) : Residue) = s.value := by
  rw [Int.cast_natCast, value]

/-- Amounts in range are told apart by their residues. -/
theorem cast_inj_of_lt {x y : Int} (lowLeft : 0 ≤ x) (highLeft : x < 2 ^ 64) (lowRight : 0 ≤ y)
    (highRight : y < 2 ^ 64) : (x : Residue) = y ↔ x = y := by
  have room : (2 : Int) ^ 64 < order := by decide
  rw [ZMod.intCast_eq_intCast_iff', Int.emod_eq_of_lt lowLeft (highLeft.trans room),
    Int.emod_eq_of_lt lowRight (highRight.trans room)]

end Scalar

namespace Suite.Reading

variable (R : S.Reading E)

/-! ## Commitments -/

/-- The commitment to an integer with an integer as opening. -/
def commitment (x r : Int) : Commitment S :=
  ⟨R.point ((x : Residue) • R.base + (r : Residue) • R.blinding)⟩

theorem commitment_zero : R.commitment 0 0 = ⟨.neutral⟩ := by
  rw [commitment, Int.cast_zero, zero_smul, zero_smul, add_zero, R.point_zero]

theorem commitment_add (x r y t : Int) :
    (R.commitment x r).add (R.commitment y t) = .ok (R.commitment (x + y) (r + t)) := by
  have same : ((x : Residue) • R.base + (r : Residue) • R.blinding) +
      ((y : Residue) • R.base + (t : Residue) • R.blinding) =
      ((x + y : Int) : Residue) • R.base + ((r + t : Int) : Residue) • R.blinding := by
    rw [Int.cast_add, Int.cast_add, add_smul, add_smul]
    abel
  rw [Commitment.add, commitment, commitment, R.add_point, same]
  rfl

theorem commitment_sub (x r y t : Int) :
    (R.commitment x r).sub (R.commitment y t) = .ok (R.commitment (x - y) (r - t)) := by
  have same : ((x : Residue) • R.base + (r : Residue) • R.blinding) -
      ((y : Residue) • R.base + (t : Residue) • R.blinding) =
      ((x - y : Int) : Residue) • R.base + ((r - t : Int) : Residue) • R.blinding := by
    rw [Int.cast_sub, Int.cast_sub, sub_smul, sub_smul]
    abel
  rw [Commitment.sub, commitment, commitment, R.sub_point, same]
  rfl

/-- An amount in range is committed to with any reduced opening. -/
theorem create_eq_ok {x : Int} (low : 0 ≤ x) (high : x < 2 ^ 64) {r : Opening}
    (reduced : r.scalar.isCanonical = true) :
    Commitment.create x r = .ok (R.commitment x r.scalar.toNat) := by
  have left := R.mul_point (.of_isCanonical (Scalar.isCanonical_ofNat x.toNat)) R.base
  have right := R.mul_point (.of_isCanonical reduced) R.blinding
  rw [R.point_base, Scalar.value_ofNat_toNat low] at left
  rw [R.point_blinding, ← Scalar.cast_toNat] at right
  simp only [Commitment.create, Scalar.ofAmount_eq_ok low high, left, right, R.add_point, bind,
    Except.bind]
  rfl

/-! ## Ciphertexts -/

/-- The ciphertext of an integer under a key, with an integer as opening. -/
def ciphertext (key : E) (x r : Int) : Ciphertext S :=
  ⟨R.commitment x r, ⟨R.point ((r : Residue) • key)⟩⟩

variable (key : E)

theorem ciphertext_zero : R.ciphertext key 0 0 = .zero := by
  rw [ciphertext, R.commitment_zero, Int.cast_zero, zero_smul, R.point_zero]
  rfl

theorem ciphertext_add (x r y t : Int) :
    (R.ciphertext key x r).add (R.ciphertext key y t) =
      .ok (R.ciphertext key (x + y) (r + t)) := by
  have handles : (Handle.add ⟨R.point ((r : Residue) • key)⟩ ⟨R.point ((t : Residue) • key)⟩) =
      .ok ⟨R.point (((r + t : Int) : Residue) • key)⟩ := by
    rw [Handle.add, R.add_point, Int.cast_add, add_smul]
    rfl
  simp only [Ciphertext.add, ciphertext, R.commitment_add, handles, bind, Except.bind]
  rfl

theorem ciphertext_sub (x r y t : Int) :
    (R.ciphertext key x r).sub (R.ciphertext key y t) =
      .ok (R.ciphertext key (x - y) (r - t)) := by
  have handles : (Handle.sub ⟨R.point ((r : Residue) • key)⟩ ⟨R.point ((t : Residue) • key)⟩) =
      .ok ⟨R.point (((r - t : Int) : Residue) • key)⟩ := by
    rw [Handle.sub, R.sub_point, Int.cast_sub, sub_smul]
    rfl
  simp only [Ciphertext.sub, ciphertext, R.commitment_sub, handles, bind, Except.bind]
  rfl

/-- An amount in range is encrypted under any key of the group, with any reduced opening. -/
theorem encryptWith_eq_ok {x : Int} (low : 0 ≤ x) (high : x < 2 ^ 64) {r : Opening}
    (reduced : r.scalar.isCanonical = true) :
    (⟨R.point key⟩ : PublicKey S).encryptWith x r = .ok (R.ciphertext key x r.scalar.toNat) := by
  have handle := R.mul_point (.of_isCanonical reduced) key
  rw [← Scalar.cast_toNat] at handle
  simp only [PublicKey.encryptWith, R.create_eq_ok low high reduced, PublicKey.handle, handle, bind,
    Except.bind]
  rfl

/-- The secret that a key belongs to decrypts, whatever the opening is. -/
theorem decrypt_ciphertext {s : SecretKey} (canonical : s.scalar.isCanonical = true) {key : E}
    (matching : s.scalar.value • key = R.blinding) (x r : Int) :
    s.decrypt (R.ciphertext key x r) = .ok (R.point ((x : Residue) • R.base)) := by
  have shared := R.mul_point (.of_isCanonical canonical) ((r : Residue) • key)
  rw [smul_comm, matching] at shared
  simp only [SecretKey.decrypt, ciphertext, commitment, shared, R.sub_point, add_sub_cancel_right,
    bind, Except.bind]

/-- Multiples of the generator of amounts are told apart modulo the order of the group. -/
theorem point_smul_base_eq_iff (m n : Int) :
    R.point ((m : Residue) • R.base) = R.point ((n : Residue) • R.base) ↔
      m ≡ n [ZMOD Scalar.order] := by
  rw [R.point_injective.eq_iff, (smul_left_injective Residue R.base_ne_zero).eq_iff,
    ZMod.intCast_eq_intCast_iff]

end Suite.Reading

/-! ## Keys -/

/-- The public key of a secret other than zero. -/
theorem PublicKey.ofSecret_eq_ok (R : S.Reading E) {s : SecretKey}
    (nonzero : s.scalar.isZero = false) :
    PublicKey.ofSecret s = .ok ⟨R.point (s.scalar.value⁻¹ • R.blinding)⟩ := by
  obtain ⟨inverse, inverted, reduced, value⟩ := Scalar.invert_eq_ok nonzero
  have product := R.mul_point (.of_isCanonical reduced) R.blinding
  rw [R.point_blinding, value] at product
  simp only [ofSecret, nonzero, inverted, product, bind, Except.bind, pure, Except.pure,
    Bool.false_eq_true, if_false]

/-- A secret takes its public key back to the generator of openings. -/
theorem SecretKey.smul_inv_smul (R : S.Reading E) {s : SecretKey}
    (canonical : s.scalar.isCanonical = true) (nonzero : s.scalar.isZero = false) :
    s.scalar.value • s.scalar.value⁻¹ • R.blinding = R.blinding := by
  rw [smul_smul, mul_inv_cancel₀ (Scalar.value_ne_zero canonical nonzero), one_smul]

end AmountProofs
