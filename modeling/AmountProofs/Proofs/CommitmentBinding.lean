import AmountProofs.Proofs.OpenedAmounts
import AmountProofs.Proofs.StandardReading

/-!
What a commitment binds.

A commitment is one point for two numbers, so it may have several openings; but whoever knows two of
them knows how the generators relate. Two openings of one commitment differ in the amount and in the
scalar if they differ at all, and then the quotient of the differences is the discrete logarithm of
the generator of openings (`Suite.Reading.commitment_eq_iff`). A ciphertext has its handle
besides, which fixes the opening under any key but the neutral one, so it has one opening only
(`Suite.Reading.ciphertext_eq_iff`).
-/

namespace AmountProofs

variable {S : Suite} {E : Type} [AddCommGroup E] [Module Residue E]

namespace Suite.Reading

variable (R : S.Reading E)

/-- Two commitments are equal exactly if the difference of the amounts balances that of the
openings. -/
theorem commitment_eq_iff_balance (x r y t : Int) :
    R.commitment x r = R.commitment y t ↔
      ((x : Residue) - y) • R.base = ((t : Residue) - r) • R.blinding := by
  rw [commitment, commitment, Commitment.mk.injEq, R.point_injective.eq_iff, sub_smul, sub_smul,
    sub_eq_sub_iff_add_eq_add, add_comm ((t : Residue) • R.blinding)]

/-- Two openings of one commitment are the same, or both halves differ and their quotient is the
discrete logarithm of the generator of openings. -/
theorem commitment_eq_iff (x r y t : Int) :
    R.commitment x r = R.commitment y t ↔
      (x : Residue) = y ∧ (r : Residue) = t ∨
      (x : Residue) ≠ y ∧ (r : Residue) ≠ t ∧
        R.blinding = (((x : Residue) - y) / ((t : Residue) - r)) • R.base := by
  rw [commitment_eq_iff_balance]
  by_cases sameOpening : (r : Residue) = t
  · have vanishes : ((t : Residue) - r) • R.blinding = 0 := by
      rw [sameOpening, sub_self, zero_smul]
    rw [vanishes, smul_eq_zero, or_iff_left R.base_ne_zero, sub_eq_zero]
    constructor
    · intro sameAmount
      exact .inl ⟨sameAmount, sameOpening⟩
    · rintro (⟨sameAmount, -⟩ | ⟨-, other, -⟩)
      · exact sameAmount
      · exact absurd sameOpening other
  · have unit : (t : Residue) - r ≠ 0 := sub_ne_zero.2 (Ne.symm sameOpening)
    constructor
    · intro balance
      refine .inr ⟨?_, sameOpening, ?_⟩
      · intro sameAmount
        rw [sameAmount, sub_self, zero_smul] at balance
        exact smul_ne_zero unit R.blinding_ne_zero balance.symm
      · calc R.blinding = ((t : Residue) - r)⁻¹ • ((t : Residue) - r) • R.blinding := by
              rw [smul_smul, inv_mul_cancel₀ unit, one_smul]
          _ = ((t : Residue) - r)⁻¹ • ((x : Residue) - y) • R.base := by rw [balance]
          _ = (((x : Residue) - y) / ((t : Residue) - r)) • R.base := by
              rw [smul_smul, div_eq_inv_mul]
    · rintro (⟨-, same⟩ | ⟨-, -, relation⟩)
      · exact absurd same sameOpening
      · rw [relation, smul_smul, mul_div_cancel₀ _ unit]

/-- A ciphertext under a key that is not neutral has one opening. -/
theorem ciphertext_eq_iff {key : E} (proper : key ≠ 0) (x r y t : Int) :
    R.ciphertext key x r = R.ciphertext key y t ↔ (x : Residue) = y ∧ (r : Residue) = t := by
  constructor
  · intro same
    have handles : (r : Residue) • key = (t : Residue) • key :=
      R.point_injective (congrArg (fun c => c.handle.point) same)
    have sameOpening : (r : Residue) = t := smul_left_injective Residue proper handles
    have commitments : R.commitment x r = R.commitment y t := congrArg Ciphertext.commitment same
    rcases (R.commitment_eq_iff x r y t).1 commitments with both | ⟨-, other, -⟩
    · exact both
    · exact absurd sameOpening other
  · rintro ⟨amounts, openings⟩
    rw [ciphertext, ciphertext, commitment, commitment, amounts, openings]

end Suite.Reading

/-! ## Amounts and openings in range -/

namespace Opened

variable (a b : Opened)

theorem cast_amount_inj : (a.amount : Residue) = b.amount ↔ a.amount = b.amount :=
  Scalar.cast_inj_of_lt a.low a.high b.low b.high

theorem value_opening_inj : a.opening.scalar.value = b.opening.scalar.value ↔
    a.opening = b.opening := by
  constructor
  · intro same
    exact congrArg Opening.mk (Scalar.eq_of_value_eq a.reduced b.reduced same)
  · intro same
    rw [same]

/-- Commitments are made of any amounts and openings in range. They compare equal exactly if both
halves are the same, or both differ and give away the discrete logarithm of the generator of
openings. Ciphertexts of them under one key that is not neutral compare equal exactly if both halves
are the same. -/
theorem commitments_beq_iff (R : S.Reading E) :
    (∃ c d : Commitment S, Commitment.create a.amount a.opening = .ok c ∧
      Commitment.create b.amount b.opening = .ok d ∧
      ((c == d) = true ↔
        a.amount = b.amount ∧ a.opening = b.opening ∨
        a.amount ≠ b.amount ∧ a.opening ≠ b.opening ∧
          R.blinding = (((a.amount : Residue) - b.amount) /
            (b.opening.scalar.value - a.opening.scalar.value)) • R.base)) ∧
    ∀ key : PublicKey S, key.point ∈ R.points → key.point ≠ .neutral →
      ∃ c d : Ciphertext S, key.encryptWith a.amount a.opening = .ok c ∧
        key.encryptWith b.amount b.opening = .ok d ∧
        ((c == d) = true ↔ a.amount = b.amount ∧ a.opening = b.opening) := by
  constructor
  · refine ⟨_, _, R.create_eq_ok a.low a.high a.reduced, R.create_eq_ok b.low b.high b.reduced, ?_⟩
    rw [beq_iff_eq, R.commitment_eq_iff, Scalar.cast_toNat, Scalar.cast_toNat, Ne, Ne,
      cast_amount_inj, value_opening_inj]
  · rintro ⟨_⟩ ⟨key, rfl⟩ proper
    refine ⟨_, _, R.encryptWith_eq_ok key a.low a.high a.reduced,
      R.encryptWith_eq_ok key b.low b.high b.reduced, ?_⟩
    have nonzero : key ≠ 0 := by
      rintro rfl
      exact proper R.point_zero
    rw [beq_iff_eq, R.ciphertext_eq_iff nonzero, Scalar.cast_toNat, Scalar.cast_toNat,
      cast_amount_inj, value_opening_inj]

/-- The amounts five and seven with the opening three give different commitments, and different
ciphertexts under the generator of amounts as a key. -/
theorem commitments_beq_iff_of_five_seven :
    let r : Opening := ⟨.ofNat 3⟩
    let key : PublicKey Suite.standard := ⟨.base⟩
    (∃ c d : Commitment Suite.standard, Commitment.create 5 r = .ok c ∧
      Commitment.create 7 r = .ok d ∧ c ≠ d) ∧
    ∃ c d, key.encryptWith 5 r = .ok c ∧ key.encryptWith 7 r = .ok d ∧ c ≠ d := by
  intro r key
  have R := Suite.standardReading
  have reduced : r.scalar.isCanonical = true := Scalar.isCanonical_ofNat 3
  let five : Opened := ⟨5, r, by decide, by decide, reduced⟩
  let seven : Opened := ⟨7, r, by decide, by decide, reduced⟩
  obtain ⟨⟨c, d, first, second, same_iff⟩, encrypted⟩ := commitments_beq_iff five seven R
  have distinct : (5 : Int) ≠ 7 := by decide
  have proper : key.point ≠ .neutral := by
    intro neutral
    apply R.base_ne_zero
    calc R.base = R.read .base := R.read_base.symm
      _ = R.read .neutral := congrArg R.read neutral
      _ = 0 := R.read_neutral
  obtain ⟨e, f, third, fourth, same_iff'⟩ := encrypted key R.base_mem proper
  refine ⟨⟨c, d, first, second, ?_⟩, e, f, third, fourth, ?_⟩
  · intro same
    rcases same_iff.1 (beq_iff_eq.2 same) with ⟨amounts, -⟩ | ⟨-, openings, -⟩
    · exact distinct amounts
    · exact openings rfl
  · intro same
    exact distinct (same_iff'.1 (beq_iff_eq.2 same)).1

end Opened

end AmountProofs
