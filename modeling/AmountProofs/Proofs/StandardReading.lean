import AmountProofs.Proofs.EdwardsEncoding
import AmountProofs.Proofs.GroupReading
import AmountProofs.Suite.Standard
import Mathlib.Algebra.Module.Torsion.Basic

/-!
The suite that is run has a reading.

Its group is that of the points of the curve whose order divides the prime order. Valid words are the
canonical encodings of its elements other than the neutral one (`isValid_iff`), so the base point is
one of them, and the second generator too, since the search for it succeeds.
-/

namespace AmountProofs

namespace Edwards25519

/-! ## The group of prime order -/

/-- The points whose order divides the prime order. -/
abbrev PrimeOrder : AddSubgroup CurvePoint := AddSubgroup.torsionBy CurvePoint Scalar.order

instance : Module Residue PrimeOrder := AddSubgroup.torsionBy.zmodModule

theorem nsmul_order (e : PrimeOrder) : Scalar.order • (e : CurvePoint) = 0 :=
  AddSubgroup.torsionBy.nsmul_iff.1 e.property

theorem coe_value_smul (s : Scalar) (e : PrimeOrder) :
    ((s.value • e : PrimeOrder) : CurvePoint) = s.toNat • (e : CurvePoint) := by
  rw [Scalar.value, Nat.cast_smul_eq_nsmul]
  rfl

/-- A point with `x = 0` is its own inverse, and only the neutral element is so in a group of odd
order. -/
theorem eq_zero_of_x_eq_zero {P : CurvePoint} (torsion : Scalar.order • P = 0) (zero : P.x = 0) :
    P = 0 := by
  have square := x_sq_mul P
  rw [zero] at square
  have twice : P + P = 0 := by
    refine EdwardsPoint.add_eq_of_mul_eq ?_ ?_
    · simp [EdwardsPoint.numeratorX, zero]
    · simp only [EdwardsPoint.cross, EdwardsPoint.numeratorY, zero, EdwardsPoint.y_zero]
      linear_combination square
  have odd : Scalar.order = 2 * (Scalar.order / 2) + 1 := by decide
  rw [odd, add_nsmul, mul_nsmul, two_nsmul, twice, one_nsmul, nsmul_zero, zero_add] at torsion
  exact torsion

/-! ## Valid words -/

theorem decodeValid?_eq_some {w : Word} {q : Extended} (found : decodeValid? w = some q) :
    ∃ e : PrimeOrder, e ≠ 0 ∧ encodePoint e = w ∧ q.Represents e := by
  unfold decodeValid? at found
  split at found
  · rename_i canonical
    obtain ⟨decoded, ordered⟩ := Option.filter_eq_some_iff.1 found
    obtain ⟨P, represents, y, x⟩ := exists_represents decoded
    rw [hasPrimeOrder, Bool.and_eq_true, Bool.not_eq_true'] at ordered
    obtain ⟨proper, torsion⟩ := ordered
    have nonzero : P ≠ 0 := fun zero => ne_true_of_eq_false proper (represents.isNeutral_iff.2 zero)
    have annihilated := (represents.times Scalar.order).isNeutral_iff.1 torsion
    refine ⟨⟨P, AddSubgroup.torsionBy.nsmul_iff.2 annihilated⟩,
      fun zero => nonzero (congrArg Subtype.val zero), ?_, represents⟩
    -- Only here the order matters: decoding drops the parity of `x = 0`.
    have parity := x.resolve_left fun zero => nonzero (eq_zero_of_x_eq_zero annihilated zero)
    have low : P.y.val = w.toNat % 2 ^ 255 := by
      rw [y]
      exact val_cast (of_decide_eq_true canonical)
    apply BitVec.eq_of_toNat_eq
    rw [toNat_encodePoint, low, parity]
    omega
  · cases found

theorem exists_decodeValid? {e : PrimeOrder} (proper : e ≠ 0) :
    ∃ q, decodeValid? (encodePoint e) = some q ∧ q.Represents e := by
  obtain ⟨q, found, represents⟩ := exists_decode?_encodePoint e
  have canonical : isCanonical (encodePoint e) = true := by
    rw [isCanonical, Nat.pow_eq, mod_encodePoint]
    exact decide_eq_true (ZMod.val_lt _)
  have nonzero : q.isNeutral = false := by
    rw [Bool.eq_false_iff, Ne, represents.isNeutral_iff]
    exact fun zero => proper (Subtype.ext zero)
  have torsion : (q.times Scalar.order).isNeutral = true := by
    rw [(represents.times Scalar.order).isNeutral_iff]
    exact nsmul_order e
  have ordered : hasPrimeOrder q = true := by
    rw [hasPrimeOrder, nonzero, torsion]
    rfl
  refine ⟨q, ?_, represents⟩
  rw [decodeValid?, if_pos canonical, found]
  exact Option.filter_eq_some_iff.2 ⟨rfl, ordered⟩

theorem isValid_iff (w : Word) :
    isValid w = true ↔ ∃ e : PrimeOrder, e ≠ 0 ∧ encodePoint e = w := by
  rw [isValid, Option.isSome_iff_exists]
  constructor
  · rintro ⟨q, found⟩
    obtain ⟨e, proper, encoded, -⟩ := decodeValid?_eq_some found
    exact ⟨e, proper, encoded⟩
  · rintro ⟨e, proper, rfl⟩
    obtain ⟨q, found, -⟩ := exists_decodeValid? proper
    exact ⟨q, found⟩

/-! ## Operations on encodings -/

theorem addEncoded_encodePoint (P Q : CurvePoint) :
    addEncoded (encodePoint P) (encodePoint Q) = some (encodePoint (P + Q)) := by
  obtain ⟨p, first, left⟩ := exists_decode?_encodePoint P
  obtain ⟨q, second, right⟩ := exists_decode?_encodePoint Q
  rw [addEncoded, first, second]
  exact congrArg some (left.sum right).encode_eq

theorem subEncoded_encodePoint (P Q : CurvePoint) :
    subEncoded (encodePoint P) (encodePoint Q) = some (encodePoint (P - Q)) := by
  obtain ⟨p, first, left⟩ := exists_decode?_encodePoint P
  obtain ⟨q, second, right⟩ := exists_decode?_encodePoint Q
  rw [subEncoded, first, second, sub_eq_add_neg]
  exact congrArg some (left.sum right.neg).encode_eq

theorem mulEncoded_of_ne_zero {s : Scalar} {e : PrimeOrder} (proper : s.value • e ≠ 0) :
    mulEncoded s (encodePoint e) = some (encodePoint (s.value • e : PrimeOrder)) := by
  have nonzero : e ≠ 0 := by
    rintro rfl
    exact proper (smul_zero _)
  obtain ⟨q, found, represents⟩ := exists_decodeValid? nonzero
  have product := represents.times s.toNat
  rw [← coe_value_smul] at product
  have asked : ¬(q.times s.toNat).isNeutral = true := by
    rw [product.isNeutral_iff]
    exact fun zero => proper (Subtype.ext zero)
  rw [mulEncoded, found]
  exact (if_neg asked).trans (congrArg some product.encode_eq)

theorem mulEncoded_of_eq_zero {s : Scalar} {e : PrimeOrder} (neutral : s.value • e = 0) :
    mulEncoded s (encodePoint e) = none := by
  by_cases zero : e = 0
  · rcases found : decodeValid? (encodePoint e) with _ | q
    · rw [mulEncoded, found]
      rfl
    · obtain ⟨f, proper, same, -⟩ := decodeValid?_eq_some found
      exact absurd (Subtype.ext (encodePoint_injective same)) (by rw [zero]; exact proper)
  · obtain ⟨q, found, represents⟩ := exists_decodeValid? zero
    have product := represents.times s.toNat
    rw [← coe_value_smul, neutral] at product
    rw [mulEncoded, found]
    exact if_pos (product.isNeutral_iff.2 rfl)

theorem encodePoint_zero : encodePoint 0 = Suite.neutralWord := by
  apply BitVec.eq_of_toNat_eq
  rw [toNat_encodePoint]
  decide +kernel

/-- Zero is the encoding of a point of order four. -/
theorem isValid_neutralWire : isValid Suite.neutralWire = false := by
  decide +kernel

theorem isValid_basePoint : isValid basePoint = true := by
  decide +kernel

end Edwards25519

/-! ## The second generator -/

namespace SeededPoint

variable {isValid : Word → Bool} {hash : Bytes → Word} {seed : Bytes}

/-- What is found is valid. -/
theorem isValid_of_search {left counter : Nat} {found : Found}
    (searched : search isValid hash seed left counter = some found) : isValid found.point = true := by
  induction left generalizing counter with
  | zero => cases searched
  | succ left ih =>
    rw [search] at searched
    split at searched
    · rename_i valid
      cases searched
      exact valid
    · exact ih searched

/-- A search that covers a valid hash succeeds. -/
theorem search_isSome {left counter skipped : Nat} (covered : skipped < left)
    (valid : isValid (hash (seed ++ Bytes.ofNat 4 (counter + skipped))) = true) :
    (search isValid hash seed left counter).isSome := by
  induction left generalizing counter skipped with
  | zero => exact absurd covered (Nat.not_lt_zero skipped)
  | succ left ih =>
    rw [search]
    split
    · rfl
    · rename_i invalid
      cases skipped with
      | zero => exact absurd valid invalid
      | succ skipped =>
        refine ih (Nat.lt_of_succ_lt_succ covered) ?_
        rw [Nat.succ_add_eq_add_succ]
        exact valid

end SeededPoint

namespace Suite

/-- The twelfth hash of the seed is valid. -/
theorem isValid_blindingPoint : Edwards25519.isValid blindingPoint = true := by
  have valid : Edwards25519.isValid (Keccak.sha3 (blindingSeed ++ Bytes.ofNat 4 11)) = true := by
    decide +kernel
  have covered : 11 < SeededPoint.maxAttempts := by decide
  have success : (SeededPoint.find Edwards25519.isValid Keccak.sha3 blindingSeed).isSome :=
    SeededPoint.search_isSome covered (by rw [Nat.zero_add]; exact valid)
  obtain ⟨found, searched⟩ := Option.isSome_iff_exists.1 success
  rw [blindingPoint, searched]
  exact SeededPoint.isValid_of_search searched

open Edwards25519 in
/-- The points of prime order read the encodings of the suite that is run. -/
noncomputable def standardReading : standard.Reading PrimeOrder where
  encode e := encodePoint e
  base := ((isValid_iff basePoint).1 isValid_basePoint).choose
  blinding := ((isValid_iff blindingPoint).1 isValid_blindingPoint).choose
  encode_injective := encodePoint_injective.comp Subtype.val_injective
  encode_zero := encodePoint_zero
  isValid_iff := isValid_iff
  isValid_neutralWire := isValid_neutralWire
  add_encode e f := addEncoded_encodePoint e f
  sub_encode e f := subEncoded_encodePoint e f
  mul_encode _ _ proper := mulEncoded_of_ne_zero proper
  mul_refused _ _ neutral := mulEncoded_of_eq_zero neutral
  encode_base := ((isValid_iff basePoint).1 isValid_basePoint).choose_spec.2
  base_ne_zero := ((isValid_iff basePoint).1 isValid_basePoint).choose_spec.1
  encode_blinding := ((isValid_iff blindingPoint).1 isValid_blindingPoint).choose_spec.2
  blinding_ne_zero := ((isValid_iff blindingPoint).1 isValid_blindingPoint).choose_spec.1

end Suite

end AmountProofs
