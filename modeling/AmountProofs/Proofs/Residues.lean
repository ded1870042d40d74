import AmountProofs.Proofs.PrimeModuli
import Mathlib.FieldTheory.Finite.Basic

/-!
Scalars as residues modulo the order of the group.

`Scalar.value` reads any stored word as a residue. The arithmetic of scalars is that of the field of
residues, whatever words its operands store, and its results are stored reduced; among reduced words
a residue has exactly one.
-/

namespace AmountProofs

instance : Fact (Nat.Prime Scalar.order) := ⟨Scalar.order_prime⟩

/-- The integers modulo the order of the group. -/
abbrev Residue : Type := ZMod Scalar.order

namespace Scalar

/-- The residue that a stored scalar stands for. -/
def value (s : Scalar) : Residue := (s.toNat : Residue)

/-- A scalar whose top bit is clear: the curve takes it as it is stored, and would ignore that bit. -/
def TopBitClear (s : Scalar) : Prop := s.toNat < 2 ^ 255

/-- A scalar that the curve multiplies with as it is stored: the top bit is clear, and no other
multiple of the order than zero is stored. -/
structure Admissible (s : Scalar) : Prop where
  clear : s.TopBitClear
  isZero_of_value : s.value = 0 → s.isZero = true

theorem order_pos : 0 < order := order_prime.pos

theorem order_lt_topBit : order < 2 ^ 255 := by decide

/-! ## Reduced words -/

@[simp] theorem toNat_ofNat (n : Nat) : (ofNat n).toNat = n % order := by
  have reduced : n % order < order := Nat.mod_lt n order_pos
  have bound := order_lt_topBit
  simp only [ofNat, toNat, BitVec.toNat_ofNat]
  omega

theorem isCanonical_iff {s : Scalar} : s.isCanonical = true ↔ s.toNat < order := by
  simp [isCanonical]

@[simp] theorem isCanonical_ofNat (n : Nat) : (ofNat n).isCanonical = true := by
  rw [isCanonical_iff, toNat_ofNat]
  exact Nat.mod_lt n order_pos

theorem TopBitClear.of_isCanonical {s : Scalar} (canonical : s.isCanonical = true) :
    s.TopBitClear :=
  (isCanonical_iff.1 canonical).trans order_lt_topBit

theorem toNat_injective : Function.Injective toNat := by
  rintro ⟨v⟩ ⟨w⟩ same
  exact congrArg Scalar.mk (BitVec.eq_of_toNat_eq same)

/-- Among reduced scalars the residue decides. -/
theorem eq_of_value_eq {s t : Scalar} (left : s.isCanonical = true) (right : t.isCanonical = true)
    (same : s.value = t.value) : s = t := by
  rw [isCanonical_iff] at left right
  rw [value, value, ZMod.natCast_eq_natCast_iff', Nat.mod_eq_of_lt left, Nat.mod_eq_of_lt right]
    at same
  exact toNat_injective same

theorem isZero_iff {s : Scalar} : s.isZero = true ↔ s.toNat = 0 := by
  rw [isZero, beq_iff_eq, toNat, ← BitVec.toNat_inj]
  rfl

/-- A reduced scalar stores zero exactly if its residue is zero. -/
theorem isZero_iff_value {s : Scalar} (canonical : s.isCanonical = true) :
    s.isZero = true ↔ s.value = 0 := by
  rw [isZero_iff, value, ZMod.natCast_eq_zero_iff]
  constructor
  · intro zero
    rw [zero]
    exact dvd_zero order
  · exact fun divides => Nat.eq_zero_of_dvd_of_lt divides (isCanonical_iff.1 canonical)

theorem value_ne_zero {s : Scalar} (canonical : s.isCanonical = true)
    (nonzero : s.isZero = false) : s.value ≠ 0 := by
  rw [Ne, ← isZero_iff_value canonical, nonzero]
  exact Bool.false_ne_true

theorem Admissible.of_isCanonical {s : Scalar} (canonical : s.isCanonical = true) :
    s.Admissible :=
  ⟨.of_isCanonical canonical, (isZero_iff_value canonical).2⟩

/-- A reduced scalar other than zero has a second admissible form, which is not reduced. -/
theorem exists_admissible_of_isCanonical {s : Scalar} (canonical : s.isCanonical = true)
    (nonzero : s.isZero = false) :
    ∃ z : Scalar, z.Admissible ∧ z.value = s.value ∧ z.isCanonical = false := by
  have reduced := isCanonical_iff.1 canonical
  have stored : (⟨BitVec.ofNat 256 (s.toNat + order)⟩ : Scalar).toNat = s.toNat + order := by
    have room : order + order < 2 ^ 255 := by decide
    simp only [toNat, BitVec.toNat_ofNat] at reduced ⊢
    omega
  have same : (⟨BitVec.ofNat 256 (s.toNat + order)⟩ : Scalar).value = s.value := by
    rw [value, stored, Nat.cast_add, ZMod.natCast_self, add_zero, value]
  refine ⟨_, ⟨?_, fun zero => ?_⟩, same, ?_⟩
  · have room : order + order < 2 ^ 255 := by decide
    unfold TopBitClear
    omega
  · exact absurd (same.symm.trans zero) (value_ne_zero canonical nonzero)
  · rw [Bool.eq_false_iff, Ne, isCanonical_iff, stored]
    omega

/-! ## Arithmetic -/

@[simp] theorem value_ofNat (n : Nat) : (ofNat n).value = n := by
  rw [value, toNat_ofNat, ZMod.natCast_mod]

@[simp] theorem value_zero : zero.value = 0 := by simp [zero, value, toNat]

@[simp] theorem value_one : one.value = 1 := by rw [one, value_ofNat, Nat.cast_one]

private theorem value_complement (n : Nat) : ((order - n % order : Nat) : Residue) = -n := by
  rw [Nat.cast_sub (Nat.mod_lt n order_pos).le, ZMod.natCast_self, ZMod.natCast_mod, zero_sub]

@[simp] theorem value_add (s t : Scalar) : (s + t).value = s.value + t.value := by
  change (ofNat (s.toNat + t.toNat)).value = _
  rw [value_ofNat, Nat.cast_add, value, value]

@[simp] theorem value_mul (s t : Scalar) : (s * t).value = s.value * t.value := by
  change (ofNat (s.toNat * t.toNat)).value = _
  rw [value_ofNat, Nat.cast_mul, value, value]

@[simp] theorem value_neg (s : Scalar) : (-s).value = -s.value := by
  change (ofNat (order - s.toNat % order)).value = _
  rw [value_ofNat, value_complement, value]

@[simp] theorem value_sub (s t : Scalar) : (s - t).value = s.value - t.value := by
  change (ofNat (s.toNat + (order - t.toNat % order))).value = _
  rw [value_ofNat, Nat.cast_add, value_complement, value, value, sub_eq_add_neg]

@[simp] theorem isCanonical_add (s t : Scalar) : (s + t).isCanonical = true :=
  isCanonical_ofNat _

@[simp] theorem isCanonical_sub (s t : Scalar) : (s - t).isCanonical = true :=
  isCanonical_ofNat _

@[simp] theorem isCanonical_mul (s t : Scalar) : (s * t).isCanonical = true :=
  isCanonical_ofNat _

@[simp] theorem isCanonical_neg (s : Scalar) : (-s).isCanonical = true := isCanonical_ofNat _

theorem value_ofNat_toNat {x : Int} (low : 0 ≤ x) : (ofNat x.toNat).value = (x : Residue) := by
  rw [value_ofNat, ← Int.cast_natCast, Int.toNat_of_nonneg low]

@[simp] theorem value_ofInt (x : Int) : (ofInt x).value = (x : Residue) := by
  have positive : (order : Int) ≠ 0 := by decide
  rw [ofInt, value_ofNat_toNat (Int.emod_nonneg x positive), ZMod.intCast_mod]

@[simp] theorem isCanonical_ofInt (x : Int) : (ofInt x).isCanonical = true := isCanonical_ofNat _

/-- The inverse of a scalar other than zero is reduced and stands for the inverse residue. -/
theorem invert_eq_ok {s : Scalar} (nonzero : s.isZero = false) :
    ∃ t, s.invert = .ok t ∧ t.isCanonical = true ∧ t.value = s.value⁻¹ := by
  refine ⟨_, by rw [invert, nonzero]; rfl, isCanonical_ofNat _, ?_⟩
  rw [value_ofNat, powMod_eq, ZMod.natCast_mod, Nat.cast_pow, ZMod.natCast_mod, value]
  by_cases zero : (s.toNat : Residue) = 0
  · have positive : order - 2 ≠ 0 := by decide
    rw [zero, inv_zero, zero_pow positive]
  · have split : order - 1 = order - 2 + 1 := by decide
    have fermat := ZMod.pow_card_sub_one_eq_one zero
    rw [split, pow_succ] at fermat
    exact eq_inv_of_mul_eq_one_left fermat

/-- An amount in range is a reduced scalar. -/
theorem ofAmount_eq_ok {amount : Int} (low : 0 ≤ amount) (high : amount < amountBound) :
    ofAmount amount = .ok (ofNat amount.toNat) := if_pos ⟨low, high⟩

@[simp] theorem isCanonical_ofWide (b : Vector UInt8 64) : (ofWide b).isCanonical = true :=
  isCanonical_ofNat _

end Scalar

end AmountProofs
