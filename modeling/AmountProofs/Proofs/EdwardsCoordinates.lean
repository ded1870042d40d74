import AmountProofs.Proofs.EdwardsGroup
import AmountProofs.Proofs.PrimeModuli
import Mathlib.NumberTheory.LegendreSymbol.Basic

/-!
Extended coordinates of the points of the curve.

The arithmetic on natural numbers is that of the field of residues, as long as what is subtracted is
reduced. `Extended.Represents` says that four numbers are extended coordinates of a point of the
curve; sums, doubles, inverses and multiples of represented points represent those of the group.
-/

namespace AmountProofs

namespace Edwards25519

instance : Fact (Nat.Prime prime) := ⟨prime_prime⟩

/-- The field of the curve. -/
abbrev FieldElement : Type := ZMod prime

/-! ## Arithmetic -/

theorem prime_pos : 0 < prime := prime_prime.pos

theorem mul_lt (a b : Nat) : mul a b < prime := Nat.mod_lt _ prime_pos

theorem sub_lt (a b : Nat) : sub a b < prime := Nat.mod_lt _ prime_pos

@[simp] theorem cast_mul (a b : Nat) : (mul a b : FieldElement) = a * b := by
  rw [mul, ZMod.natCast_mod, Nat.cast_mul]

@[simp] theorem cast_add (a b : Nat) : (add a b : FieldElement) = a + b := by
  rw [add, ZMod.natCast_mod, Nat.cast_add]

theorem cast_sub {a b : Nat} (reduced : b < prime) : (sub a b : FieldElement) = a - b := by
  rw [sub, ZMod.natCast_mod, Nat.cast_add, Nat.cast_sub reduced.le, ZMod.natCast_self, zero_sub,
    sub_eq_add_neg]

@[simp] theorem cast_pow (a e : Nat) : (pow a e : FieldElement) = a ^ e := by
  rw [pow, Scalar.powMod_eq, ZMod.natCast_mod, Nat.cast_pow]

/-- A reduced number is the value of its residue. -/
theorem val_cast {a : Nat} (reduced : a < prime) : (a : FieldElement).val = a := by
  rw [ZMod.val_natCast, Nat.mod_eq_of_lt reduced]

theorem eq_of_cast_eq {a b : Nat} (left : a < prime) (right : b < prime)
    (same : (a : FieldElement) = b) : a = b := by
  rw [← val_cast left, ← val_cast right, same]

/-! ## The coefficient -/

/-- The coefficient of the curve as a residue. -/
def coefficient : FieldElement := d

theorem cast_d : (d : FieldElement) = coefficient := rfl

theorem sqrtMinusOne_sq : (sqrtMinusOne : FieldElement) * sqrtMinusOne = -1 := by
  have square : mul sqrtMinusOne sqrtMinusOne = sub 0 1 := by decide +kernel
  have one : 1 < prime := prime_prime.one_lt
  rw [← cast_mul, square, cast_sub one, Nat.cast_zero, Nat.cast_one, zero_sub]

theorem two_ne_zero : (2 : FieldElement) ≠ 0 := by
  intro zero
  have two : 2 < prime := by decide
  have divides := (ZMod.natCast_eq_zero_iff 2 prime).1 zero
  exact absurd (Nat.le_of_dvd Nat.two_pos divides) (Nat.not_le.2 two)

/-- By the criterion of Euler, the coefficient is no square. -/
theorem coefficient_not_isSquare : ¬IsSquare coefficient := by
  have half : pow d (prime / 2) = sub 0 1 := by decide +kernel
  have one : 1 < prime := prime_prime.one_lt
  have minus : coefficient ^ (prime / 2) = -1 := by
    rw [coefficient, ← cast_pow, half, cast_sub one, Nat.cast_zero, Nat.cast_one, zero_sub]
  have proper : coefficient ≠ 0 := by
    intro zero
    rw [zero, zero_pow (by decide)] at minus
    exact neg_ne_zero.2 one_ne_zero minus.symm
  rw [ZMod.euler_criterion prime proper, minus]
  intro same
  exact two_ne_zero (by linear_combination -same)

instance : EdwardsComplete coefficient where
  two_ne_zero := two_ne_zero
  isSquare_neg_one := ⟨sqrtMinusOne, sqrtMinusOne_sq.symm⟩
  not_isSquare := coefficient_not_isSquare

/-- The points of the curve. -/
abbrev CurvePoint : Type := EdwardsPoint coefficient

/-! ## Representing points -/

/-- Reduced numbers that are extended coordinates of a point of the curve. -/
structure Extended.Represents (p : Extended) (P : CurvePoint) : Prop where
  X_lt : p.X < prime
  Y_lt : p.Y < prime
  Z_lt : p.Z < prime
  T_lt : p.T < prime
  Z_ne_zero : (p.Z : FieldElement) ≠ 0
  X_eq : (p.X : FieldElement) = P.x * p.Z
  Y_eq : (p.Y : FieldElement) = P.y * p.Z
  T_eq : (p.T : FieldElement) = P.x * P.y * p.Z

namespace Extended

theorem neutral_represents : neutral.Represents 0 where
  X_lt := prime_pos
  Y_lt := prime_prime.one_lt
  Z_lt := prime_prime.one_lt
  T_lt := prime_pos
  Z_ne_zero := by simp [neutral]
  X_eq := by simp [neutral]
  Y_eq := by simp [neutral]
  T_eq := by simp [neutral]

namespace Represents

variable {p q : Extended} {P Q : CurvePoint}

/-- The neutral element is recognised in any of its coordinates. -/
theorem isNeutral_iff (left : p.Represents P) : p.isNeutral = true ↔ P = 0 := by
  rw [isNeutral, Bool.and_eq_true, beq_iff_eq, beq_iff_eq]
  constructor
  · rintro ⟨zero, same⟩
    have x := left.X_eq
    have y := left.Y_eq
    rw [zero, Nat.cast_zero] at x
    rw [same] at y
    refine EdwardsPoint.ext ?_ ?_
    · exact (mul_eq_zero.1 x.symm).resolve_right left.Z_ne_zero
    · exact mul_right_cancel₀ left.Z_ne_zero (y.symm.trans (one_mul _).symm)
  · rintro rfl
    refine ⟨eq_of_cast_eq left.X_lt prime_pos ?_, eq_of_cast_eq left.Y_lt left.Z_lt ?_⟩
    · rw [left.X_eq, EdwardsPoint.x_zero, zero_mul, Nat.cast_zero]
    · rw [left.Y_eq, EdwardsPoint.y_zero, one_mul]

theorem neg (left : p.Represents P) : p.neg.Represents (-P) where
  X_lt := sub_lt _ _
  Y_lt := left.Y_lt
  Z_lt := left.Z_lt
  T_lt := sub_lt _ _
  Z_ne_zero := left.Z_ne_zero
  X_eq := by
    rw [Extended.neg, cast_sub left.X_lt, left.X_eq, EdwardsPoint.x_neg]
    ring
  Y_eq := left.Y_eq
  T_eq := by
    rw [Extended.neg, cast_sub left.T_lt, left.T_eq, EdwardsPoint.x_neg, EdwardsPoint.y_neg]
    ring

/-- Numerators and denominators of a sum, all multiplied by the same number, are its coordinates. -/
theorem of_scaled {r : Extended} {scale : FieldElement} (proper : scale ≠ 0) (X_lt : r.X < prime)
    (Y_lt : r.Y < prime) (Z_lt : r.Z < prime) (T_lt : r.T < prime)
    (X : (r.X : FieldElement) = scale * (1 - EdwardsPoint.cross P Q) * EdwardsPoint.numeratorX P Q)
    (Y : (r.Y : FieldElement) = scale * (1 + EdwardsPoint.cross P Q) * EdwardsPoint.numeratorY P Q)
    (Z : (r.Z : FieldElement) =
      scale * ((1 - EdwardsPoint.cross P Q) * (1 + EdwardsPoint.cross P Q)))
    (T : (r.T : FieldElement) =
      scale * (EdwardsPoint.numeratorX P Q * EdwardsPoint.numeratorY P Q)) :
    r.Represents (P + Q) := by
  have x := EdwardsPoint.x_add P Q
  have y := EdwardsPoint.y_add P Q
  refine ⟨X_lt, Y_lt, Z_lt, T_lt, ?_, ?_, ?_, ?_⟩
  · rw [Z]
    exact mul_ne_zero proper
      (mul_ne_zero (EdwardsPoint.one_sub_cross_ne_zero P Q) (EdwardsPoint.one_add_cross_ne_zero P Q))
  · rw [X, Z, ← x]
    ring
  · rw [Y, Z, ← y]
    ring
  · rw [T, Z, ← x, ← y]
    ring

/-- The formula without exceptions adds in the group. -/
theorem sum (left : p.Represents P) (right : q.Represents Q) : (p.sum q).Represents (P + Q) := by
  have four : (4 : FieldElement) ≠ 0 := by
    have square : (4 : FieldElement) = 2 ^ 2 := by norm_num
    rw [square]
    exact pow_ne_zero 2 two_ne_zero
  have proper : (4 * (p.Z * q.Z) ^ 2 : FieldElement) ≠ 0 :=
    mul_ne_zero four (pow_ne_zero 2 (mul_ne_zero left.Z_ne_zero right.Z_ne_zero))
  refine of_scaled proper (mul_lt _ _) (mul_lt _ _) (mul_lt _ _) (mul_lt _ _) ?_ ?_ ?_ ?_
  · simp only [Extended.sum, cast_mul, cast_add, cast_sub (mul_lt _ _), cast_sub left.X_lt,
      cast_sub right.X_lt, cast_d, left.X_eq, left.Y_eq, left.T_eq, right.X_eq, right.Y_eq,
      right.T_eq, EdwardsPoint.cross, EdwardsPoint.numeratorX]
    ring
  · simp only [Extended.sum, cast_mul, cast_add, cast_sub left.X_lt, cast_sub right.X_lt, cast_d,
      left.X_eq, left.Y_eq, left.T_eq, right.X_eq, right.Y_eq, right.T_eq, EdwardsPoint.cross,
      EdwardsPoint.numeratorY]
    ring
  · simp only [Extended.sum, cast_mul, cast_add, cast_sub (mul_lt _ _), cast_d, left.T_eq,
      right.T_eq, EdwardsPoint.cross]
    ring
  · simp only [Extended.sum, cast_mul, cast_add, cast_sub (mul_lt _ _), cast_sub left.X_lt,
      cast_sub right.X_lt, left.X_eq, left.Y_eq, right.X_eq, right.Y_eq, EdwardsPoint.numeratorX,
      EdwardsPoint.numeratorY]
    ring

/-- Doubling by its own formula is adding a point to itself; here the equation of the curve is
needed, since that formula does without the coefficient. -/
theorem double (left : p.Represents P) : p.double.Represents (P + P) := by
  have curve := P.on_curve
  have proper : (-p.Z ^ 4 : FieldElement) ≠ 0 := neg_ne_zero.2 (pow_ne_zero 4 left.Z_ne_zero)
  refine of_scaled proper (mul_lt _ _) (mul_lt _ _) (mul_lt _ _) (mul_lt _ _) ?_ ?_ ?_ ?_
  · simp only [Extended.double, cast_mul, cast_add, cast_sub (mul_lt _ _), left.X_eq, left.Y_eq,
      EdwardsPoint.cross, EdwardsPoint.numeratorX, Nat.cast_ofNat]
    linear_combination 2 * p.Z ^ 4 * P.x * P.y * curve
  · simp only [Extended.double, cast_mul, cast_add, cast_sub (mul_lt _ _), left.X_eq, left.Y_eq,
      EdwardsPoint.cross, EdwardsPoint.numeratorY]
    linear_combination -(p.Z : FieldElement) ^ 4 * (P.x ^ 2 + P.y ^ 2) * curve
  · simp only [Extended.double, cast_mul, cast_add, cast_sub (mul_lt _ _), left.X_eq, left.Y_eq,
      EdwardsPoint.cross, Nat.cast_ofNat]
    linear_combination (p.Z : FieldElement) ^ 4 *
      (P.y ^ 2 - P.x ^ 2 - 1 + coefficient * P.x ^ 2 * P.y ^ 2) * curve
  · simp only [Extended.double, cast_mul, cast_add, cast_sub (mul_lt _ _), left.X_eq, left.Y_eq,
      EdwardsPoint.numeratorX, EdwardsPoint.numeratorY]
    ring

/-- Doubling for each binary digit multiplies in the group. -/
theorem times (left : p.Represents P) (n : Nat) : (p.times n).Represents (n • P) := by
  induction n using Nat.strong_induction_on with
  | _ n ih =>
    rw [Extended.times]
    split
    · rename_i zero
      rw [zero, zero_nsmul]
      exact neutral_represents
    · rename_i positive
      have half := (ih (n / 2) (Nat.div_lt_self (Nat.pos_of_ne_zero positive) Nat.one_lt_two)).double
      split
      · rename_i odd
        have split : n • P = (n / 2) • P + (n / 2) • P + P := by
          rw [← add_nsmul, ← succ_nsmul]
          congr 1
          omega
        rw [split]
        exact half.sum left
      · rename_i even
        have split : n • P = (n / 2) • P + (n / 2) • P := by
          rw [← add_nsmul]
          congr 1
          omega
        rw [split]
        exact half

end Represents

end Extended

end Edwards25519

end AmountProofs
