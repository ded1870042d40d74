import Mathlib.Algebra.Field.Basic
import Mathlib.Algebra.Group.Even
import Mathlib.Tactic.FieldSimp
import Mathlib.Tactic.LinearCombination
import Mathlib.Tactic.Ring

/-!
The group of a twisted Edwards curve `-x² + y² = 1 + d x² y²`.

Where minus one is a square and `d` is none, the denominators of the addition formula never vanish,
so that one formula adds all pairs of points. The laws of a commutative group are then identities of
polynomials modulo the equations of the points.
-/

namespace AmountProofs

variable {F : Type} [Field F] {d : F}

/-- The points of a twisted Edwards curve. -/
@[ext]
structure EdwardsPoint {F : Type} [Field F] (d : F) where
  x : F
  y : F
  on_curve : y ^ 2 - x ^ 2 = 1 + d * x ^ 2 * y ^ 2

/-- The addition formula of a coefficient has no exceptions. -/
class EdwardsComplete {F : Type} [Field F] (d : F) : Prop where
  two_ne_zero : (2 : F) ≠ 0
  isSquare_neg_one : IsSquare (-1 : F)
  not_isSquare : ¬IsSquare d

namespace EdwardsPoint

/-! ## Denominators -/

/-- What is added to and taken from one in the denominators. -/
def cross (P Q : EdwardsPoint d) : F := d * P.x * Q.x * P.y * Q.y

/-- The numerator of the `x` of a sum. -/
def numeratorX (P Q : EdwardsPoint d) : F := P.x * Q.y + P.y * Q.x

/-- The numerator of the `y` of a sum. -/
def numeratorY (P Q : EdwardsPoint d) : F := P.y * Q.y + P.x * Q.x

theorem cross_comm (P Q : EdwardsPoint d) : cross P Q = cross Q P := by
  unfold cross
  ring

/-- With a product of the coordinates that squares to one, `d` would be a square, or a point that is
on the curve would have `y = 0` and leave no product. -/
theorem cross_sq_ne_one [complete : EdwardsComplete d] (P Q : EdwardsPoint d) :
    cross P Q ^ 2 ≠ 1 := by
  intro one
  obtain ⟨i, minus⟩ := complete.isSquare_neg_one
  have product : d * P.x * Q.x * P.y * Q.y ≠ 0 := by
    intro zero
    rw [cross, zero, zero_pow two_ne_zero] at one
    exact zero_ne_one one
  -- For both signs: unless it vanishes, `d` times one square is another square.
  have vanishes (s : F) (sign : s ^ 2 = 1) : Q.y + s * i * Q.x = 0 := by
    by_contra nonzero
    have denominator : P.x * P.y * (Q.y + s * i * Q.x) ≠ 0 := by
      refine mul_ne_zero (fun zero => product ?_) nonzero
      linear_combination d * Q.x * Q.y * zero
    have square : d * (P.x * P.y * (Q.y + s * i * Q.x)) ^ 2 =
        (P.y + s * i * cross P Q * P.x) ^ 2 := by
      have turn : (s * i) ^ 2 = -1 := by linear_combination i * i * sign - minus
      unfold cross at one ⊢
      linear_combination
        (d * P.x ^ 2 * P.y ^ 2 * Q.x ^ 2 - (d * P.x * Q.x * P.y * Q.y) ^ 2 * P.x ^ 2) * turn +
          d * P.x ^ 2 * P.y ^ 2 * Q.on_curve - P.on_curve + (1 + P.x ^ 2) * one
    refine complete.not_isSquare ⟨(P.y + s * i * cross P Q * P.x) /
      (P.x * P.y * (Q.y + s * i * Q.x)), ?_⟩
    rw [div_mul_div_comm, eq_div_iff (mul_ne_zero denominator denominator), ← pow_two, ← pow_two,
      square]
  have plus := vanishes 1 (one_pow 2)
  have minus := vanishes (-1) (by ring)
  have twice : 2 * Q.y = 0 := by linear_combination plus + minus
  rcases mul_eq_zero.1 twice with two | zero
  · exact complete.two_ne_zero two
  · exact product (by rw [zero, mul_zero])

theorem one_add_cross_ne_zero [EdwardsComplete d] (P Q : EdwardsPoint d) : 1 + cross P Q ≠ 0 := by
  intro zero
  exact cross_sq_ne_one P Q (by linear_combination (cross P Q - 1) * zero)

theorem one_sub_cross_ne_zero [EdwardsComplete d] (P Q : EdwardsPoint d) : 1 - cross P Q ≠ 0 := by
  intro zero
  exact cross_sq_ne_one P Q (by linear_combination -(cross P Q + 1) * zero)

/-! ## Operations -/

instance : Zero (EdwardsPoint d) := ⟨⟨0, 1, by ring⟩⟩

instance : Neg (EdwardsPoint d) := ⟨fun P => ⟨-P.x, P.y, by linear_combination P.on_curve⟩⟩

@[simp] theorem x_zero : (0 : EdwardsPoint d).x = 0 := rfl

@[simp] theorem y_zero : (0 : EdwardsPoint d).y = 1 := rfl

@[simp] theorem x_neg (P : EdwardsPoint d) : (-P).x = -P.x := rfl

@[simp] theorem y_neg (P : EdwardsPoint d) : (-P).y = P.y := rfl

variable [EdwardsComplete d]

instance : Add (EdwardsPoint d) where
  add P Q :=
    { x := numeratorX P Q / (1 + cross P Q)
      y := numeratorY P Q / (1 - cross P Q)
      on_curve := by
        have plus := one_add_cross_ne_zero P Q
        have minus := one_sub_cross_ne_zero P Q
        have first := P.on_curve
        have second := Q.on_curve
        field_simp
        unfold cross numeratorX numeratorY
        grind }

theorem x_add (P Q : EdwardsPoint d) : (P + Q).x * (1 + cross P Q) = numeratorX P Q :=
  div_mul_cancel₀ _ (one_add_cross_ne_zero P Q)

theorem y_add (P Q : EdwardsPoint d) : (P + Q).y * (1 - cross P Q) = numeratorY P Q :=
  div_mul_cancel₀ _ (one_sub_cross_ne_zero P Q)

/-- Coordinates that solve the formula are those of the sum. -/
theorem add_eq_of_mul_eq {P Q R : EdwardsPoint d}
    (x : R.x * (1 + cross P Q) = numeratorX P Q)
    (y : R.y * (1 - cross P Q) = numeratorY P Q) : P + Q = R := by
  refine EdwardsPoint.ext ?_ ?_
  · exact mul_right_cancel₀ (one_add_cross_ne_zero P Q) ((x_add P Q).trans x.symm)
  · exact mul_right_cancel₀ (one_sub_cross_ne_zero P Q) ((y_add P Q).trans y.symm)

/-! ## Laws -/

theorem add_comm' (P Q : EdwardsPoint d) : P + Q = Q + P := by
  refine add_eq_of_mul_eq ?_ ?_
  · rw [cross_comm, x_add, numeratorX, numeratorX]
    ring
  · rw [cross_comm, y_add, numeratorY, numeratorY]
    ring

theorem zero_add' (P : EdwardsPoint d) : 0 + P = P := by
  refine add_eq_of_mul_eq ?_ ?_
  · simp [cross, numeratorX]
  · simp [cross, numeratorY]

theorem neg_add_cancel' (P : EdwardsPoint d) : -P + P = 0 := by
  refine add_eq_of_mul_eq ?_ ?_
  · simp only [numeratorX, x_zero, x_neg, y_neg]
    ring
  · simp only [numeratorY, y_zero, x_neg, y_neg, cross]
    linear_combination -P.on_curve

/-- The denominator of the `x` of a sum of three, cleared of that of the first two. -/
def clearedX (P Q R : EdwardsPoint d) : F :=
  1 - cross P Q ^ 2 + d * R.x * R.y * (numeratorX P Q * numeratorY P Q)

/-- The same for `y`. -/
def clearedY (P Q R : EdwardsPoint d) : F :=
  1 - cross P Q ^ 2 - d * R.x * R.y * (numeratorX P Q * numeratorY P Q)

theorem clearedX_eq (P Q R : EdwardsPoint d) :
    clearedX P Q R = (1 + cross P Q) * (1 - cross P Q) * (1 + cross (P + Q) R) := by
  have outer : cross (P + Q) R = d * (P + Q).x * R.x * (P + Q).y * R.y := rfl
  rw [clearedX, ← x_add P Q, ← y_add P Q, outer]
  ring

theorem clearedY_eq (P Q R : EdwardsPoint d) :
    clearedY P Q R = (1 + cross P Q) * (1 - cross P Q) * (1 - cross (P + Q) R) := by
  have outer : cross (P + Q) R = d * (P + Q).x * R.x * (P + Q).y * R.y := rfl
  rw [clearedY, ← x_add P Q, ← y_add P Q, outer]
  ring

theorem clearedX_ne_zero (P Q R : EdwardsPoint d) : clearedX P Q R ≠ 0 := by
  rw [clearedX_eq]
  exact mul_ne_zero (mul_ne_zero (one_add_cross_ne_zero P Q) (one_sub_cross_ne_zero P Q))
    (one_add_cross_ne_zero _ R)

theorem clearedY_ne_zero (P Q R : EdwardsPoint d) : clearedY P Q R ≠ 0 := by
  rw [clearedY_eq]
  exact mul_ne_zero (mul_ne_zero (one_add_cross_ne_zero P Q) (one_sub_cross_ne_zero P Q))
    (one_sub_cross_ne_zero _ R)

theorem x_add_add (P Q R : EdwardsPoint d) :
    (P + Q + R).x * clearedX P Q R =
      numeratorX P Q * (1 - cross P Q) * R.y + numeratorY P Q * (1 + cross P Q) * R.x := by
  have sum := x_add (P + Q) R
  rw [numeratorX] at sum
  rw [clearedX_eq, ← x_add P Q, ← y_add P Q]
  linear_combination (1 + cross P Q) * (1 - cross P Q) * sum

theorem y_add_add (P Q R : EdwardsPoint d) :
    (P + Q + R).y * clearedY P Q R =
      numeratorY P Q * (1 + cross P Q) * R.y + numeratorX P Q * (1 - cross P Q) * R.x := by
  have sum := y_add (P + Q) R
  rw [numeratorY] at sum
  rw [clearedY_eq, ← x_add P Q, ← y_add P Q]
  linear_combination (1 + cross P Q) * (1 - cross P Q) * sum

/-- The multiple of the first equation by which the two ways to add three points differ in `x`; that of
the third equation is its mirror image. -/
def outerX (P Q R : EdwardsPoint d) : F :=
  d * Q.x * Q.y * (d * Q.x ^ 2 * Q.y ^ 2 * R.x * R.y * (P.y * numeratorX Q R - P.x * numeratorY Q R) +
    R.x * R.y * (Q.x ^ 3 * (P.y * R.y - P.x * R.x) + Q.y ^ 3 * (P.x * R.y - P.y * R.x)) +
    Q.x * Q.y * ((R.y ^ 3 - R.y) * numeratorX P Q - (R.x ^ 3 + R.x) * numeratorY P Q))

/-- Half of the multiple of the second equation; the other half is its mirror image. -/
def middleX (P Q R : EdwardsPoint d) : F :=
  d * Q.x * Q.y * R.x * R.y *
    ((P.x ^ 3 + P.x) * numeratorY Q R + (P.y ^ 3 - P.y) * numeratorX Q R)

/-- The same as `outerX` for `y`. -/
def outerY (P Q R : EdwardsPoint d) : F :=
  d * Q.x * Q.y * (d * Q.x ^ 2 * Q.y ^ 2 * R.x * R.y * (P.x * numeratorX Q R - P.y * numeratorY Q R) +
    R.x * R.y * (Q.x ^ 3 * (P.x * R.y - P.y * R.x) + Q.y ^ 3 * (P.y * R.y - P.x * R.x)) +
    Q.x * Q.y * ((R.y ^ 3 - R.y) * numeratorY P Q - (R.x ^ 3 + R.x) * numeratorX P Q))

/-- The same as `middleX` for `y`. -/
def middleY (P Q R : EdwardsPoint d) : F :=
  d * Q.x * Q.y * R.x * R.y *
    ((P.x ^ 3 + P.x) * numeratorX Q R + (P.y ^ 3 - P.y) * numeratorY Q R)

/-- Both sides are cleared of their denominators; what is left is a combination of the equations of
the three points. -/
theorem add_assoc' (P Q R : EdwardsPoint d) : P + Q + R = P + (Q + R) := by
  rw [add_comm' P (Q + R)]
  refine EdwardsPoint.ext ?_ ?_
  · refine mul_right_cancel₀ (mul_ne_zero (clearedX_ne_zero P Q R) (clearedX_ne_zero Q R P)) ?_
    rw [← mul_assoc, x_add_add, mul_comm (clearedX P Q R), ← mul_assoc, x_add_add]
    have first := congrArg (outerX P Q R * ·) P.on_curve
    have third := congrArg (outerX R Q P * ·) R.on_curve
    have second := congrArg ((middleX P Q R - middleX R Q P) * ·) Q.on_curve
    simp only [outerX, middleX, clearedX, cross, numeratorX, numeratorY] at *
    linear_combination first - third + second
  · refine mul_right_cancel₀ (mul_ne_zero (clearedY_ne_zero P Q R) (clearedY_ne_zero Q R P)) ?_
    rw [← mul_assoc, y_add_add, mul_comm (clearedY P Q R), ← mul_assoc, y_add_add]
    have first := congrArg (outerY P Q R * ·) P.on_curve
    have third := congrArg (outerY R Q P * ·) R.on_curve
    have second := congrArg ((middleY P Q R - middleY R Q P) * ·) Q.on_curve
    simp only [outerY, middleY, clearedY, cross, numeratorX, numeratorY] at *
    linear_combination first - third - second

instance : AddCommGroup (EdwardsPoint d) where
  add_assoc := add_assoc'
  zero_add := zero_add'
  add_zero P := (add_comm' P 0).trans (zero_add' P)
  neg_add_cancel := neg_add_cancel'
  add_comm := add_comm'
  nsmul := nsmulRec
  zsmul := zsmulRec

end EdwardsPoint

end AmountProofs
