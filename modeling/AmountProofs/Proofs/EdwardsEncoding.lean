import AmountProofs.Proofs.EdwardsCoordinates
import Mathlib.FieldTheory.Finite.Basic

/-!
Encodings of the points of the curve.

A point is encoded by its `y` and the parity of its `x`. Decoding solves the equation of the curve for
`x`: where it has a solution, the power that is computed is one, up to a root of minus one
(`exists_xOf?_eq_some`), and the parity tells the two solutions apart.
-/

namespace AmountProofs.Edwards25519

/-! ## Encoding -/

/-- The canonical encoding of a point of the curve. -/
def encodePoint (P : CurvePoint) : Word := BitVec.ofNat 256 (P.y.val + P.x.val % 2 * 2 ^ 255)

theorem prime_lt : prime < 2 ^ 255 := by decide

theorem toNat_encodePoint (P : CurvePoint) :
    (encodePoint P).toNat = P.y.val + P.x.val % 2 * 2 ^ 255 := by
  have low := ZMod.val_lt P.y
  have bound := prime_lt
  rw [encodePoint, BitVec.toNat_ofNat]
  exact Nat.mod_eq_of_lt (by omega)

/-- The low bits are `y`. -/
theorem mod_encodePoint (P : CurvePoint) : (encodePoint P).toNat % 2 ^ 255 = P.y.val := by
  have low := ZMod.val_lt P.y
  have bound := prime_lt
  rw [toNat_encodePoint]
  omega

/-- The top bit is the parity of `x`. -/
theorem div_encodePoint (P : CurvePoint) : (encodePoint P).toNat / 2 ^ 255 = P.x.val % 2 := by
  have low := ZMod.val_lt P.y
  have bound := prime_lt
  rw [toNat_encodePoint]
  omega

/-- Extended coordinates are encoded as the point that they represent. -/
theorem Extended.Represents.encode_eq {p : Extended} {P : CurvePoint} (left : p.Represents P) :
    p.encode = encodePoint P := by
  have inverse : (p.Z : FieldElement) * p.Z ^ (prime - 2) = 1 := by
    rw [← pow_succ', show prime - 2 + 1 = prime - 1 by decide]
    exact ZMod.pow_card_sub_one_eq_one left.Z_ne_zero
  have x : mul p.X (pow p.Z (prime - 2)) = P.x.val := by
    rw [← val_cast (mul_lt _ _), cast_mul, cast_pow, left.X_eq, mul_assoc, inverse, mul_one]
  have y : mul p.Y (pow p.Z (prime - 2)) = P.y.val := by
    rw [← val_cast (mul_lt _ _), cast_mul, cast_pow, left.Y_eq, mul_assoc, inverse, mul_one]
  rw [Extended.encode, x, y, encodePoint, Nat.pow_eq]

/-! ## Solving for `x` -/

/-- What `x²` is divided by does not vanish. -/
theorem divisor_ne_zero (y : FieldElement) : coefficient * y ^ 2 + 1 ≠ 0 := by
  intro zero
  have proper : y ≠ 0 := by
    rintro rfl
    exact one_ne_zero (by linear_combination zero)
  refine coefficient_not_isSquare ⟨sqrtMinusOne / y, ?_⟩
  rw [div_mul_div_comm, sqrtMinusOne_sq, eq_div_iff (mul_ne_zero proper proper)]
  linear_combination zero

theorem x_sq_mul (P : CurvePoint) : P.x ^ 2 * (coefficient * P.y ^ 2 + 1) = P.y ^ 2 - 1 := by
  linear_combination -P.on_curve

/-- A solution gives a point. -/
theorem on_curve_of_mul {x y : FieldElement} (solved : x ^ 2 * (coefficient * y ^ 2 + 1) = y ^ 2 - 1) :
    y ^ 2 - x ^ 2 = 1 + coefficient * x ^ 2 * y ^ 2 := by
  linear_combination -solved

/-- The parities of an element other than zero and of its opposite differ. -/
theorem parity_neg {a : FieldElement} (nonzero : a ≠ 0) : (-a).val % 2 ≠ a.val % 2 := by
  have odd : prime % 2 = 1 := by decide
  have low := ZMod.val_lt a
  rw [ZMod.neg_val, if_neg nonzero]
  omega

/-- A point is known from its `y` and the parity of its `x`. -/
theorem eq_of_y_eq {P Q : CurvePoint} (y : P.y = Q.y) (parity : P.x.val % 2 = Q.x.val % 2) :
    P = Q := by
  refine EdwardsPoint.ext ?_ y
  have first := x_sq_mul P
  have second := x_sq_mul Q
  rw [y, ← second] at first
  have squares := mul_right_cancel₀ (divisor_ne_zero Q.y) first
  rcases sq_eq_sq_iff_eq_or_eq_neg.1 squares with same | opposite
  · exact same
  · by_cases zero : Q.x = 0
    · rw [opposite, zero, neg_zero]
    · rw [opposite] at parity
      exact absurd parity (parity_neg zero)

theorem encodePoint_injective : Function.Injective encodePoint := by
  intro P Q same
  refine eq_of_y_eq (ZMod.val_injective prime ?_) ?_
  · rw [← mod_encodePoint, same, mod_encodePoint]
  · rw [← div_encodePoint, same, div_encodePoint]

theorem rootOfRatio_lt (u v : Nat) : rootOfRatio u v < prime := mul_lt _ _

@[simp] theorem cast_rootOfRatio (u v : Nat) :
    (rootOfRatio u v : FieldElement) = u * v ^ 3 * (u * v ^ 7) ^ ((prime - 5) / 8) := by
  simp only [rootOfRatio, cast_mul, cast_pow]
  ring

theorem cast_numerator (y : Nat) : (sub (mul y y) 1 : FieldElement) = y ^ 2 - 1 := by
  rw [cast_sub prime_prime.one_lt, cast_mul, Nat.cast_one, pow_two]

theorem cast_denominator (y : Nat) :
    (add (mul d (mul y y)) 1 : FieldElement) = coefficient * y ^ 2 + 1 := by
  rw [cast_add, cast_mul, cast_mul, cast_d, Nat.cast_one, pow_two]

/-- What is found for `y` solves the equation. -/
theorem xOf?_sound {x y : Nat} (found : xOf? y = some x) :
    x < prime ∧ (x : FieldElement) ^ 2 * (coefficient * y ^ 2 + 1) = y ^ 2 - 1 := by
  unfold xOf? at found
  set u := sub (mul y y) 1
  set v := add (mul d (mul y y)) 1
  have numerator : (u : FieldElement) = y ^ 2 - 1 := cast_numerator y
  have denominator : (v : FieldElement) = coefficient * y ^ 2 + 1 := cast_denominator y
  rw [← numerator, ← denominator]
  by_cases root : mul v (mul (rootOfRatio u v) (rootOfRatio u v)) = u
  · rw [if_pos root] at found
    cases found
    have solved := congrArg (Nat.cast (R := FieldElement)) root
    rw [cast_mul, cast_mul] at solved
    refine ⟨rootOfRatio_lt u v, ?_⟩
    linear_combination solved
  · rw [if_neg root] at found
    by_cases opposite : mul v (mul (rootOfRatio u v) (rootOfRatio u v)) = sub 0 u
    · rw [if_pos opposite] at found
      cases found
      have solved := congrArg (Nat.cast (R := FieldElement)) opposite
      rw [cast_mul, cast_mul, cast_sub (sub_lt _ _), Nat.cast_zero] at solved
      refine ⟨mul_lt _ _, ?_⟩
      rw [cast_mul]
      linear_combination -solved + (rootOfRatio u v : FieldElement) ^ 2 * v * sqrtMinusOne_sq
    · rw [if_neg opposite] at found
      cases found

/-- The power that is computed for `u = x² v`: the candidate's square times `v` is `u` or `-u`, by
the criterion of Euler. -/
theorem mul_root_sq {u v x : FieldElement} (ratio : u = x ^ 2 * v) :
    v * (u * v ^ 3 * (u * v ^ 7) ^ ((prime - 5) / 8)) ^ 2 = u ∨
      v * (u * v ^ 3 * (u * v ^ 7) ^ ((prime - 5) / 8)) ^ 2 = -u := by
  have half : 2 * (2 * ((prime - 5) / 8) + 1) = prime / 2 := by decide
  have base : u * v ^ 7 = (x * v ^ 4) ^ 2 := by
    rw [ratio]
    ring
  have power : v * (u * v ^ 3 * (u * v ^ 7) ^ ((prime - 5) / 8)) ^ 2 =
      u * (x * v ^ 4) ^ (prime / 2) :=
    calc v * (u * v ^ 3 * (u * v ^ 7) ^ ((prime - 5) / 8)) ^ 2
        = u * (u * v ^ 7) ^ (2 * ((prime - 5) / 8) + 1) := by ring
      _ = u * (x * v ^ 4) ^ (prime / 2) := by rw [base, ← pow_mul, half]
  rw [power]
  -- The criterion says nothing of zero; then `u` is zero, and both signs fit.
  by_cases zero : x * v ^ 4 = 0
  · have vanishing : u = 0 := by
      rcases mul_eq_zero.1 zero with root | denominator
      · rw [ratio, root]
        ring
      · rw [ratio, (pow_eq_zero_iff (n := 4) (by decide)).1 denominator]
        ring
    exact .inl (by rw [vanishing, zero_mul])
  · rcases ZMod.pow_div_two_eq_neg_one_or_one prime zero with plus | minus
    · exact .inl (by rw [plus, mul_one])
    · exact .inr (by rw [minus, mul_neg_one])

/-- If the equation has a solution, one is found. -/
theorem exists_xOf?_eq_some {x : FieldElement} {y : Nat}
    (solved : x ^ 2 * (coefficient * y ^ 2 + 1) = y ^ 2 - 1) : ∃ r, xOf? y = some r := by
  unfold xOf?
  set u := sub (mul y y) 1
  set v := add (mul d (mul y y)) 1
  have numerator : (u : FieldElement) = y ^ 2 - 1 := cast_numerator y
  have denominator : (v : FieldElement) = coefficient * y ^ 2 + 1 := cast_denominator y
  rw [← numerator, ← denominator] at solved
  have check : (mul v (mul (rootOfRatio u v) (rootOfRatio u v)) : FieldElement) =
      v * (u * v ^ 3 * (u * v ^ 7) ^ ((prime - 5) / 8)) ^ 2 := by
    rw [cast_mul, cast_mul, cast_rootOfRatio, ← pow_two]
  rcases mul_root_sq solved.symm with root | opposite
  · exact ⟨_, if_pos (eq_of_cast_eq (mul_lt _ _) (sub_lt _ _) (check.trans root))⟩
  · have same : mul v (mul (rootOfRatio u v) (rootOfRatio u v)) = sub 0 u := by
      refine eq_of_cast_eq (mul_lt _ _) (sub_lt _ _) (check.trans ?_)
      rw [opposite, cast_sub (sub_lt _ _), Nat.cast_zero, zero_sub]
    by_cases root : mul v (mul (rootOfRatio u v) (rootOfRatio u v)) = u
    · exact ⟨_, if_pos root⟩
    · exact ⟨_, (if_neg root).trans (if_pos same)⟩

/-! ## Decoding -/

/-- What is decoded represents a point with the `y` of the word and the parity of `x`, unless `x` is
zero. -/
theorem exists_represents {w : Word} {q : Extended} (found : decode? w = some q) :
    ∃ P, q.Represents P ∧ P.y = (w.toNat % 2 ^ 255 : Nat) ∧
      (P.x = 0 ∨ P.x.val % 2 = w.toNat / 2 ^ 255) := by
  rw [decode?, Nat.pow_eq] at found
  obtain ⟨r, root, rfl⟩ := Option.map_eq_some_iff.1 found
  obtain ⟨reduced, solved⟩ := xOf?_sound root
  have top : w.toNat / 2 ^ 255 < 2 := by
    have bound := w.isLt
    omega
  set y := w.toNat % 2 ^ 255 % prime
  set x := if r % 2 = w.toNat / 2 ^ 255 then r else sub 0 r with def_x
  have x_lt : x < prime := by
    rw [def_x]
    split
    · exact reduced
    · exact sub_lt 0 r
  have sign : (x : FieldElement) = r ∨ (x : FieldElement) = -r := by
    rw [def_x]
    split
    · exact .inl rfl
    · rw [cast_sub reduced, Nat.cast_zero, zero_sub]
      exact .inr rfl
  have squares : (x : FieldElement) ^ 2 = r ^ 2 := by
    rcases sign with same | opposite
    · rw [same]
    · rw [opposite, neg_sq]
  let P : CurvePoint := ⟨x, y, on_curve_of_mul (by rw [squares, solved])⟩
  have represents : Extended.Represents ⟨x, y, 1, mul x y⟩ P :=
    { X_lt := x_lt
      Y_lt := Nat.mod_lt _ prime_pos
      Z_lt := prime_prime.one_lt
      T_lt := mul_lt x y
      Z_ne_zero := by rw [Nat.cast_one]; exact one_ne_zero
      X_eq := by rw [Nat.cast_one, mul_one]
      Y_eq := by rw [Nat.cast_one, mul_one]
      T_eq := by rw [Nat.cast_one, mul_one, cast_mul] }
  refine ⟨P, represents, ZMod.natCast_mod _ _, ?_⟩
  change (x : FieldElement) = 0 ∨ (x : FieldElement).val % 2 = _
  -- A root whose parity is the other one is replaced by its opposite; zero has none.
  by_cases parity : r % 2 = w.toNat / 2 ^ 255
  · have same : x = r := if_pos parity
    rw [val_cast x_lt, same]
    exact .inr parity
  · have opposite : (x : FieldElement) = -r := by
      rw [def_x, if_neg parity, cast_sub reduced, Nat.cast_zero, zero_sub]
    by_cases zero : (r : FieldElement) = 0
    · exact .inl (by rw [opposite, zero, neg_zero])
    · have differs := parity_neg zero
      rw [val_cast reduced] at differs
      rw [opposite]
      exact .inr (by omega)

/-- The encoding of a point is decoded to it. -/
theorem exists_decode?_encodePoint (P : CurvePoint) :
    ∃ q, decode? (encodePoint P) = some q ∧ q.Represents P := by
  have y : ((encodePoint P).toNat % 2 ^ 255 % prime : Nat) = P.y.val := by
    rw [mod_encodePoint]
    exact Nat.mod_eq_of_lt (ZMod.val_lt P.y)
  have value : ((P.y.val : Nat) : FieldElement) = P.y := ZMod.natCast_zmod_val P.y
  obtain ⟨r, root⟩ := exists_xOf?_eq_some (x := P.x) (y := P.y.val) (by rw [value, x_sq_mul])
  obtain ⟨q, found⟩ : ∃ q, decode? (encodePoint P) = some q := by
    rw [decode?, Nat.pow_eq, y, root]
    exact ⟨_, rfl⟩
  obtain ⟨Q, represents, same, parity⟩ := exists_represents found
  rw [mod_encodePoint, value] at same
  rw [div_encodePoint] at parity
  refine ⟨q, found, ?_⟩
  have equal : Q = P := by
    rcases parity with zero | parity
    · have first := x_sq_mul Q
      have second := x_sq_mul P
      rw [zero, same, ← second] at first
      have square := mul_right_cancel₀ (divisor_ne_zero P.y) first
      refine EdwardsPoint.ext ?_ same
      rw [zero]
      exact ((pow_eq_zero_iff (n := 2) (by decide)).1 (square.symm.trans (zero_pow (by decide)))).symm
    · exact eq_of_y_eq same parity
  rw [← equal]
  exact represents

end AmountProofs.Edwards25519
