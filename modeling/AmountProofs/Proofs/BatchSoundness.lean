import AmountProofs.Proofs.Equations
import AmountProofs.Proofs.StandardReading
import Mathlib.Algebra.Polynomial.OfFn
import Mathlib.Algebra.Polynomial.Roots
import Mathlib.Data.Set.Card
import Mathlib.LinearAlgebra.Dual.Lemmas

/-!
What a balanced sum says of the separate equations.

The sum is a polynomial in the weight, with the defects of the equations as its coefficients. If an
equation fails, no more weights than the degree balance the sum (`encard_balancing_le`); if the sum
balances at one weight more, all equations hold. Two challenges for the same announced points are
then enough to compute secrets that the statement holds of (`holds_of_two_challenges`).
-/

namespace AmountProofs

variable {S : Suite} {E : Type} [AddCommGroup E] [Module Residue E] {k : ProofKind}

/-! ## Weights at which elements cancel -/

/-- Elements that are not all neutral, weighed by the powers of a residue, cancel for fewer residues
than there are elements. -/
theorem card_cancelling_lt {n : Nat} {d : Fin n → E} {i : Fin n} (nonzero : d i ≠ 0)
    {weights : Finset Residue} (cancel : ∀ w ∈ weights, ∑ i, w ^ i.val • d i = 0) :
    weights.card < n := by
  -- A linear functional that keeps `d i` makes this a count of the roots of a polynomial.
  obtain ⟨φ, keeps⟩ : ∃ φ : Module.Dual Residue E, φ (d i) ≠ 0 := by
    by_contra none
    push Not at none
    exact nonzero ((Module.forall_dual_apply_eq_zero_iff Residue (d i)).1 none)
  let p := Polynomial.ofFn n fun i => φ (d i)
  have eval (w : Residue) : p.eval w = φ (∑ i, w ^ i.val • d i) := by
    simp only [p, Polynomial.ofFn_eq_sum_monomial, Polynomial.eval_finsetSum,
      Polynomial.eval_monomial, map_sum, map_smul, smul_eq_mul, mul_comm]
  have proper : p ≠ 0 := by
    intro zero
    have coefficient := Polynomial.ofFn_coeff_eq_val_of_lt (fun i => φ (d i)) i.isLt
    rw [show Polynomial.ofFn n (fun i => φ (d i)) = 0 from zero, Polynomial.coeff_zero] at coefficient
    exact keeps coefficient.symm
  have roots : weights.val ⊆ p.roots := by
    intro w member
    rw [Polynomial.mem_roots proper, Polynomial.IsRoot, eval, cancel w member, map_zero]
  exact (Polynomial.card_le_degree_of_subset_roots roots).trans_lt
    (Polynomial.ofFn_natDegree_lt (Nat.one_le_iff_ne_zero.2 i.pos.ne') _)

namespace Proof

/-- If the sum balances at as many weights as there are equations, all of them hold. -/
theorem defect_eq_zero_of_balances {R : S.Reading E} {statement : Statement S k}
    (covered : statement.Covered R) {c : Scalar} {z : Fin k.witnesses → Scalar}
    (clear : ∀ j, (z j).TopBitClear) {announced : Fin k.rows → E} {weights : Fin k.rows → Scalar}
    (distinct : Function.Injective fun i => (weights i).value)
    (balances : ∀ i, Balances statement c (weights i) z fun i => R.point (announced i))
    (i : Fin k.rows) : statement.defect R c.value (fun j => (z j).value) announced i = 0 := by
  by_contra nonzero
  let values : Finset Residue := Finset.univ.map ⟨fun i => (weights i).value, distinct⟩
  have fewer : values.card < k.rows := by
    refine card_cancelling_lt nonzero fun w member => ?_
    obtain ⟨j, -, rfl⟩ := Finset.mem_map.1 member
    exact (balances j).sum_defect_eq_zero covered clear
  rw [Finset.card_map, Finset.card_univ, Fintype.card_fin] at fewer
  exact lt_irrefl _ fewer

/-- Weights at which a sum with a failing equation balances are fewer than the equations: at most
one for the zero proof, two and three for the equalities. Where all equations hold, every weight
balances the sum of reduced responses. -/
theorem encard_balancing_le (R : S.Reading E) {statement : Statement S k}
    (covered : statement.Covered R) (c : Scalar) {z : Fin k.witnesses → Scalar}
    (clear : ∀ j, (z j).TopBitClear) (announced : Fin k.rows → E) :
    ((∃ i, statement.left R (fun j => (z j).value) i ≠
        c.value • statement.right R i + announced i) →
      {w : Scalar | w.isCanonical = true ∧
        Balances statement c w z fun i => R.point (announced i)}.encard ≤ (k.rows - 1 : Nat)) ∧
    ((∀ i, statement.left R (fun j => (z j).value) i =
        c.value • statement.right R i + announced i) →
      (∀ j, (z j).isCanonical = true) →
      ∀ w, Balances statement c w z fun i => R.point (announced i)) := by
  refine ⟨fun ⟨i, fails⟩ => ?_, fun hold canonical w => ?_⟩
  · have nonzero : statement.defect R c.value (fun j => (z j).value) announced i ≠ 0 :=
      fun zero => fails (Statement.defect_eq_zero_iff.1 zero)
    set balancing := {w : Scalar | w.isCanonical = true ∧
      Balances statement c w z fun i => R.point (announced i)} with def_balancing
    -- Weights are counted as residues, which tell reduced scalars apart.
    have separate : Set.InjOn Scalar.value balancing := fun v left w right same =>
      Scalar.eq_of_value_eq left.1 right.1 same
    have finite : (Scalar.value '' balancing).Finite := Set.toFinite _
    have fewer : finite.toFinset.card < k.rows := by
      refine card_cancelling_lt nonzero fun w member => ?_
      obtain ⟨v, ⟨-, balances⟩, rfl⟩ := finite.mem_toFinset.1 member
      exact balances.sum_defect_eq_zero covered clear
    rw [← separate.encard_image, finite.encard_eq_coe_toFinset_card]
    exact Nat.cast_le.2 (Nat.le_sub_one_of_lt fewer)
  · rw [balances_iff covered c w canonical]
    refine Finset.sum_eq_zero fun i _ => ?_
    rw [Statement.defect_eq_zero_iff.2 (hold i), smul_zero]

/-- With nothing announced and zero for all responses, the first equation fails at the challenge
one, and so no more than three weights balance the sum. -/
theorem encard_balancing_le_three :
    {w : Scalar | w.isCanonical = true ∧ Balances (.sample Suite.standardReading) .one w
      (fun _ => .zero) fun _ => Suite.standardReading.point 0}.encard ≤ 3 := by
  have fails := (encard_balancing_le Suite.standardReading (Statement.covered_sample _) .one
    (z := fun _ => .zero) (fun _ => .of_isCanonical (by decide +kernel)) fun _ => 0).1
  refine fails ⟨0, fun holds => Suite.standardReading.blinding_ne_zero ?_⟩
  simpa [Statement.sample, Statement.left, Statement.right] using holds.symm

/-- Two challenges for the same announced points, each with responses that balance the sum at as
many weights as there are equations, give scalars that the statement holds of. The key is not
neutral, and its secret is the only one. -/
theorem holds_of_two_challenges (R : S.Reading E) {statement : Statement S k}
    (covered : statement.Covered R) (announced : Fin k.rows → E) {c c' : Scalar}
    (different : c.value ≠ c'.value) {z z' : Fin k.witnesses → Scalar}
    (clear : ∀ j, (z j).TopBitClear) (clear' : ∀ j, (z' j).TopBitClear)
    {weights weights' : Fin k.rows → Scalar}
    (distinct : Function.Injective fun i => (weights i).value)
    (distinct' : Function.Injective fun i => (weights' i).value)
    (balances : ∀ i, Balances statement c (weights i) z fun i => R.point (announced i))
    (balances' : ∀ i, Balances statement c' (weights' i) z' fun i => R.point (announced i)) :
    let a := fun j => ((z j).value - (z' j).value) / (c.value - c'.value)
    statement.Holds R a ∧ R.read statement.key.point ≠ 0 ∧
      ∀ s : Residue, s • R.read statement.key.point = R.blinding → s = a 0 := by
  intro a
  have apart : c.value - c'.value ≠ 0 := sub_ne_zero.2 different
  have solved : ∀ i, statement.left R a i = statement.right R i := by
    intro i
    have first := Statement.defect_eq_zero_iff.1
      (defect_eq_zero_of_balances covered clear distinct balances i)
    have second := Statement.defect_eq_zero_iff.1
      (defect_eq_zero_of_balances covered clear' distinct' balances' i)
    -- The first response is the second one and `c - c'` times the candidate; equations are linear.
    have split : (fun j => (z j).value) =
        fun j => (c.value - c'.value) * a j + (z' j).value := by
      funext j
      rw [mul_div_cancel₀ _ apart, sub_add_cancel]
    rw [split, Statement.left_add_smul, second] at first
    have scaled : (c.value - c'.value) • statement.left R a i =
        (c.value - c'.value) • statement.right R i := by
      rw [sub_smul c.value c'.value (statement.right R i), eq_sub_iff_add_eq]
      exact add_right_cancel ((add_assoc _ _ _).trans first)
    exact smul_right_injective E apart scaled
  have holds := (statement.holds_iff R a).2 solved
  have opens : a 0 • R.read statement.key.point = R.blinding := by
    cases statement with
    | zeroCiphertext => exact holds.1
    | commitmentEquality => exact holds.1
    | ciphertextEquality => exact holds.1
  have proper : R.read statement.key.point ≠ 0 := by
    intro neutral
    rw [neutral, smul_zero] at opens
    exact R.blinding_ne_zero opens.symm
  exact ⟨holds, proper, fun s same => smul_left_injective Residue proper (same.trans opens.symm)⟩

/-- Answers to the challenges one and two for the same masks. -/
theorem holds_of_challenges_one_two :
    ∃ a, (Statement.sample Suite.standardReading).Holds Suite.standardReading a := by
  have covered := Statement.covered_sample Suite.standardReading
  have balances (c w : Scalar) := balances_respond covered c w (Statement.holds_sample _)
    ![.ofNat 5, .ofNat 6, .ofNat 7]
  have distinct : Function.Injective fun i : Fin 4 => (Scalar.ofNat i).value := by
    decide +kernel
  have different : (Scalar.ofNat 1).value ≠ (Scalar.ofNat 2).value := by
    decide +kernel
  exact ⟨_, (holds_of_two_challenges Suite.standardReading covered _ different
    (fun _ => .of_isCanonical (Scalar.isCanonical_add _ _))
    (fun _ => .of_isCanonical (Scalar.isCanonical_add _ _)) distinct distinct
    (fun _ => balances (.ofNat 1) _) (fun _ => balances (.ofNat 2) _)).1⟩

end Proof

end AmountProofs
