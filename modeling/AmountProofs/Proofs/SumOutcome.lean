import AmountProofs.Proofs.PointSums
import AmountProofs.Proofs.StandardReading

/-!
What becomes of a sum of multiples of points.

Scalars and points are given as two lists. Nothing is asked of them at first: there may be more of
the ones than of the others, the scalars may not be reduced and the points may be any words. Over
points of the group and reduced scalars no term is refused, and the order of the terms is of no
account (`Multiscalar.sum_outcome`).
-/

namespace AmountProofs

variable {S : Suite} {E : Type} [AddCommGroup E] [Module Residue E]

/-- The order of the terms does not change what they sum up to. -/
theorem Suite.Reading.total_perm (R : S.Reading E) {terms others : List (Multiscalar.Term S)}
    (permuted : terms.Perm others) : R.total terms = R.total others :=
  (permuted.map _).sum_eq

namespace Multiscalar

theorem pair_of_length {scalars : List Scalar} {points : List (Point S)}
    (sized : scalars.length = points.length) : pair scalars points = .ok (scalars.zip points) :=
  if_pos sized

/-- A sum of reduced multiples of points of the group. -/
theorem pair_sum_eq_ok (R : S.Reading E) {scalars : List Scalar} {points : List (Point S)}
    (sized : scalars.length = points.length)
    (canonical : ∀ t ∈ scalars.zip points, t.1.isCanonical = true)
    (members : ∀ t ∈ scalars.zip points, t.2 ∈ R.points) :
    (pair scalars points >>= sum) = .ok (R.point (R.total (scalars.zip points))) := by
  rw [pair_of_length sized]
  exact R.sum_eq_ok members fun t listed => .of_isCanonical (canonical t listed)

/-- Both ways to sum up give the same for any scalars and any points. Unequal numbers are refused.
With equal numbers there is a sum or the refusal of the curve, the latter exactly if a term is
refused by the sum of those before it. Over points of the group and reduced scalars there is a sum,
which is that of the multiples, in whatever order the pairs are given. -/
theorem sum_outcome (scalars : List Scalar) (points : List (Point S)) :
    (pair scalars points >>= sumPublic) = (pair scalars points >>= sum) ∧
    (scalars.length ≠ points.length → (pair scalars points >>= sum) =
      .error (.badValue (.termCount scalars.length points.length))) ∧
    (scalars.length = points.length →
      ((∃ p, (pair scalars points >>= sum) = .ok p) ∨
        (pair scalars points >>= sum) = .error (reportRefusal .refused)) ∧
      ((pair scalars points >>= sum) = .error (reportRefusal .refused) ↔
        ∃ before t after reached, scalars.zip points = before ++ t :: after ∧
          sum before = .ok reached ∧ Refuses reached t)) ∧
    ∀ {E : Type} [AddCommGroup E] [Module Residue E] (R : S.Reading E),
      scalars.length = points.length → (∀ s ∈ scalars, s.isCanonical = true) →
      (∀ p ∈ points, p ∈ R.points) →
      (pair scalars points >>= sum) =
        .ok (R.point ((scalars.zip points).map fun t => t.1.value • R.read t.2).sum) ∧
      ∀ (scalars' : List Scalar) (points' : List (Point S)), scalars'.length = points'.length →
        (scalars'.zip points').Perm (scalars.zip points) →
        (pair scalars' points' >>= sum) = (pair scalars points >>= sum) := by
  have same : (sumPublic : List (Term S) → _) = sum := funext sumPublic_eq_sum
  refine ⟨by rw [same], fun sized => ?_, fun sized => ?_, fun R sized canonical members => ?_⟩
  · rw [pair, if_neg sized]
    rfl
  · rw [pair_of_length sized]
    refine ⟨?_, sum_eq_error_iff⟩
    change (∃ p, sum (scalars.zip points) = .ok p) ∨ sum (scalars.zip points) = _
    rcases run : sum (scalars.zip points) with e | p
    · exact .inr (congrArg Except.error (sum_eq_error run))
    · exact .inl ⟨p, rfl⟩
  · have canonicalTerms (t : Term S) (listed : t ∈ scalars.zip points) : t.1.isCanonical = true :=
      canonical t.1 (List.of_mem_zip listed).1
    have memberTerms (t : Term S) (listed : t ∈ scalars.zip points) : t.2 ∈ R.points :=
      members t.2 (List.of_mem_zip listed).2
    have given := pair_sum_eq_ok R sized canonicalTerms memberTerms
    refine ⟨given, fun scalars' points' sized' permuted => ?_⟩
    rw [given, pair_sum_eq_ok R sized' (fun t listed => canonicalTerms t (permuted.mem_iff.1 listed))
      (fun t listed => memberTerms t (permuted.mem_iff.1 listed)), R.total_perm permuted]

/-- The multiples of a generator by one and by the greatest scalar cancel, in either order; a point
too few is refused. -/
theorem sum_outcome_of_opposites :
    let one := Scalar.ofNat 1
    let opposite := Scalar.ofNat (Scalar.order - 1)
    let points : List (Point Suite.standard) := [.base, .base]
    (pair [one, opposite] points >>= sumPublic) = .ok .neutral ∧
    (pair [opposite, one] points >>= sum) = .ok .neutral ∧
    (pair [one] points >>= sumPublic) = .error (.badValue (.termCount 1 2)) := by
  intro one opposite points
  have R := Suite.standardReading
  have canonical : ∀ s ∈ [one, opposite], s.isCanonical = true := by decide +kernel
  have members : ∀ p ∈ points, p ∈ R.points :=
    List.forall_mem_cons.2 ⟨R.base_mem, List.forall_mem_cons.2 ⟨R.base_mem, List.forall_mem_nil _⟩⟩
  obtain ⟨same, -, -, group⟩ := sum_outcome [one, opposite] points
  obtain ⟨given, permuted⟩ := group R rfl canonical members
  have cancel : one.value • R.base + opposite.value • R.base = 0 := by
    have zero : one.value + opposite.value = 0 := by
      rw [Scalar.value_ofNat, Scalar.value_ofNat, ← Nat.cast_add]
      exact ZMod.natCast_self _
    rw [← add_smul, zero, zero_smul]
  have neutral : (pair [one, opposite] points >>= sum) = .ok .neutral := by
    rw [given]
    simp [points, cancel]
  refine ⟨same.trans neutral, (permuted [opposite, one] points rfl ?_).trans neutral, ?_⟩
  · exact List.Perm.swap _ _ _
  · obtain ⟨same, mismatch, -⟩ := sum_outcome [one] points
    exact same.trans (mismatch (by decide))

end Multiscalar

end AmountProofs
