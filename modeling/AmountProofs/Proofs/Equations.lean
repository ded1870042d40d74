import AmountProofs.Proofs.PointSums
import Mathlib.Algebra.BigOperators.Fin
import Mathlib.Data.Fin.VecNotation

/-!
The equations of a statement, and the weighted sum that checks them all.

`Statement.left` and `Statement.right` write the two sides of the separate equations out in the
group, kind by kind; `Statement.defect` is by how much one of them fails at a challenge, responses
and announced points. `total_terms` finds these defects again in the long list of terms that the
verifier sums up: its value is the sum of the defects, the one of index `i` multiplied by `w ^ i`.
-/

namespace AmountProofs

open scoped ProofKind

variable {S : Suite} {E : Type} [AddCommGroup E] [Module Residue E] {k : ProofKind}

/-! ## The separate equations -/

instance (k : ProofKind) : NeZero k.witnesses := ⟨by cases k <;> decide⟩

namespace Statement

/-- The points of a statement in the order in which they are written. -/
def pointAt : {k : ProofKind} → Statement S k → Fin k.points → Point S
  | _, .zeroCiphertext key ciphertext =>
    ![key.point, ciphertext.commitment.point, ciphertext.handle.point]
  | _, .commitmentEquality key ciphertext commitment =>
    ![key.point, ciphertext.commitment.point, ciphertext.handle.point, commitment.point]
  | _, .ciphertextEquality firstKey secondKey first second =>
    ![firstKey.point, secondKey.point, first.commitment.point, first.handle.point,
      second.commitment.point, second.handle.point]

/-- All points of a statement are points of the group. -/
def Covered (R : S.Reading E) (statement : Statement S k) : Prop :=
  ∀ i, statement.pointAt i ∈ R.points

/-- The key that the secret belongs to. -/
def key : {k : ProofKind} → Statement S k → PublicKey S
  | _, .zeroCiphertext key _ => key
  | _, .commitmentEquality key _ _ => key
  | _, .ciphertextEquality firstKey _ _ _ => firstKey

/-- The left sides of the equations, at residues in place of the secret, the amount and the
opening. -/
noncomputable def left (R : S.Reading E) :
    {k : ProofKind} → Statement S k → (Fin k.witnesses → Residue) → Fin k.rows → E
  | _, .zeroCiphertext key ciphertext, z =>
    ![z 0 • R.read key.point,
      z 0 • R.read ciphertext.handle.point]
  | _, .commitmentEquality key ciphertext _, z =>
    ![z 0 • R.read key.point,
      z 1 • R.base + z 0 • R.read ciphertext.handle.point,
      z 1 • R.base + z 2 • R.blinding]
  | _, .ciphertextEquality firstKey secondKey first _, z =>
    ![z 0 • R.read firstKey.point,
      z 1 • R.base + z 0 • R.read first.handle.point,
      z 1 • R.base + z 2 • R.blinding,
      z 2 • R.read secondKey.point]

/-- The right sides of the equations. -/
noncomputable def right (R : S.Reading E) : {k : ProofKind} → Statement S k → Fin k.rows → E
  | _, .zeroCiphertext _ ciphertext =>
    ![R.blinding, R.read ciphertext.commitment.point]
  | _, .commitmentEquality _ ciphertext commitment =>
    ![R.blinding, R.read ciphertext.commitment.point, R.read commitment.point]
  | _, .ciphertextEquality _ _ first second =>
    ![R.blinding, R.read first.commitment.point, R.read second.commitment.point,
      R.read second.handle.point]

/-- What a statement says of a secret `a 0`, an amount `a 1` and an opening `a 2`. -/
def Holds (R : S.Reading E) : {k : ProofKind} → Statement S k → (Fin k.witnesses → Residue) → Prop
  | _, .zeroCiphertext key ciphertext, a =>
    a 0 • R.read key.point = R.blinding ∧
      R.read ciphertext.commitment.point - a 0 • R.read ciphertext.handle.point = 0
  | _, .commitmentEquality key ciphertext commitment, a =>
    a 0 • R.read key.point = R.blinding ∧
      R.read ciphertext.commitment.point - a 0 • R.read ciphertext.handle.point = a 1 • R.base ∧
      R.read commitment.point = a 1 • R.base + a 2 • R.blinding
  | _, .ciphertextEquality firstKey secondKey first second, a =>
    a 0 • R.read firstKey.point = R.blinding ∧
      R.read first.commitment.point - a 0 • R.read first.handle.point = a 1 • R.base ∧
      R.read second.commitment.point = a 1 • R.base + a 2 • R.blinding ∧
      R.read second.handle.point = a 2 • R.read secondKey.point

/-- By how much an equation fails at a challenge, responses and announced points. -/
noncomputable def defect (R : S.Reading E) (statement : Statement S k) (c : Residue)
    (z : Fin k.witnesses → Residue) (announced : Fin k.rows → E) (i : Fin k.rows) : E :=
  statement.left R z i - c • statement.right R i - announced i

/-- A statement holds of what solves its equations. -/
theorem holds_iff (R : S.Reading E) (statement : Statement S k) (a : Fin k.witnesses → Residue) :
    statement.Holds R a ↔ ∀ i, statement.left R a i = statement.right R i := by
  cases statement with
  | zeroCiphertext key ciphertext =>
    rw [Fin.forall_fin_two]
    refine and_congr Iff.rfl ?_
    rw [sub_eq_zero]
    exact eq_comm
  | commitmentEquality key ciphertext commitment =>
    rw [Fin.forall_fin_succ, Fin.forall_fin_two]
    refine and_congr Iff.rfl (and_congr ?_ eq_comm)
    rw [sub_eq_iff_eq_add]
    exact eq_comm
  | ciphertextEquality firstKey secondKey first second =>
    rw [Fin.forall_fin_succ, Fin.forall_fin_succ, Fin.forall_fin_two]
    refine and_congr Iff.rfl (and_congr ?_ (and_congr eq_comm eq_comm))
    rw [sub_eq_iff_eq_add]
    exact eq_comm

theorem defect_eq_zero_iff {R : S.Reading E} {statement : Statement S k} {c : Residue}
    {z : Fin k.witnesses → Residue} {announced : Fin k.rows → E} {i : Fin k.rows} :
    statement.defect R c z announced i = 0 ↔
      statement.left R z i = c • statement.right R i + announced i := by
  rw [defect, sub_sub, sub_eq_zero]

/-- The left sides are linear. -/
theorem left_add_smul (R : S.Reading E) (statement : Statement S k) (c : Residue)
    (a b : Fin k.witnesses → Residue) (i : Fin k.rows) :
    statement.left R (fun j => c * a j + b j) i = c • statement.left R a i + statement.left R b i := by
  cases statement <;> fin_cases i <;> simp [left, add_smul, mul_smul] <;> abel

/-! ## The equations as the verifier holds them -/

/-- The value of a linear form in the group. -/
noncomputable def formTotal (R : S.Reading E) {n : Nat} (form : LinearForm S n)
    (z : Fin n → Residue) : E :=
  (form.map fun term => z term.1 • R.read term.2).sum

theorem forms_mem {R : S.Reading E} {statement : Statement S k} (covered : statement.Covered R)
    (i : Fin k.rows) : ∀ term ∈ statement.forms i, term.2 ∈ R.points := by
  have base := R.base_mem
  have blinding := R.blinding_mem
  cases statement with
  | zeroCiphertext key ciphertext =>
    have key : key.point ∈ R.points := covered 0
    have handle : ciphertext.handle.point ∈ R.points := covered 2
    fin_cases i <;> simp [forms, LinearForm.ofZero, key, handle]
  | commitmentEquality key ciphertext commitment =>
    have key : key.point ∈ R.points := covered 0
    have handle : ciphertext.handle.point ∈ R.points := covered 2
    fin_cases i <;> simp [forms, LinearForm.ofCommitment, key, handle, base, blinding]
  | ciphertextEquality firstKey secondKey first second =>
    have key : firstKey.point ∈ R.points := covered 0
    have secondKey : secondKey.point ∈ R.points := covered 1
    have handle : first.handle.point ∈ R.points := covered 3
    fin_cases i <;> simp [forms, LinearForm.ofCiphertexts, key, secondKey, handle, base, blinding]

theorem targets_mem {R : S.Reading E} {statement : Statement S k} (covered : statement.Covered R)
    (i : Fin k.rows) : statement.targets i ∈ R.points := by
  cases statement with
  | zeroCiphertext key ciphertext =>
    match i with
    | 0 => exact R.blinding_mem
    | 1 => exact covered 1
  | commitmentEquality key ciphertext commitment =>
    match i with
    | 0 => exact R.blinding_mem
    | 1 => exact covered 1
    | 2 => exact covered 3
  | ciphertextEquality firstKey secondKey first second =>
    match i with
    | 0 => exact R.blinding_mem
    | 1 => exact covered 2
    | 2 => exact covered 4
    | 3 => exact covered 5

theorem formTotal_forms (R : S.Reading E) (statement : Statement S k)
    (z : Fin k.witnesses → Residue) (i : Fin k.rows) :
    formTotal R (statement.forms i) z = statement.left R z i := by
  cases statement <;> fin_cases i <;>
    simp [formTotal, forms, left, LinearForm.ofZero, LinearForm.ofCommitment,
      LinearForm.ofCiphertexts]

theorem read_targets (R : S.Reading E) (statement : Statement S k) (i : Fin k.rows) :
    R.read (statement.targets i) = statement.right R i := by
  cases statement <;> fin_cases i <;> simp [targets, right]

/-- A statement that holds: of the secret one, the amount two and the opening three. -/
def sample (R : S.Reading E) : Statement S .ciphertextEquality :=
  .ciphertextEquality ⟨R.point R.blinding⟩ ⟨R.point R.base⟩
    ⟨⟨R.point (((3 : Int) : Residue) • R.base)⟩, ⟨R.point R.base⟩⟩
    ⟨⟨R.point (((2 : Int) : Residue) • R.base + ((3 : Int) : Residue) • R.blinding)⟩,
      ⟨R.point (((3 : Int) : Residue) • R.base)⟩⟩

theorem covered_sample (R : S.Reading E) : (sample R).Covered R := by
  intro i
  fin_cases i <;> exact R.point_mem _

theorem holds_sample (R : S.Reading E) :
    (sample R).Holds R fun j => (![.ofNat 1, .ofNat 2, .ofNat 3] : Fin 3 → Scalar) j |>.value := by
  have whole : (3 : Residue) • R.base - (1 : Residue) • R.base = (2 : Residue) • R.base := by
    rw [← sub_smul]
    norm_num
  simpa [sample, Holds] using whole

end Statement

/-! ## The weighted sum -/

namespace Proof

/-- The terms of the sum add up to the neutral element. -/
def Balances (statement : Statement S k) (c w : Scalar) (z : Fin k.witnesses → Scalar)
    (announced : Fin k.rows → Point S) : Prop :=
  sumTerms k (terms statement c w z announced) = .ok .neutral

/-- The weight of an equation is a power of the drawn weight. -/
theorem value_power (w : Scalar) (i : Nat) : (power w i).value = w.value ^ (i + 1) := by
  induction i with
  | zero => rw [power, zero_add, pow_one]
  | succ i ih => rw [power, Scalar.value_mul, ih, ← pow_succ']

@[simp] theorem value_weigh (w : Scalar) (i : Nat) (s : Scalar) :
    (weigh w i s).value = w.value ^ i * s.value := by
  cases i with
  | zero => rw [weigh, pow_zero, one_mul]
  | succ i => rw [weigh, Scalar.value_mul, value_power]

theorem admissible_weigh (w : Scalar) (i : Nat) {s : Scalar} (admissible : s.Admissible) :
    (weigh w i s).Admissible := by
  cases i with
  | zero => exact admissible
  | succ i => exact .of_isCanonical (Scalar.isCanonical_mul _ _)

theorem topBitClear_weigh (w : Scalar) (i : Nat) {s : Scalar} (clear : s.TopBitClear) :
    (weigh w i s).TopBitClear := by
  cases i with
  | zero => exact clear
  | succ i => exact .of_isCanonical (Scalar.isCanonical_mul _ _)

/-- A property of scalars that reduced ones have holds of all scalars of the sum if it holds of the
weighed responses. -/
theorem forall_terms_fst {P : Scalar → Prop} (reduced : ∀ s, s.isCanonical = true → P s)
    {statement : Statement S k} {c w : Scalar} {z : Fin k.witnesses → Scalar}
    {announced : Fin k.rows → Point S} (responses : ∀ i j, P (weigh w i (z j))) :
    ∀ term ∈ terms statement c w z announced, P term.1 := by
  intro term listed
  obtain ⟨i, -, listed⟩ := List.mem_flatMap.1 listed
  rcases List.mem_append.1 listed with form | rest
  · obtain ⟨⟨j, p⟩, -, rfl⟩ := List.mem_map.1 form
    exact responses i j
  · simp only [List.mem_cons, List.not_mem_nil, or_false] at rest
    rcases rest with rfl | rfl
    · exact reduced _ (Scalar.isCanonical_neg _)
    · exact reduced _ (Scalar.isCanonical_neg _)

/-- All points of the sum are points of the group. -/
theorem terms_mem {R : S.Reading E} {statement : Statement S k} (covered : statement.Covered R)
    (c w : Scalar) (z : Fin k.witnesses → Scalar) (announced : Fin k.rows → E) :
    ∀ term ∈ terms statement c w z (fun i => R.point (announced i)), term.2 ∈ R.points := by
  intro term listed
  obtain ⟨i, -, listed⟩ := List.mem_flatMap.1 listed
  rcases List.mem_append.1 listed with form | rest
  · obtain ⟨⟨j, p⟩, member, rfl⟩ := List.mem_map.1 form
    exact Statement.forms_mem covered i (j, p) member
  · simp only [List.mem_cons, List.not_mem_nil, or_false] at rest
    rcases rest with rfl | rfl
    · exact Statement.targets_mem covered i
    · exact R.point_mem _

/-- One equation contributes its defect, weighed. -/
theorem total_rowTerms (R : S.Reading E) (statement : Statement S k) (c w : Scalar)
    (z : Fin k.witnesses → Scalar) (announced : Fin k.rows → E) (i : Fin k.rows) :
    R.total (rowTerms c w z i (statement.forms i) (statement.targets i) (R.point (announced i))) =
      w.value ^ i.val • statement.defect R c.value (fun j => (z j).value) announced i := by
  have form : R.total ((statement.forms i).map fun term => (weigh w i (z term.1), term.2)) =
      w.value ^ i.val • statement.left R (fun j => (z j).value) i := by
    rw [← Statement.formTotal_forms, Statement.formTotal, List.smul_sum, List.map_map,
      Suite.Reading.total, List.map_map]
    refine congrArg List.sum (List.map_congr_left fun term _ => ?_)
    simp only [Function.comp_apply, value_weigh, mul_smul]
  rw [rowTerms, R.total_append]
  change R.total ((statement.forms i).map fun term => (weigh w i (z term.1), term.2)) + _ = _
  rw [form]
  simp only [Suite.Reading.total_cons, Suite.Reading.total_nil, Scalar.value_neg, value_weigh,
    Scalar.value_one, mul_one, add_zero, R.read_point, Statement.read_targets, neg_smul, mul_smul,
    Statement.defect, smul_sub]
  abel

/-- The sum is that of the weighed defects. -/
theorem total_terms (R : S.Reading E) (statement : Statement S k) (c w : Scalar)
    (z : Fin k.witnesses → Scalar) (announced : Fin k.rows → E) :
    R.total (terms statement c w z fun i => R.point (announced i)) =
      ∑ i, w.value ^ i.val • statement.defect R c.value (fun j => (z j).value) announced i := by
  have flat : ∀ rows : List (Fin k.rows),
      R.total (rows.flatMap fun i : Fin k.rows =>
        rowTerms c w z i (statement.forms i) (statement.targets i) (R.point (announced i))) =
      (rows.map fun i =>
        w.value ^ i.val • statement.defect R c.value (fun j => (z j).value) announced i).sum := by
    intro rows
    induction rows with
    | nil => rfl
    | cons i rows ih =>
      rw [List.flatMap_cons, R.total_append, total_rowTerms, ih, List.map_cons, List.sum_cons]
  rw [terms, flat, Fin.sum_univ_def]

/-- With admissible responses the sum is never refused. -/
theorem sumTerms_terms {R : S.Reading E} {statement : Statement S k} (covered : statement.Covered R)
    (c w : Scalar) {z : Fin k.witnesses → Scalar} (admissible : ∀ j, (z j).Admissible)
    (announced : Fin k.rows → E) :
    sumTerms k (terms statement c w z fun i => R.point (announced i)) =
      .ok (R.point (∑ i, w.value ^ i.val •
        statement.defect R c.value (fun j => (z j).value) announced i)) := by
  rw [sumTerms_eq_sum, ← total_terms]
  exact R.sum_eq_ok (terms_mem covered c w z announced)
    (forall_terms_fst (fun _ reduced => .of_isCanonical reduced)
      fun i j => admissible_weigh w i (admissible j))

/-- With reduced responses the sum balances exactly if the weighed defects cancel. -/
theorem balances_iff {R : S.Reading E} {statement : Statement S k} (covered : statement.Covered R)
    (c w : Scalar) {z : Fin k.witnesses → Scalar} (canonical : ∀ j, (z j).isCanonical = true)
    (announced : Fin k.rows → E) :
    Balances statement c w z (fun i => R.point (announced i)) ↔
      ∑ i, w.value ^ i.val • statement.defect R c.value (fun j => (z j).value) announced i = 0 := by
  rw [Balances, sumTerms_terms covered c w fun j => .of_isCanonical (canonical j), ← R.point_zero]
  exact ⟨fun same => R.point_injective (Except.ok.inj same), fun zero => by rw [zero]⟩

/-- Where a sum with other responses balances, the weighed defects cancel too. -/
theorem Balances.sum_defect_eq_zero {R : S.Reading E} {statement : Statement S k}
    (covered : statement.Covered R) {c w : Scalar} {z : Fin k.witnesses → Scalar}
    (clear : ∀ j, (z j).TopBitClear) {announced : Fin k.rows → E}
    (balances : Balances statement c w z fun i => R.point (announced i)) :
    ∑ i, w.value ^ i.val • statement.defect R c.value (fun j => (z j).value) announced i = 0 := by
  rw [Balances, sumTerms_eq_sum] at balances
  have given := R.eq_of_sum_eq_ok (terms_mem covered c w z announced)
    (forall_terms_fst (fun _ reduced => .of_isCanonical reduced)
      fun i j => topBitClear_weigh w i (clear j)) balances
  rw [← R.point_zero, total_terms] at given
  exact (R.point_injective given).symm

/-! ## Responses -/

/-- The responses to a challenge fail an equation by the challenge times what the secrets fail it
by. -/
theorem defect_respond (R : S.Reading E) (statement : Statement S k) (c : Scalar)
    (secrets masks : Fin k.witnesses → Scalar) (i : Fin k.rows) :
    statement.defect R c.value (fun j => (Witness.respond c secrets masks j).value)
        (statement.left R fun j => (masks j).value) i =
      c.value • (statement.left R (fun j => (secrets j).value) i - statement.right R i) := by
  have linear : (fun j => (Witness.respond c secrets masks j).value) =
      fun j => c.value * (secrets j).value + (masks j).value := by
    funext j
    rw [Witness.respond, Scalar.value_add, Scalar.value_mul]
  rw [Statement.defect, linear, Statement.left_add_smul, smul_sub]
  abel

/-- What a statement holds of answers every challenge at every weight. -/
theorem sum_defect_respond (R : S.Reading E) (statement : Statement S k) (c w : Scalar)
    {secrets : Fin k.witnesses → Scalar} (holds : statement.Holds R fun j => (secrets j).value)
    (masks : Fin k.witnesses → Scalar) :
    ∑ i : Fin k.rows, w.value ^ i.val • statement.defect R c.value
      (fun j => (Witness.respond c secrets masks j).value)
      (statement.left R fun j => (masks j).value) i = 0 := by
  refine Finset.sum_eq_zero fun i _ => ?_
  rw [defect_respond, (statement.holds_iff R _).1 holds i, sub_self, smul_zero, smul_zero]

theorem balances_respond {R : S.Reading E} {statement : Statement S k}
    (covered : statement.Covered R) (c w : Scalar) {secrets : Fin k.witnesses → Scalar}
    (holds : statement.Holds R fun j => (secrets j).value) (masks : Fin k.witnesses → Scalar) :
    Balances statement c w (Witness.respond c secrets masks)
      fun i => R.point (statement.left R (fun j => (masks j).value) i) :=
  (balances_iff covered c w (fun _ => Scalar.isCanonical_add _ _) _).2
    (sum_defect_respond R statement c w holds masks)

end Proof

end AmountProofs
