import AmountProofs.Proofs.BundleCompleteness

/-!
What a verifier says of whatever a prover makes.

A prover never looks at the other side of its statement, and it does not ask whether its secret
belongs to its key; it makes a proof of anything. The masks cancel in the weighted sum, whatever they
are, and what is left is the challenge times the weighed shortfalls of the secrets
(`sum_defect_respond_eq`). So the verdict can be told from the statement, the secrets and the two
challenges alone (`result_of_created`).
-/

namespace AmountProofs

variable {S : Suite} {E : Type} [AddCommGroup E] [Module Residue E] {k : ProofKind}

/-! ## Shortfalls -/

namespace Statement

/-- By how much given scalars miss an equation. -/
noncomputable def shortfall (R : S.Reading E) (statement : Statement S k)
    (a : Fin k.witnesses → Residue) (i : Fin k.rows) : E :=
  statement.left R a i - statement.right R i

/-- One equation fails for given scalars, and all others hold. -/
def FailsOnlyAt (R : S.Reading E) (statement : Statement S k) (a : Fin k.witnesses → Residue)
    (i : Fin k.rows) : Prop :=
  ∀ j, statement.left R a j = statement.right R j ↔ j ≠ i

/-- The weighed shortfalls of a statement that fails at one equation are those of this equation. -/
theorem FailsOnlyAt.sum_shortfall {R : S.Reading E} {statement : Statement S k}
    {a : Fin k.witnesses → Residue} {i : Fin k.rows} (fails : statement.FailsOnlyAt R a i)
    (w : Residue) :
    ∑ j : Fin k.rows, w ^ j.val • statement.shortfall R a j =
      w ^ i.val • statement.shortfall R a i := by
  refine Finset.sum_eq_single i (fun j _ other => ?_) fun absent => ?_
  · rw [shortfall, (fails j).2 other, sub_self, smul_zero]
  · exact absurd (Finset.mem_univ i) absent

theorem FailsOnlyAt.shortfall_ne_zero {R : S.Reading E} {statement : Statement S k}
    {a : Fin k.witnesses → Residue} {i : Fin k.rows} (fails : statement.FailsOnlyAt R a i) :
    statement.shortfall R a i ≠ 0 := by
  intro zero
  exact (fails i).1 (sub_eq_zero.1 zero) rfl

/-- A single failing equation with a weight of its own is missed only if the challenge or the weight
is zero. -/
theorem FailsOnlyAt.smul_sum_shortfall_eq_zero_iff {R : S.Reading E} {statement : Statement S k}
    {a : Fin k.witnesses → Residue} {i : Fin k.rows} (fails : statement.FailsOnlyAt R a i)
    (weighed : i.val ≠ 0) (c w : Residue) :
    c • ∑ j : Fin k.rows, w ^ j.val • statement.shortfall R a j = 0 ↔ c * w = 0 := by
  rw [fails.sum_shortfall, smul_eq_zero, smul_eq_zero_iff_left fails.shortfall_ne_zero,
    pow_eq_zero_iff weighed, mul_eq_zero]

end Statement

/-! ## Witnesses that may be wrong -/

namespace Witness

/-- The amount, where there is one, fits eight bytes. -/
def InRange : Witness S k → Prop
  | .zeroCiphertext _ _ => True
  | .commitmentEquality _ _ _ x => 0 ≤ x ∧ x < 2 ^ 64
  | .ciphertextEquality _ _ _ _ x => 0 ≤ x ∧ x < 2 ^ 64

/-- The secret, the amount and the opening of a witness. -/
def residues : {k : ProofKind} → Witness S k → Fin k.witnesses → Residue
  | _, .zeroCiphertext keypair _ => ![keypair.secretKey.scalar.value]
  | _, .commitmentEquality keypair _ r x => ![keypair.secretKey.scalar.value, x, r.scalar.value]
  | _, .ciphertextEquality keypair _ _ r x => ![keypair.secretKey.scalar.value, x, r.scalar.value]

theorem exists_scalars_of_inRange {w : Witness S k} (inRange : w.InRange) :
    ∃ secrets, w.scalars = .ok secrets ∧ (fun j => (secrets j).value) = w.residues := by
  cases w with
  | zeroCiphertext keypair ciphertext =>
    refine ⟨fun _ => keypair.secretKey.scalar, rfl, funext fun j => ?_⟩
    fin_cases j
    rfl
  | commitmentEquality keypair ciphertext r x =>
    obtain ⟨low, high⟩ := inRange
    refine ⟨_, scalars_commitmentEquality low high _ _ _, funext fun j => ?_⟩
    fin_cases j
    · rfl
    · exact Scalar.value_ofNat_toNat low
    · rfl
  | ciphertextEquality keypair secondKey ciphertext r x =>
    obtain ⟨low, high⟩ := inRange
    refine ⟨_, scalars_ciphertextEquality low high _ _ _ _, funext fun j => ?_⟩
    fin_cases j
    · rfl
    · exact Scalar.value_ofNat_toNat low
    · rfl

end Witness

/-! ## Supplies that run out -/

namespace Tape

/-- A supply without a usable block is used up by the search for one. -/
theorem on_scalar_of_unusable {tape : Tape} (unusable : tape.usable = 0) :
    scalar.on tape = (.error .tapeExhausted, []) := by
  have missing : tape.next? = none := by
    induction tape with
    | nil => rfl
    | cons block tape ih =>
      by_cases zero : (Scalar.ofWide block).isZero = true
      · rw [next?, if_pos zero]
        refine ih ?_
        rwa [usable, List.countP_cons_of_neg (by rw [zero]; exact Bool.false_ne_true)] at unusable
      · rw [usable, List.countP_cons_of_pos (by rw [eq_false_of_ne_true zero]; rfl)] at unusable
        cases unusable
  rw [scalar, Attempt.on_bind_of_ok (Attempt.on_get tape)]
  simp only [missing]
  rw [Attempt.on_bind_of_ok (Attempt.on_set _ _), Attempt.on_throw]

/-- Too few usable blocks give no masks. -/
theorem on_traverse_scalar_of_short {n : Nat} {tape : Tape} (short : tape.usable < n) :
    (Indexed.traverse fun _ : Fin n => scalar).on tape = (.error .tapeExhausted, []) := by
  induction n generalizing tape with
  | zero => exact absurd short (Nat.not_lt_zero _)
  | succ n ih =>
    rw [Indexed.traverse]
    rcases Nat.eq_zero_or_pos tape.usable with unusable | enough
    · exact Attempt.on_bind_of_error (on_scalar_of_unusable unusable) _
    · obtain ⟨skipped, block, rest, rfl, passed, good, drawn⟩ := next?_of_usable enough
      rw [usable_append_cons passed good] at short
      rw [Attempt.on_bind_of_ok (on_scalar drawn)]
      exact Attempt.on_bind_of_error (ih (Nat.lt_of_succ_lt_succ short)) _

end Tape

namespace Proof

/-- With a supply that does not run out a proof is made, of whatever it is asked for. -/
theorem exists_on_create (R : S.Reading E) {w : Witness S k} {other : Counterpart S k}
    (covered : (w.statement other).Covered R) {secrets : Fin k.witnesses → Scalar}
    (known : w.scalars = .ok secrets) {tape : Tape} (enough : k.witnesses ≤ tape.usable)
    (t : Transcript S) :
    ∃ masks rest, (create w).on ⟨t, tape⟩ =
      (.ok (made R (w.statement other) t secrets masks),
        ⟨(t.replay (announcing k (announcedBytes R (w.statement other) masks))).replay
          [challengeEvent, weightEvent], rest⟩) := by
  obtain ⟨masks, rest, drawn, canonical⟩ := Tape.exists_traverse_scalar enough
  exact ⟨masks, rest, on_create R covered known drawn canonical t⟩

/-- With one that runs out none is made. -/
theorem on_create_of_short {w : Witness S k} {secrets : Fin k.witnesses → Scalar}
    (known : w.scalars = .ok secrets) {tape : Tape} (short : tape.usable < k.witnesses)
    (t : Transcript S) :
    (create w).on ⟨t, tape⟩ =
      (.error .tapeExhausted, ⟨t.after (.append Transcript.domainLabel k.domain), []⟩) := by
  rw [create, Attempt.on_bind_of_ok (Proving.on_separateDomain k.domain t tape), known,
    Attempt.on_bind_of_ok (Attempt.on_ofExcept _ _)]
  exact Attempt.on_bind_of_error
    (Proving.on_onTape (Tape.on_traverse_scalar_of_short short) _) _

/-- A proof that was made is one of its witness's secrets with the masks that were drawn. -/
theorem exists_drawn_of_on_create (R : S.Reading E) {w : Witness S k} {other : Counterpart S k}
    (covered : (w.statement other).Covered R) {secrets : Fin k.witnesses → Scalar}
    (known : w.scalars = .ok secrets) {t : Transcript S} {tape : Tape} {p : Proof k}
    {after : Proving S} (run : (create w).on ⟨t, tape⟩ = (.ok p, after)) :
    ∃ masks rest, (Witness.drawMasks k).on tape = (.ok masks, rest) ∧
      p = made R (w.statement other) t secrets masks ∧
      after.transcript =
        (t.replay (announcing k (announcedBytes R (w.statement other) masks))).replay
          [challengeEvent, weightEvent] := by
  rcases Nat.lt_or_ge tape.usable k.witnesses with short | enough
  · rw [on_create_of_short known short] at run
    cases run
  · obtain ⟨masks, rest, drawn, canonical⟩ := Tape.exists_traverse_scalar enough
    rw [on_create R covered known drawn canonical] at run
    cases run
    exact ⟨masks, rest, drawn, rfl, rfl⟩

theorem eq_made_of_on_create (R : S.Reading E) {w : Witness S k} {other : Counterpart S k}
    (covered : (w.statement other).Covered R) {secrets : Fin k.witnesses → Scalar}
    (known : w.scalars = .ok secrets) {t : Transcript S} {tape : Tape} {p : Proof k}
    {after : Proving S} (run : (create w).on ⟨t, tape⟩ = (.ok p, after)) :
    ∃ masks, p = made R (w.statement other) t secrets masks ∧
      after.transcript =
        (t.replay (announcing k (announcedBytes R (w.statement other) masks))).replay
          [challengeEvent, weightEvent] := by
  obtain ⟨masks, rest, -, same, left⟩ := exists_drawn_of_on_create R covered known run
  exact ⟨masks, same, left⟩

/-! ## The verdict -/

/-- The masks cancel: what the responses fail the equations by, weighed, is the challenge times what
the secrets miss them by, weighed. -/
theorem sum_defect_respond_eq (R : S.Reading E) (statement : Statement S k) (c w : Scalar)
    (secrets masks : Fin k.witnesses → Scalar) :
    ∑ i : Fin k.rows, w.value ^ i.val • statement.defect R c.value
        (fun j => (Witness.respond c secrets masks j).value)
        (statement.left R fun j => (masks j).value) i =
      c.value • ∑ i : Fin k.rows,
        w.value ^ i.val • statement.shortfall R (fun j => (secrets j).value) i := by
  rw [Finset.smul_sum]
  refine Finset.sum_congr rfl fun i _ => ?_
  rw [defect_respond, smul_comm]
  rfl

/-- The verdict on a proof that was made, whether its statement holds of the secrets or not. -/
theorem result_of_made (R : S.Reading E) {statement : Statement S k} (covered : statement.Covered R)
    (secrets masks : Fin k.witnesses → Scalar) (t : Transcript S) :
    let p := made R statement t secrets masks
    let encoded := announcedBytes R statement masks
    (p.verify statement t).result = ruling k (.ok (R.point
      ((drawnChallenge t encoded).value • ∑ i : Fin k.rows,
        (drawnWeight t encoded p.responses).value ^ i.val •
          statement.shortfall R (fun j => (secrets j).value) i))) := by
  intro p encoded
  have found := ofPayload_made R statement t secrets masks
  have canonical : ∀ j, (p.responses j).isCanonical = true := isCanonical_respond _ secrets masks
  rw [result_of_found R covered (fun _ => rfl) canonical found t, ← sum_defect_respond_eq R]
  simp only [R.read_point]
  rfl

/-- Whatever a prover is given, a supply that does not run out lets it make a proof. A proof that
was made is accepted on the same transcript exactly if the challenge times the weighed shortfalls
of the secret, the amount and the opening is neutral, and is rejected for the equations if not. If
the key belongs to the secret and one other equation alone fails (the ciphertext holds another
amount, or the other side does), it is rejected unless the challenge or the weight is zero. -/
theorem result_of_created (R : S.Reading E) {w : Witness S k} {other : Counterpart S k}
    (covered : (w.statement other).Covered R) (inRange : w.InRange) (t : Transcript S)
    (tape : Tape) :
    (k.witnesses ≤ tape.usable → ∃ p after, (create w).on ⟨t, tape⟩ = (.ok p, after)) ∧
    ∀ p after, (create w).on ⟨t, tape⟩ = (.ok p, after) →
      ∃ encoded : Fin k.rows → Bytes, (p.announcements = fun i => .bytes (encoded i)) ∧
        let c := (drawnChallenge t encoded).value
        let weight := (drawnWeight t encoded p.responses).value
        let result := (p.verify (w.statement other) t).result
        let sum := c • ∑ i : Fin k.rows,
          weight ^ i.val • (w.statement other).shortfall R w.residues i
        (result = .ok () ↔ sum = 0) ∧
        (result = .error (.library ⟨.rejection k.family, .algebraicRelation,
          ErrorCode.algebraicRelation.defaultReason, none⟩) ↔ sum ≠ 0) ∧
        ∀ i : Fin k.rows, i.val ≠ 0 → (w.statement other).FailsOnlyAt R w.residues i →
          (result = .ok () ↔ c * weight = 0) := by
  obtain ⟨secrets, known, values⟩ := Witness.exists_scalars_of_inRange inRange
  constructor
  · intro enough
    obtain ⟨masks, rest, run⟩ := exists_on_create R covered known enough t
    exact ⟨_, _, run⟩
  · intro p after run
    obtain ⟨masks, rfl, -⟩ := eq_made_of_on_create R covered known run
    refine ⟨announcedBytes R (w.statement other) masks, rfl, ?_⟩
    intro c weight result sum
    have verdict := result_of_made R covered secrets masks t
    rw [values] at verdict
    obtain ⟨accepted, rejected⟩ := ruling_point R k sum
    rw [← unbalanced_eq]
    refine ⟨?_, ?_, fun i weighed fails => ?_⟩
    · exact (iff_of_eq (congrArg (· = .ok ()) verdict)).trans accepted
    · exact (iff_of_eq (congrArg (· = .error (unbalanced k)) verdict)).trans rejected
    · refine (iff_of_eq (congrArg (· = .ok ()) verdict)).trans (accepted.trans ?_)
      exact fails.smul_sum_shortfall_eq_zero_iff weighed c weight

/-- The holder of the secret one, of a ciphertext of fifty-five and of the opening three. -/
def fiftyFive (R : S.Reading E) : Witness S .commitmentEquality :=
  .commitmentEquality ⟨⟨R.point R.blinding⟩, ⟨.ofNat 1⟩⟩
    ⟨⟨R.point (((55 : Int) : Residue) • R.base + R.base)⟩, ⟨R.point R.base⟩⟩ ⟨.ofNat 3⟩ 55

/-- A commitment to seventy-seven with the same opening. -/
def seventySeven (R : S.Reading E) : Counterpart S .commitmentEquality :=
  .commitment ⟨R.point (((77 : Int) : Residue) • R.base + ((3 : Int) : Residue) • R.blinding)⟩

theorem failsOnlyAt_seventySeven (R : S.Reading E) :
    ((fiftyFive R).statement (seventySeven R)).FailsOnlyAt R (fiftyFive R).residues 2 := by
  have apart : (55 : Residue) • R.base ≠ (77 : Residue) • R.base := by
    have different : (55 : Residue) ≠ 77 := by decide +kernel
    exact fun same => different (smul_left_injective Residue R.base_ne_zero same)
  intro j
  fin_cases j
  · simp [fiftyFive, seventySeven, Witness.statement, Witness.residues, Statement.left,
      Statement.right]
  · simp [fiftyFive, seventySeven, Witness.statement, Witness.residues, Statement.left,
      Statement.right]
  · have fails : ((fiftyFive R).statement (seventySeven R)).left R (fiftyFive R).residues 2 ≠
        ((fiftyFive R).statement (seventySeven R)).right R 2 := by
      simpa [fiftyFive, seventySeven, Witness.statement, Witness.residues, Statement.left,
        Statement.right] using apart
    exact iff_of_false fails fun other => other rfl

/-- Three blocks of ones give three masks. -/
theorem three_le_usable : 3 ≤ Tape.usable (List.replicate 3 (Vector.replicate 64 1)) := by
  decide +kernel

/-- With three masks, the proof of fifty-five against seventy-seven is made, and is accepted only
if the challenge or the weight is zero. -/
theorem result_of_created_seventySeven :
    let R := Suite.standardReading
    let statement := (fiftyFive R).statement (seventySeven R)
    ∃ (p : Proof .commitmentEquality) (encoded : Fin ProofKind.commitmentEquality.rows → Bytes),
      ((create (fiftyFive R)).on ⟨.start, List.replicate 3 (Vector.replicate 64 1)⟩).1 = .ok p ∧
      ((p.verify statement .start).result = .ok () ↔
        (drawnChallenge (.start : Transcript Suite.standard) encoded).value *
          (drawnWeight (.start : Transcript Suite.standard) encoded p.responses).value = 0) := by
  intro R statement
  have covered : statement.Covered R := by
    intro i
    fin_cases i <;> exact R.point_mem _
  have inRange : (fiftyFive R).InRange := by
    constructor <;> decide
  obtain ⟨succeeds, verdict⟩ := result_of_created R covered inRange .start
    (List.replicate 3 (Vector.replicate 64 1))
  obtain ⟨p, after, run⟩ := succeeds three_le_usable
  obtain ⟨encoded, -, -, -, single⟩ := verdict p after run
  exact ⟨p, encoded, congrArg Prod.fst run, single 2 (by decide) (failsOnlyAt_seventySeven R)⟩

end Proof

end AmountProofs
