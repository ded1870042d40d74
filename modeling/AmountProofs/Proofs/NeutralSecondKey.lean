import AmountProofs.Proofs.ProverVerdict

/-!
Equality with a ciphertext under the neutral key.

Under the neutral key every handle is neutral. So the last equation of a statement with a neutral
second key asks that the second handle is neutral, and it asks nothing of the opening; the other
three do not mention the second key. If they hold and the handle is neutral, the proof is accepted
on every transcript, and only a policy that refuses neutral keys rejects it
(`Proof.verify_of_neutral_secondKey`). A neutral first key is another matter, since no secret
multiplies it to the blinding generator.
-/

namespace AmountProofs

variable {S : Suite} {E : Type} [AddCommGroup E] [Module Residue E] {k : ProofKind}

/-- A key that a secret multiplies to the blinding generator is not neutral. -/
theorem PublicKey.isNeutral_eq_false_of_smul (R : S.Reading E) {key : PublicKey S} {s : Residue}
    (matching : s • R.read key.point = R.blinding) : key.point.isNeutral = false := by
  rw [Bool.eq_false_iff, Ne, key.isNeutral_iff]
  rintro rfl
  rw [R.read_neutral, smul_zero] at matching
  exact R.blinding_ne_zero matching.symm

/-! ## The equations -/

namespace Statement

variable {R : S.Reading E} {key : PublicKey S} {first second : Ciphertext S}
  {a : Fin 3 → Residue}

/-- With a neutral second key, the last equation is missed by the second handle. -/
theorem sum_shortfall_of_neutral (w : Residue) :
    ∑ i : Fin ProofKind.ciphertextEquality.rows, w ^ i.val •
      (ciphertextEquality key ⟨.neutral⟩ first second).shortfall R a i =
    (a 0 • R.read key.point - R.blinding) +
      w • (a 1 • R.base + a 0 • R.read first.handle.point - R.read first.commitment.point) +
      w ^ 2 • (a 1 • R.base + a 2 • R.blinding - R.read second.commitment.point) -
      w ^ 3 • R.read second.handle.point := by
  refine (Fin.sum_univ_four _).trans ?_
  change w ^ 0 • (a 0 • R.read key.point - R.blinding) +
      w ^ 1 • (a 1 • R.base + a 0 • R.read first.handle.point - R.read first.commitment.point) +
      w ^ 2 • (a 1 • R.base + a 2 • R.blinding - R.read second.commitment.point) +
      w ^ 3 • (a 2 • R.read Point.neutral - R.read second.handle.point) = _
  rw [pow_zero, one_smul, pow_one, R.read_neutral, smul_zero, zero_sub, smul_neg, ← sub_eq_add_neg]

/-- If the other equations hold, which are those of equality with the second commitment, the sum
vanishes with the second handle, or with the challenge or the weight. -/
theorem smul_sum_shortfall_of_neutral_eq_zero_iff
    (holds : (commitmentEquality key first second.commitment).Holds R a) (c w : Residue) :
    c • ∑ i : Fin ProofKind.ciphertextEquality.rows, w ^ i.val •
      (ciphertextEquality key ⟨.neutral⟩ first second).shortfall R a i = 0 ↔
    R.read second.handle.point = 0 ∨ c * w = 0 := by
  obtain ⟨opens, held, committed⟩ := holds
  have left_over : ∑ i : Fin ProofKind.ciphertextEquality.rows, w ^ i.val •
      (ciphertextEquality key ⟨.neutral⟩ first second).shortfall R a i =
        -(w ^ 3 • R.read second.handle.point) := by
    rw [sum_shortfall_of_neutral, opens, sub_eq_iff_eq_add.1 held, committed]
    simp only [sub_self, smul_zero, add_zero, zero_sub]
  rw [left_over, smul_neg, neg_eq_zero, smul_smul, smul_eq_zero, mul_eq_zero,
    pow_eq_zero_iff three_ne_zero, mul_eq_zero, or_comm]

end Statement

/-! ## Bundles that were made -/

/-- The label alone decides which transcript a statement is bound to. -/
theorem Statement.transcript_eq_of_label {statement : Statement S k} {making checking : Policy}
    (sameLabel : making.label = checking.label) :
    statement.transcript making = statement.transcript checking := by
  rw [transcript, transcript, Policy.labelOr, Policy.labelOr, sameLabel]

namespace Bundle

theorem on_create {w : Witness S k} {other : Counterpart S k} {policy : Policy} {t : Transcript S}
    (bound : (w.statement other).transcript policy = .ok t) {tape : Tape} {p : Proof k}
    {after : Proving S} (run : (Proof.create w).on ⟨t, tape⟩ = (.ok p, after)) :
    (create w other policy).on tape = (.ok ⟨w.statement other, p⟩, after.tape) := by
  rw [create, bound, Attempt.on_bind_of_ok (Attempt.on_ofExcept _ _)]
  refine (Attempt.on_bind_of_ok ?_ _).trans (Attempt.on_pure _ _)
  rw [Attempt.on_zoom, run]

/-- A bundle that was made holds the statement, and a proof that was made on its transcript. -/
theorem exists_of_on_create {w : Witness S k} {other : Counterpart S k} {policy : Policy}
    {tape rest : Tape} {b : Bundle S k} (run : (create w other policy).on tape = (.ok b, rest)) :
    ∃ t after, (w.statement other).transcript policy = .ok t ∧
      (Proof.create w).on ⟨t, tape⟩ = (.ok b.proof, after) ∧ b.statement = w.statement other := by
  rcases bound : (w.statement other).transcript policy with e | t
  · rw [create, bound, Attempt.on_bind_of_error (Attempt.on_ofExcept _ _)] at run
    cases run
  · rcases made : (Proof.create w).on ⟨t, tape⟩ with ⟨e | p, after⟩
    · rw [create, bound, Attempt.on_bind_of_ok (Attempt.on_ofExcept _ _),
        Attempt.on_bind_of_error (by rw [Attempt.on_zoom, made])] at run
      cases run
    · rw [on_create bound made] at run
      cases run
      exact ⟨t, after, rfl, made, rfl⟩

end Bundle

/-! ## Verdicts -/

namespace Proof

variable {keypair : Keypair S} {first second : Ciphertext S} {r : Opening} {x : Int}

/-- The verdict on a proof that was made for a neutral second key. -/
theorem result_of_neutral_secondKey (R : S.Reading E)
    (covered : (Statement.ciphertextEquality keypair.publicKey ⟨.neutral⟩ first second).Covered R)
    (low : 0 ≤ x) (high : x < 2 ^ 64) {t : Transcript S} {tape : Tape}
    {p : Proof .ciphertextEquality} {after : Proving S}
    (run : (create (.ciphertextEquality keypair ⟨.neutral⟩ first r x)).on ⟨t, tape⟩ =
      (.ok p, after)) :
    ∃ encoded, (p.announcements = fun i => .bytes (encoded i)) ∧
      (p.verify (.ciphertextEquality keypair.publicKey ⟨.neutral⟩ first second) t).result =
        ruling .ciphertextEquality (.ok (R.point
          ((drawnChallenge t encoded).value • ∑ i : Fin ProofKind.ciphertextEquality.rows,
            (drawnWeight t encoded p.responses).value ^ i.val •
              (Statement.ciphertextEquality keypair.publicKey ⟨.neutral⟩ first second).shortfall R
                ![keypair.secretKey.scalar.value, x, r.scalar.value] i))) := by
  have inRange : (Witness.ciphertextEquality keypair ⟨.neutral⟩ first r x).InRange := ⟨low, high⟩
  obtain ⟨secrets, known, values⟩ := Witness.exists_scalars_of_inRange inRange
  have stated : ((Witness.ciphertextEquality keypair ⟨.neutral⟩ first r x).statement
      (.ciphertext second)).Covered R := covered
  obtain ⟨masks, rfl, -⟩ := eq_made_of_on_create R stated known run
  refine ⟨_, rfl, ?_⟩
  have verdict := result_of_made R covered secrets masks t
  rw [values] at verdict
  exact verdict

end Proof

/-- A bundle of a neutral second key and a neutral handle is accepted if the other equations hold,
unless the policy refuses neutral keys. -/
theorem Bundle.verify_of_neutral_handle (R : S.Reading E) {keypair : Keypair S}
    {first second : Ciphertext S} {r : Opening} {x : Int}
    (covered : (Statement.ciphertextEquality keypair.publicKey ⟨.neutral⟩ first second).Covered R)
    (low : 0 ≤ x) (high : x < 2 ^ 64)
    (holds : (Statement.commitmentEquality keypair.publicKey first second.commitment).Holds R
      ![keypair.secretKey.scalar.value, x, r.scalar.value])
    (neutral : second.handle.point = .neutral) {making checking : Policy}
    (sameLabel : making.label = checking.label) {tape rest : Tape}
    {b : Bundle S .ciphertextEquality}
    (run : (create (.ciphertextEquality keypair ⟨.neutral⟩ first r x) (.ciphertext second)
      making).on tape = (.ok b, rest)) :
    b.verify checking =
      if checking.rejectNeutralKeys = true then
        (.error (.library (.create (.rejection .equality) .pubkeyIsIdentity "" .null)), [])
      else (.ok (), []) := by
  obtain ⟨t, after, bound, made, stated⟩ := exists_of_on_create run
  obtain ⟨statement, p⟩ := b
  obtain rfl : statement = .ciphertextEquality keypair.publicKey ⟨.neutral⟩ first second := stated
  have proper := PublicKey.isNeutral_eq_false_of_smul R holds.1
  have checked := checkKeys_eq
    (b := ⟨.ciphertextEquality keypair.publicKey ⟨.neutral⟩ first second, p⟩) proper checking
  by_cases strict : checking.rejectNeutralKeys = true
  · rw [if_pos ⟨strict, rfl⟩] at checked
    rw [if_pos strict]
    exact verify_of_refused checked
  · rw [if_neg fun refused => strict refused.1] at checked
    obtain ⟨encoded, -, verdict⟩ := Proof.result_of_neutral_secondKey R covered low high made
    have accepted : (p.verify (.ciphertextEquality keypair.publicKey ⟨.neutral⟩ first second)
        t).result = .ok () := by
      rw [verdict, (Proof.ruling_point R _ _).1,
        Statement.smul_sum_shortfall_of_neutral_eq_zero_iff holds]
      exact .inl (by rw [neutral, R.read_neutral])
    have rebound := (Statement.transcript_eq_of_label sameLabel).symm.trans bound
    rw [if_neg strict, verify_of_bound checked rebound, accepted]
    exact congrArg (Prod.mk _) (congrArg (Proof.rejectionLog .ciphertextEquality) accepted)

namespace Proof

variable {keypair : Keypair S} {first second : Ciphertext S} {r : Opening} {x : Int}

/-- A neutral second key is not refused by the equations. A proof that was made for it is accepted
exactly if the challenge times the weighed misses of the four equations is neutral, and the last one
is missed by the second handle. So if the key belongs to the secret and both sides hold the amount,
it is accepted with a neutral handle always, and with another one only if the challenge or the
weight is zero; and a bundle of it is accepted by every policy of the same label that allows neutral
keys. -/
theorem verify_of_neutral_secondKey (R : S.Reading E)
    (covered : (Statement.ciphertextEquality keypair.publicKey ⟨.neutral⟩ first second).Covered R)
    (low : 0 ≤ x) (high : x < 2 ^ 64) :
    let w := Witness.ciphertextEquality keypair ⟨.neutral⟩ first r x
    let statement := Statement.ciphertextEquality keypair.publicKey ⟨.neutral⟩ first second
    let s := keypair.secretKey.scalar.value
    let OthersHold := (Statement.commitmentEquality keypair.publicKey first second.commitment).Holds
      R ![s, x, r.scalar.value]
    (∀ (t : Transcript S) (tape : Tape), 3 ≤ tape.usable →
      ∃ p after, (create w).on ⟨t, tape⟩ = (.ok p, after)) ∧
    (∀ (t : Transcript S) (tape : Tape) (p : Proof .ciphertextEquality) (after : Proving S),
      (create w).on ⟨t, tape⟩ = (.ok p, after) →
      ∃ encoded, (p.announcements = fun i => .bytes (encoded i)) ∧
        let c := (drawnChallenge t encoded).value
        let weight := (drawnWeight t encoded p.responses).value
        let result := (p.verify statement t).result
        let sum := c • ((s • R.read keypair.publicKey.point - R.blinding) +
          weight • ((x : Residue) • R.base + s • R.read first.handle.point -
            R.read first.commitment.point) +
          weight ^ 2 • ((x : Residue) • R.base + r.scalar.value • R.blinding -
            R.read second.commitment.point) -
          weight ^ 3 • R.read second.handle.point)
        (result = .ok () ↔ sum = 0) ∧
        (result = .error (.library ⟨.rejection .equality, .algebraicRelation,
          ErrorCode.algebraicRelation.defaultReason, none⟩) ↔ sum ≠ 0) ∧
        (OthersHold →
          (result = .ok () ↔ second.handle.point = .neutral ∨ c * weight = 0))) ∧
    (OthersHold → second.handle.point = .neutral →
      ∀ making checking : Policy, making.label = checking.label →
        ∀ (tape rest : Tape) (b : Bundle S .ciphertextEquality),
          (Bundle.create w (.ciphertext second) making).on tape = (.ok b, rest) →
          b.verify checking =
            if checking.rejectNeutralKeys = true then
              (.error (.library (.create (.rejection .equality) .pubkeyIsIdentity "" .null)), [])
            else (.ok (), [])) := by
  intro w statement s OthersHold
  refine ⟨fun t tape enough => ?_, fun t tape p after run => ?_, fun others neutral => ?_⟩
  · have inRange : w.InRange := ⟨low, high⟩
    obtain ⟨secrets, known, -⟩ := Witness.exists_scalars_of_inRange inRange
    have stated : (w.statement (.ciphertext second)).Covered R := covered
    obtain ⟨masks, rest, run⟩ := exists_on_create R stated known enough t
    exact ⟨_, _, run⟩
  · obtain ⟨encoded, announces, verdict⟩ := result_of_neutral_secondKey R covered low high run
    refine ⟨encoded, announces, ?_⟩
    intro c weight result sum
    obtain ⟨accepted, rejected⟩ := ruling_point R .ciphertextEquality sum
    have written : c • ∑ i : Fin ProofKind.ciphertextEquality.rows, weight ^ i.val •
        statement.shortfall R ![s, x, r.scalar.value] i = sum :=
      congrArg (c • ·) (Statement.sum_shortfall_of_neutral weight)
    have decided : result = ruling .ciphertextEquality (.ok (R.point sum)) := by
      rw [← written]
      exact verdict
    rw [decided]
    refine ⟨accepted, rejected, fun others => ?_⟩
    have member : second.handle.point ∈ R.points := covered 5
    rw [accepted, ← written, Statement.smul_sum_shortfall_of_neutral_eq_zero_iff others,
      R.read_eq_zero_iff member]
  · intro making checking sameLabel tape rest b run
    exact Bundle.verify_of_neutral_handle R covered low high others neutral sameLabel run

/-- The holder of the secret one and of a ciphertext of fifty-five, who re-encrypts it under the
neutral key with the opening three. -/
def toNeutralKey (R : S.Reading E) : Witness S .ciphertextEquality :=
  .ciphertextEquality ⟨⟨R.point R.blinding⟩, ⟨.ofNat 1⟩⟩ ⟨.neutral⟩
    ⟨⟨R.point (((55 : Int) : Residue) • R.base + R.base)⟩, ⟨R.point R.base⟩⟩ ⟨.ofNat 3⟩ 55

/-- The ciphertext that is made of fifty-five under the neutral key. -/
def underNeutralKey (R : S.Reading E) : Ciphertext S :=
  ⟨⟨R.point (((55 : Int) : Residue) • R.base + ((3 : Int) : Residue) • R.blinding)⟩, ⟨.neutral⟩⟩

theorem covered_underNeutralKey (R : S.Reading E) :
    ((toNeutralKey R).statement (.ciphertext (underNeutralKey R))).Covered R := by
  intro i
  fin_cases i
  · exact R.point_mem _
  · exact R.neutral_mem
  · exact R.point_mem _
  · exact R.point_mem _
  · exact R.point_mem _
  · exact R.neutral_mem

theorem holds_underNeutralKey (R : S.Reading E) :
    (Statement.commitmentEquality ⟨R.point R.blinding⟩
      ⟨⟨R.point ((55 : Residue) • R.base + R.base)⟩, ⟨R.point R.base⟩⟩
      (underNeutralKey R).commitment).Holds R
        ![(Scalar.ofNat 1).value, ((55 : Int) : Residue), (Scalar.ofNat 3).value] := by
  simp [underNeutralKey, Statement.Holds]

/-- With three masks a bundle of them is made; it is accepted unless neutral keys are refused. -/
theorem verify_of_neutral_secondKey_of_fiftyFive :
    let R := Suite.standardReading
    ∃ b : Bundle Suite.standard .ciphertextEquality,
      b.statement = (toNeutralKey R).statement (.ciphertext (underNeutralKey R)) ∧
        b.verify {} = (.ok (), []) ∧ b.verify { rejectNeutralKeys := true } =
          (.error (.library (.create (.rejection .equality) .pubkeyIsIdentity "" .null)), []) := by
  intro R
  have low : (0 : Int) ≤ 55 := by decide
  have high : (55 : Int) < 2 ^ 64 := by decide
  obtain ⟨makes, -, accepts⟩ := verify_of_neutral_secondKey (r := ⟨.ofNat 3⟩) R
    (covered_underNeutralKey R) low high
  have bound : ((toNeutralKey R).statement (.ciphertext (underNeutralKey R))).transcript {} =
      .ok (Transcript.start.replay (((toNeutralKey R).statement
        (.ciphertext (underNeutralKey R))).binding ProofKind.ciphertextEquality.statementLabel)) :=
    Statement.transcript_eq_ok rfl
  obtain ⟨p, after, run⟩ := makes _ _ three_le_usable
  have made := Bundle.on_create bound run
  refine ⟨⟨_, p⟩, rfl, ?_, ?_⟩
  · exact accepts (holds_underNeutralKey R) rfl {} {} rfl _ _ _ made
  · exact accepts (holds_underNeutralKey R) rfl {} { rejectNeutralKeys := true } rfl _ _ _ made

end Proof

end AmountProofs
