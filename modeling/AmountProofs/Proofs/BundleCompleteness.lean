import AmountProofs.Proofs.OpenedAmounts
import AmountProofs.Proofs.ProverRun
import AmountProofs.Proofs.WireRoundTrip

/-!
Honest bundles are accepted.

`Witness.Honest` says what a prover may hold: the keypair of a secret, a ciphertext of an amount
under it, and the other side made from the same amount and an opening. A bundle that is made of this,
written, read and verified is accepted, whatever the masks and the challenges turn out to be. A
policy may still refuse a neutral second key; the first key is never neutral.
-/

namespace AmountProofs

open Transcript (Event)

variable {S : Suite} {E : Type} [AddCommGroup E] [Module Residue E] {k : ProofKind}

/-! ## Binding a statement -/

/-- The label of a policy without unpaired surrogates has a UTF-8 form. -/
theorem Policy.labelOr_eq_ok {policy : Policy} (paired : ∀ c ∈ policy.label, c.isSurrogate = false)
    (other : Bytes) : ∃ label, policy.labelOr other = .ok label := by
  unfold Policy.labelOr
  split
  · exact ⟨other, rfl⟩
  · have encoded : policy.label.utf8? = some (policy.label.flatMap CodePoint.utf8) := by
      refine if_neg fun surrogate => ?_
      obtain ⟨c, listed, unpaired⟩ := List.any_eq_true.1 surrogate
      rw [paired c listed] at unpaired
      cases unpaired
    rw [encoded]
    exact ⟨_, rfl⟩

namespace Statement

/-- What binding a statement does to a transcript. -/
def binding (statement : Statement S k) (label : Bytes) : List Event :=
  .append Transcript.domainLabel label ::
    statement.parts.map fun (name, part) => .append (Bytes.ofAscii name) part

theorem length_partName_le (statement : Statement S k) :
    ∀ part ∈ statement.parts, (Bytes.ofAscii part.1).length ≤ Transcript.maxLabelSize := by
  cases statement <;> simp only [parts, List.forall_mem_cons, List.not_mem_nil, false_imp_iff,
    implies_true, and_true] <;> decide +kernel

/-- Parts with short names are absorbed one after the other. -/
theorem on_appendParts {parts : List (String × Bytes)}
    (short : ∀ part ∈ parts, (Bytes.ofAscii part.1).length ≤ Transcript.maxLabelSize)
    (t : Transcript S) :
    (parts.forM fun (name, part) =>
        Transcript.appendMessage (S := S) (Proof.label name) (.bytes part)).on t =
      (.ok (), t.replay (parts.map fun (name, part) => .append (Bytes.ofAscii name) part)) := by
  induction parts generalizing t with
  | nil => rfl
  | cons part rest ih =>
    have first : (Transcript.appendMessage (Proof.label part.1) (.bytes part.2)).on t =
        (.ok (), t.after (.append (Bytes.ofAscii part.1) part.2)) :=
      Transcript.on_appendMessage rfl rfl (short part List.mem_cons_self) t
    have later := ih (fun part listed => short part (List.mem_cons_of_mem _ listed))
      (t.after (.append (Bytes.ofAscii part.1) part.2))
    exact (Attempt.on_bind_of_ok first _).trans later

/-- A label that a policy gives is bound with all parts of the statement. -/
theorem transcript_eq_ok {statement : Statement S k} {policy : Policy} {label : Bytes}
    (named : policy.labelOr k.statementLabel = .ok label) :
    statement.transcript policy = .ok (Transcript.start.replay (statement.binding label)) := by
  have created : Transcript.create (S := S) (.bytes label) =
      .ok (Transcript.start.after (.append Transcript.domainLabel label)) :=
    Transcript.create_eq_ok rfl
  have bound := on_appendParts (S := S) statement.length_partName_le
    (Transcript.start.after (.append Transcript.domainLabel label))
  simp only [transcript, named, created, bound, bind, Except.bind, pure, Except.pure]
  rfl

end Statement

/-! ## Honest witnesses -/

/-- The scalars of a prover whose amount is in range. -/
theorem Witness.scalars_commitmentEquality {x : Int} (low : 0 ≤ x) (high : x < 2 ^ 64)
    (keypair : Keypair S) (ciphertext : Ciphertext S) (r : Opening) :
    (commitmentEquality keypair ciphertext r x).scalars =
      .ok ![keypair.secretKey.scalar, .ofNat x.toNat, r.scalar] := by
  rw [scalars, Scalar.ofAmount_eq_ok low high]
  refine congrArg Except.ok (funext fun j => ?_)
  fin_cases j <;> rfl

theorem Witness.scalars_ciphertextEquality {x : Int} (low : 0 ≤ x) (high : x < 2 ^ 64)
    (keypair : Keypair S) (secondKey : PublicKey S) (ciphertext : Ciphertext S) (r : Opening) :
    (ciphertextEquality keypair secondKey ciphertext r x).scalars =
      .ok ![keypair.secretKey.scalar, .ofNat x.toNat, r.scalar] := by
  rw [scalars, Scalar.ofAmount_eq_ok low high]
  refine congrArg Except.ok (funext fun j => ?_)
  fin_cases j <;> rfl

/-- The keypair of a secret other than zero. -/
theorem Keypair.ofSecret_eq_ok (R : S.Reading E) {s : SecretKey}
    (nonzero : s.scalar.isZero = false) :
    Keypair.ofSecret s = .ok ⟨⟨R.point (s.scalar.value⁻¹ • R.blinding)⟩, s⟩ := by
  rw [ofSecret, PublicKey.ofSecret_eq_ok R nonzero]
  rfl

/-- What an honest prover holds under a keypair: a ciphertext `(C, D)` that holds an amount, and a
commitment or a second ciphertext of the same amount with a known opening. -/
inductive Witness.Honest (R : S.Reading E) (keypair : Keypair S) :
    {k : ProofKind} → Witness S k → Counterpart S k → Prop
  | zeroCiphertext {C D : E} (holds : C - keypair.secretKey.scalar.value • D = 0) :
    Honest R keypair (.zeroCiphertext keypair ⟨⟨R.point C⟩, ⟨R.point D⟩⟩) .nothing
  | commitmentEquality {C D : E} {x : Int} (low : 0 ≤ x) (high : x < 2 ^ 64)
    (holds : C - keypair.secretKey.scalar.value • D = (x : Residue) • R.base)
    {r : Opening} (canonical : r.scalar.isCanonical = true) :
    Honest R keypair (.commitmentEquality keypair ⟨⟨R.point C⟩, ⟨R.point D⟩⟩ r x)
      (.commitment ⟨R.point ((x : Residue) • R.base + r.scalar.value • R.blinding)⟩)
  | ciphertextEquality (secondKey : E) {C D : E} {x : Int} (low : 0 ≤ x) (high : x < 2 ^ 64)
    (holds : C - keypair.secretKey.scalar.value • D = (x : Residue) • R.base)
    {r : Opening} (canonical : r.scalar.isCanonical = true) :
    Honest R keypair
      (.ciphertextEquality keypair ⟨R.point secondKey⟩ ⟨⟨R.point C⟩, ⟨R.point D⟩⟩ r x)
      (.ciphertext ⟨⟨R.point ((x : Residue) • R.base + r.scalar.value • R.blinding)⟩,
        ⟨R.point (r.scalar.value • secondKey)⟩⟩)

namespace Witness.Honest

variable {R : S.Reading E} {keypair : Keypair S} {w : Witness S k} {other : Counterpart S k}

/-- All points of an honest prover's statement are points of the group. -/
theorem covered (honest : Honest R keypair w other) (member : keypair.publicKey.point ∈ R.points) :
    (w.statement other).Covered R := by
  intro i
  cases honest <;> fin_cases i <;> first | exact member | exact R.point_mem _

theorem key_eq (honest : Honest R keypair w other) : (w.statement other).key = keypair.publicKey := by
  cases honest <;> rfl

/-- An honest prover knows what its statement holds of. -/
theorem exists_scalars (honest : Honest R keypair w other)
    (matching : keypair.secretKey.scalar.value • R.read keypair.publicKey.point = R.blinding) :
    ∃ secrets, w.scalars = .ok secrets ∧
      (w.statement other).Holds R fun j => (secrets j).value := by
  cases honest with
  | zeroCiphertext holds =>
    refine ⟨fun _ => keypair.secretKey.scalar, rfl, matching, ?_⟩
    simpa only [R.read_point] using holds
  | commitmentEquality low high holds canonical =>
    refine ⟨_, scalars_commitmentEquality low high _ _ _, matching, ?_, ?_⟩
    · simpa [R.read_point, Scalar.value_ofNat_toNat low] using holds
    · simp [R.read_point, Scalar.value_ofNat_toNat low]
  | ciphertextEquality secondKey low high holds canonical =>
    refine ⟨_, scalars_ciphertextEquality low high _ _ _ _, matching, ?_, ?_, ?_⟩
    · simpa [R.read_point, Scalar.value_ofNat_toNat low] using holds
    · simp [R.read_point, Scalar.value_ofNat_toNat low]
    · simp [R.read_point]

end Witness.Honest

/-! ## Accepting -/

/-- The key of the second ciphertext. -/
def Statement.secondKey? : Statement S k → Option (PublicKey S)
  | .ciphertextEquality _ secondKey _ _ => some secondKey
  | _ => none

theorem PublicKey.isNeutral_iff (key : PublicKey S) :
    key.point.isNeutral = true ↔ key = ⟨Point.neutral⟩ := by
  rw [Point.isNeutral, beq_iff_eq]
  exact ⟨fun stored => congrArg (PublicKey.mk ∘ Point.mk) stored, fun same => by rw [same]; rfl⟩

namespace Bundle

/-- Under a key that is not neutral, only a neutral second key can be refused. -/
theorem checkKeys_eq {b : Bundle S k} (proper : b.statement.key.point.isNeutral = false)
    (policy : Policy) :
    b.checkKeys policy =
      if policy.rejectNeutralKeys = true ∧ b.statement.secondKey? = some ⟨Point.neutral⟩ then
        .error (.library (.create (.rejection k.family) .pubkeyIsIdentity "" .null))
      else .ok () := by
  obtain ⟨statement, proof⟩ := b
  unfold checkKeys
  by_cases strict : policy.rejectNeutralKeys = true
  · rw [if_pos strict]
    cases statement with
    | zeroCiphertext key ciphertext =>
      have accepted : key.checkNotNeutral .zeroCiphertext = .ok () :=
        if_neg (ne_true_of_eq_false proper)
      rw [if_neg fun refused => nomatch refused.2]
      exact congrArg (· >>= fun _ => pure ()) accepted
    | commitmentEquality key ciphertext commitment =>
      have accepted : key.checkNotNeutral .equality = .ok () :=
        if_neg (ne_true_of_eq_false proper)
      rw [if_neg fun refused => nomatch refused.2]
      exact congrArg (· >>= fun _ => pure ()) accepted
    | ciphertextEquality firstKey secondKey first second =>
      have accepted : firstKey.checkNotNeutral .equality = .ok () :=
        if_neg (ne_true_of_eq_false proper)
      change (firstKey.checkNotNeutral .equality >>= fun _ =>
        secondKey.checkNotNeutral .equality >>= fun _ => pure ()) = _
      rw [accepted]
      by_cases neutral : secondKey = ⟨Point.neutral⟩
      · rw [if_pos ⟨strict, congrArg some neutral⟩, neutral]
        rfl
      · have second : secondKey.checkNotNeutral .equality = .ok () :=
          if_neg (mt secondKey.isNeutral_iff.1 neutral)
        rw [if_neg fun refused => neutral (Option.some.inj refused.2), second]
        rfl
  · rw [if_neg strict, if_neg fun refused => strict refused.1]

/-- A refused key is reported before anything is bound, and nothing is logged. -/
theorem verify_of_refused {b : Bundle S k} {policy : Policy} {e : Failure}
    (refused : b.checkKeys policy = .error e) : b.verify policy = (.error e, []) := by
  rw [verify, refused]
  rfl

theorem verify_of_bound {b : Bundle S k} {policy : Policy} {t : Transcript S}
    (allowed : b.checkKeys policy = .ok ()) (bound : b.statement.transcript policy = .ok t) :
    b.verify policy =
      ((b.proof.verify b.statement t).result, (b.proof.verify b.statement t).log) := by
  have step : (b.checkKeys policy >>= fun _ => b.statement.transcript policy) = .ok t := by
    rw [allowed]
    exact bound
  rw [verify, step]

/-- A bundle that an honest prover makes is written, read back as it was, and accepted. A neutral
second key is refused by a policy that refuses neutral keys, and by no other. -/
theorem verify_of_honest (R : S.Reading E) {s : SecretKey}
    (canonical : s.scalar.isCanonical = true) (nonzero : s.scalar.isZero = false)
    (making checking : Policy) (sameLabel : making.label = checking.label)
    (paired : ∀ c ∈ making.label, c.isSurrogate = false) {tape : Tape}
    (enough : k.witnesses ≤ tape.usable) :
    ∃ keypair : Keypair S, Keypair.ofSecret s = .ok keypair ∧
      keypair.publicKey.point = R.point (s.scalar.value⁻¹ • R.blinding) ∧
      ∀ (w : Witness S k) (other : Counterpart S k), Witness.Honest R keypair w other →
        ∃ b bytes, ((create w other making).on tape).1 = .ok b ∧
          b.statement = w.statement other ∧ b.toBytes = .ok bytes ∧
          ofPayload k (.bytes bytes) = .ok b ∧
          b.verify checking =
            if checking.rejectNeutralKeys = true ∧
              b.statement.secondKey? = some ⟨Point.neutral⟩ then
              (.error (.library (.create (.rejection k.family) .pubkeyIsIdentity "" .null)), [])
            else (.ok (), []) := by
  refine ⟨_, Keypair.ofSecret_eq_ok R nonzero, rfl, fun w other honest => ?_⟩
  have covered := honest.covered (R.point_mem _)
  obtain ⟨secrets, known, holds⟩ := honest.exists_scalars (by
    rw [R.read_point, SecretKey.smul_inv_smul R canonical nonzero])
  obtain ⟨label, named⟩ := Policy.labelOr_eq_ok paired k.statementLabel
  obtain ⟨masks, rest, drawn, reduced⟩ := Tape.exists_traverse_scalar enough
  set t : Transcript S := Transcript.start.replay ((w.statement other).binding label)
  have bound : (w.statement other).transcript making = .ok t := Statement.transcript_eq_ok named
  have proved := Proof.on_create R covered known drawn reduced t
  have run : (create w other making).on tape =
      (.ok ⟨w.statement other, Proof.made R (w.statement other) t secrets masks⟩, rest) := by
    rw [create, bound, Attempt.on_bind_of_ok (Attempt.on_ofExcept _ _)]
    refine (Attempt.on_bind_of_ok ?_ _).trans (Attempt.on_pure _ _)
    rw [Attempt.on_zoom, proved]
  obtain ⟨bytes, written, read⟩ := ofPayload_toBytes covered
    ((w.statement other).left R fun j => (masks j).value)
    (Proof.isCanonical_respond (Proof.drawnChallenge t _) secrets masks)
  refine ⟨_, bytes, congrArg Prod.fst run, rfl, written, read, ?_⟩
  have proper : (w.statement other).key.point.isNeutral = false := by
    rw [honest.key_eq, Bool.eq_false_iff, Ne, R.isNeutral_point_iff]
    exact smul_ne_zero (inv_ne_zero (Scalar.value_ne_zero canonical nonzero)) R.blinding_ne_zero
  -- The verifier binds the statement that was read back under the same label: the same transcript.
  have rebound : (w.statement other).transcript checking = .ok t :=
    Statement.transcript_eq_ok (by rw [← named, Policy.labelOr, Policy.labelOr, sameLabel])
  have accepted := Proof.verify_made R covered holds masks t
  have checked := checkKeys_eq
    (b := ⟨w.statement other, Proof.made R (w.statement other) t secrets masks⟩) proper checking
  split
  · rename_i refused
    rw [if_pos refused] at checked
    exact verify_of_refused checked
  · rename_i allowed
    rw [if_neg allowed] at checked
    rw [verify_of_bound checked rebound, accepted]
    exact congrArg (Prod.mk _) (congrArg (Proof.rejectionLog k) accepted)

/-- Two ciphertexts of the amount two, under the secret one and the opening three. -/
theorem verify_of_honest_two :
    ∃ (b : Bundle Suite.standard .ciphertextEquality) (bytes : Bytes),
      b.toBytes = .ok bytes ∧ ofPayload .ciphertextEquality (.bytes bytes) = .ok b ∧
        b.verify { rejectNeutralKeys := true } = (.ok (), []) := by
  have enough : ProofKind.ciphertextEquality.witnesses ≤
      Tape.usable (List.replicate 3 (Vector.replicate 64 1)) := by
    decide +kernel
  obtain ⟨keypair, -, -, accepted⟩ := verify_of_honest Suite.standardReading (s := ⟨.ofNat 1⟩)
    (Scalar.isCanonical_ofNat 1) (by decide +kernel) {} { rejectNeutralKeys := true } rfl
    (fun _ none => nomatch none) enough
  have holds : (2 : Residue) • Suite.standardReading.base -
      keypair.secretKey.scalar.value • 0 = ((2 : Int) : Residue) • Suite.standardReading.base := by
    rw [smul_zero, sub_zero, Int.cast_ofNat]
  have reduced : (Scalar.ofNat 3).isCanonical = true := Scalar.isCanonical_ofNat 3
  have honest := Witness.Honest.ciphertextEquality Suite.standardReading.base (r := ⟨.ofNat 3⟩)
    (by decide) (by decide) holds reduced
  obtain ⟨b, bytes, -, stated, written, read, verified⟩ := accepted _ _ honest
  refine ⟨b, bytes, written, read, verified.trans (if_neg ?_)⟩
  rintro ⟨-, neutral⟩
  rw [stated] at neutral
  have zero := Suite.standardReading.point_injective
    ((congrArg PublicKey.point (Option.some.inj neutral)).trans Suite.standardReading.point_zero.symm)
  exact Suite.standardReading.base_ne_zero zero

end Bundle

end AmountProofs
