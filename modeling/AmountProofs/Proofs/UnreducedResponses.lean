import AmountProofs.Proofs.ProofEncoding
import AmountProofs.Proofs.ProverRun
import AmountProofs.Proofs.Rejections

/-!
Responses that are not reduced.

A reader takes reduced responses only, and a verifier takes responses as they are stored. What an
accepted proof is written as is therefore read back exactly if its responses are reduced; and a
prover that solves its statement has an accepted proof for every admissible way to store its
responses, although the weight is drawn from the very words that store them
(`Proof.read_iff_canonical_of_accepted`). All equations of such a proof hold, so no weight tells its
forms apart.
-/

namespace AmountProofs

variable {S : Suite} {E : Type} [AddCommGroup E] [Module Residue E] {k : ProofKind}

/-! ## Writing what was accepted -/

namespace Payload

/-- Bytes are the same in whatever shape they are owned. -/
theorem same_bytes_of_owned {p : Payload} {b : Bytes} (owned : p.owned? = some b) :
    p.same (.bytes b) = true := by
  cases p <;> cases owned <;> simp [same, content?]

end Payload

/-- What is read as a point is written as it was read. -/
theorem Suite.Reading.wire_of_ofPayload (R : S.Reading E) {y : Payload} {b : Bytes}
    (owned : y.owned? = some b) {q : Point S} (found : Point.ofPayload y = .ok q) :
    Word.toBytes q.wire = b := by
  have content := Payload.content?_of_owned owned
  obtain ⟨size, c, copied, given⟩ := Point.ofPayload_eq_ok_iff.1 found
  rw [Payload.size_of_content content] at size
  rw [Payload.toBytes_of_content content] at copied
  cases copied
  rw [(R.mem_of_ofWire? given).2, Word.toBytes_ofBytes (Except.ok.inj size)]

namespace Proof

variable {p : Proof k} {encoded : Fin k.rows → Bytes}

/-- A proof that announces points is written, whatever its responses are. -/
theorem toBytes_of_found (R : S.Reading E)
    (owned : ∀ i, (p.announcements i).owned? = some (encoded i))
    {announced : Fin k.rows → Point S}
    (found : ∀ i, Point.ofPayload (p.announcements i) = .ok (announced i)) :
    p.toBytes = .ok (Chunks.concat (words announced p.responses)) := by
  refine Chunks.join_eq_ok (List.rel_append ?_ ?_)
  · refine Chunks.forall₂_ofFn fun i => Chunks.Field.chunk_of_content ?_ (Word.length_toBytes _)
    rw [R.wire_of_ofPayload (owned i) (found i)]
    exact Payload.content?_of_owned (owned i)
  · exact Chunks.forall₂_ofFn fun j => Chunks.Field.chunk_scalar (p.responses j)

/-! ## Reading it back -/

theorem announced_eq_point (R : S.Reading E) {announced : Fin k.rows → Point S}
    (found : ∀ i, Point.ofPayload (p.announcements i) = .ok (announced i)) :
    announced = fun i => R.point (R.read (announced i)) :=
  funext fun i => (R.point_read (R.mem_of_ofPayload (found i))).symm

/-- With reduced responses it is read back, its announced points as bytes. -/
theorem ofPayload_of_found (R : S.Reading E)
    (owned : ∀ i, (p.announcements i).owned? = some (encoded i))
    {announced : Fin k.rows → Point S}
    (found : ∀ i, Point.ofPayload (p.announcements i) = .ok (announced i))
    (canonical : ∀ j, (p.responses j).isCanonical = true) :
    ofPayload S k (.bytes (Chunks.concat (words announced p.responses))) =
      .ok ⟨fun i => .bytes (encoded i), p.responses⟩ := by
  have written : (fun i => Payload.bytes (announced i).toBytes) = fun i => .bytes (encoded i) :=
    funext fun i => congrArg Payload.bytes (R.wire_of_ofPayload (owned i) (found i))
  rw [← written, announced_eq_point R found]
  exact ofPayload_concat (fun i => R.read (announced i)) canonical

/-- With a response that is not reduced it is refused for that. -/
theorem ofPayload_of_unreduced (R : S.Reading E) {announced : Fin k.rows → Point S}
    (found : ∀ i, Point.ofPayload (p.announcements i) = .ok (announced i))
    {j : Fin k.witnesses} (unreduced : (p.responses j).isCanonical = false) :
    ofPayload S k (.bytes (Chunks.concat (words announced p.responses))) =
      .error (rejection k .deserialization "non-canonical scalar encoding") := by
  have refused : ∃ e, (Indexed.traverse fun j =>
      Chunks.scalar (.bytes (Word.toBytes (p.responses j).word))) = .error e ∧
        e = .malformed "non-canonical scalar encoding" .null := by
    have fails : Chunks.scalar (.bytes (Word.toBytes (p.responses j).word)) =
        .error (.malformed "non-canonical scalar encoding" .null) := by
      rw [Chunks.scalar_toBytes_eq, if_neg (ne_true_of_eq_false unreduced)]
    refine Indexed.exists_traverse_eq_error (fun j e failed => ?_) ⟨j, _, fails⟩
    rw [Chunks.scalar_toBytes_eq] at failed
    split at failed
    · cases failed
    · exact (Except.error.inj failed).symm
  obtain ⟨e, failed, rfl⟩ := refused
  rw [announced_eq_point R found, ofPayload_concat_eq, failed]
  rfl

/-- A proof is the same as the one that announces its bytes. -/
theorem same_of_owned (owned : ∀ i, (p.announcements i).owned? = some (encoded i)) :
    p.same ⟨fun i => .bytes (encoded i), p.responses⟩ = true := by
  simp [same, fun i => Payload.same_bytes_of_owned (owned i)]

/-! ## Other forms of the responses -/

/-- Where all equations hold at the challenge, no weight makes a difference. -/
theorem result_of_solved (R : S.Reading E) {statement : Statement S k}
    (covered : statement.Covered R)
    (owned : ∀ i, (p.announcements i).owned? = some (encoded i))
    (admissible : ∀ j, (p.responses j).Admissible) {announced : Fin k.rows → Point S}
    (found : ∀ i, Point.ofPayload (p.announcements i) = .ok (announced i)) {t : Transcript S}
    (solved : ∀ i, statement.defect R (drawnChallenge t encoded).value
      (fun j => (p.responses j).value) (fun i => R.read (announced i)) i = 0) :
    (p.verify statement t).result = .ok () := by
  rw [result_of_admissible R covered owned admissible found t, (ruling_point R k _).1]
  refine Finset.sum_eq_zero fun i _ => ?_
  rw [solved i, smul_zero]

/-- The responses of a prover that solves its statement may be stored in any admissible way. -/
theorem verify_made_of_same_value (R : S.Reading E) {statement : Statement S k}
    (covered : statement.Covered R) {secrets : Fin k.witnesses → Scalar}
    (holds : statement.Holds R fun j => (secrets j).value) (masks : Fin k.witnesses → Scalar)
    (t : Transcript S) {z : Fin k.witnesses → Scalar} (admissible : ∀ j, (z j).Admissible)
    (same : ∀ j, (z j).value = ((made R statement t secrets masks).responses j).value) :
    (verify ⟨(made R statement t secrets masks).announcements, z⟩ statement t).result = .ok () := by
  have owned (i : Fin k.rows) : ((made R statement t secrets masks).announcements i).owned? =
      some (announcedBytes R statement masks i) := rfl
  have found := ofPayload_made R statement t secrets masks
  refine result_of_solved (p := ⟨(made R statement t secrets masks).announcements, z⟩) R covered
    owned admissible found fun i => ?_
  -- The challenge is drawn before the responses are absorbed, so it is the one that was answered.
  have answered := defect_respond R statement
    (drawnChallenge t (announcedBytes R statement masks)) secrets masks i
  rw [(statement.holds_iff R _).1 holds i, sub_self, smul_zero] at answered
  simp only [R.read_point, same]
  exact answered

/-- The reader is stricter than the verifier. What an accepted proof is written as is read back, as
the same proof, exactly if its responses are reduced, and is malformed otherwise. But the responses
of a prover that solves its statement may be replaced by any admissible words for the same residues,
and the verifier still accepts. -/
theorem read_iff_canonical_of_accepted (R : S.Reading E) {statement : Statement S k}
    (covered : statement.Covered R) (t : Transcript S) :
    (∀ (p : Proof k) (encoded : Fin k.rows → Bytes),
      (∀ i, (p.announcements i).owned? = some (encoded i)) →
      (p.verify statement t).result = .ok () →
      ∃ bytes, p.toBytes = .ok bytes ∧
        ((∃ q, ofPayload S k (.bytes bytes) = .ok q ∧ p.same q = true) ↔
          ∀ j, (p.responses j).isCanonical = true) ∧
        ((∃ j, (p.responses j).isCanonical = false) →
          ofPayload S k (.bytes bytes) =
            .error (rejection k .deserialization "non-canonical scalar encoding"))) ∧
    ∀ secrets : Fin k.witnesses → Scalar, (statement.Holds R fun j => (secrets j).value) →
      ∀ masks z : Fin k.witnesses → Scalar,
        let p := made R statement t secrets masks
        (∀ j, (z j).Admissible ∧ (z j).value = (p.responses j).value) →
        (verify ⟨p.announcements, z⟩ statement t).result = .ok () := by
  constructor
  · intro p encoded owned accepted
    obtain ⟨announced, found⟩ := exists_found_of_accepted owned accepted
    refine ⟨_, toBytes_of_found R owned found, ⟨?_, fun canonical => ?_⟩, ?_⟩
    · rintro ⟨q, read, -⟩ j
      by_contra unreduced
      rw [ofPayload_of_unreduced R found (Bool.not_eq_true _ ▸ unreduced)] at read
      cases read
    · exact ⟨_, ofPayload_of_found R owned found canonical, same_of_owned owned⟩
    · rintro ⟨j, unreduced⟩
      exact ofPayload_of_unreduced R found unreduced
  · intro secrets holds masks z p forms
    exact verify_made_of_same_value R covered holds masks t (fun j => (forms j).1)
      fun j => (forms j).2

/-- A ciphertext of nothing under the secret one, and a commitment to nothing with the opening
three. -/
def nothing (R : S.Reading E) : Statement S .commitmentEquality :=
  .commitmentEquality ⟨R.point R.blinding⟩ ⟨⟨R.point R.base⟩, ⟨R.point R.base⟩⟩
    ⟨R.point (((3 : Int) : Residue) • R.blinding)⟩

theorem holds_nothing (R : S.Reading E) :
    (nothing R).Holds R fun j => ((![.ofNat 1, .ofNat 0, .ofNat 3] : Fin 3 → Scalar) j).value := by
  simp [nothing, Statement.Holds]

/-- The response for the amount zero is its mask, here six, and six plus the order is accepted too;
but the proof that has it cannot be read back. -/
theorem read_iff_canonical_of_accepted_of_nothing :
    ∃ (p : Proof .commitmentEquality) (bytes : Bytes), (∀ j, (p.responses j).TopBitClear) ∧
      (p.verify (nothing Suite.standardReading) .start).result = .ok () ∧ p.toBytes = .ok bytes ∧
      ofPayload Suite.standard .commitmentEquality (.bytes bytes) =
        .error (rejection .commitmentEquality .deserialization
          "non-canonical scalar encoding") := by
  set R := Suite.standardReading
  have covered : (nothing R).Covered R := by
    intro i
    fin_cases i <;> exact R.point_mem _
  obtain ⟨read, accepts⟩ := read_iff_canonical_of_accepted R covered .start
  let honest := made R (nothing R) .start ![.ofNat 1, .ofNat 0, .ofNat 3]
    ![.ofNat 5, .ofNat 6, .ofNat 7]
  have canonical (j) : (honest.responses j).isCanonical = true := isCanonical_respond _ _ _ j
  have six : (honest.responses 1).value = 6 := by
    change (_ * Scalar.ofNat 0 + Scalar.ofNat 6).value = 6
    simp
  have nonzero : (honest.responses 1).isZero = false := by
    rw [Bool.eq_false_iff, Ne, Scalar.isZero_iff_value (canonical 1), six]
    decide +kernel
  obtain ⟨z, admissible, same, unreduced⟩ :=
    Scalar.exists_admissible_of_isCanonical (canonical 1) nonzero
  let p : Proof .commitmentEquality := ⟨honest.announcements, Function.update honest.responses 1 z⟩
  have replaced : p.responses 1 = z := Function.update_self 1 z honest.responses
  have forms (j) : (p.responses j).Admissible ∧
      (p.responses j).value = (honest.responses j).value := by
    by_cases here : j = 1
    · rw [here, replaced]
      exact ⟨admissible, same⟩
    · have kept : p.responses j = honest.responses j := Function.update_of_ne here z honest.responses
      rw [kept]
      exact ⟨.of_isCanonical (canonical j), rfl⟩
  have accepted : (p.verify (nothing R) .start).result = .ok () :=
    accepts _ (holds_nothing R) _ _ forms
  obtain ⟨bytes, written, -, refused⟩ := read p _ (fun _ => rfl) accepted
  exact ⟨p, bytes, fun j => (forms j).1.clear, accepted, written,
    refused ⟨1, by rw [replaced, unreduced]⟩⟩

end Proof

end AmountProofs
