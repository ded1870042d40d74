import AmountProofs.Proofs.ProverVerdict
import AmountProofs.Proofs.TranscriptEncoding

/-!
The transcripts that a prover and a verifier are left with.

Both draw a challenge and a weight, and the prover draws its weight only to keep step with the
verifier. But the verifier has absorbed the responses by then, and the prover absorbs them nowhere.
So the transcripts part with the first proof that is made and accepted, and no common continuation
brings them together again: a second proof that is chained behind the first is checked against a
challenge that is squeezed from other bytes than the one it was made for.
-/

namespace AmountProofs

open Transcript (Event)

variable {S : Suite} {E : Type} [AddCommGroup E] [Module Residue E] {k : ProofKind}

namespace Transcript

/-- Of two transcripts with different numbers of bytes, no common continuation absorbs the same. -/
theorem stream_replay_ne_of_length_lt {t u : Transcript S}
    (shorter : t.absorbed.length < u.absorbed.length) (later : List Event) (label : Bytes)
    (size : Nat) : (t.replay later).stream label size ≠ (u.replay later).stream label size := by
  intro same
  have lengths := congrArg List.length same
  simp only [stream, List.length_append, length_absorbed_replay] at lengths
  omega

end Transcript

namespace Proof

/-- What a prover absorbs: the draw of the weight follows that of the challenge. -/
def proving (k : ProofKind) (encoded : Fin k.rows → Bytes) : List Event :=
  announcing k encoded ++ [challengeEvent, weightEvent]

/-- The verifier absorbs more than the prover, by the responses. -/
theorem length_absorbed_verifying (t : Transcript S) (encoded : Fin k.rows → Bytes)
    (z : Fin k.witnesses → Scalar) :
    (t.replay (verifying k encoded z)).absorbed.length =
      (t.replay (proving k encoded)).absorbed.length + ((responding k z).map Event.span).sum := by
  simp only [Transcript.length_absorbed_replay, verifying, proving, List.map_append, List.map_cons,
    List.map_nil, List.sum_append, List.sum_cons, List.sum_nil]
  omega

/-- Each response takes room in a transcript, and there is at least one. -/
theorem sum_span_responding_pos (z : Fin k.witnesses → Scalar) :
    0 < ((responding k z).map Event.span).sum := by
  have first : Event.append (Bytes.ofAscii (k.responseName 0)) (z 0).toBytes ∈ responding k z :=
    List.mem_ofFn.2 ⟨0, rfl⟩
  exact (Event.span_pos _).trans_le
    (List.single_le_sum (fun _ _ => Nat.zero_le _) _ (List.mem_map_of_mem first))

/-- A verification that finds all announced points runs through its whole history. -/
theorem transcript_of_found {p : Proof k} {encoded : Fin k.rows → Bytes}
    (owned : ∀ i, (p.announcements i).owned? = some (encoded i))
    {announced : Fin k.rows → Point S}
    (found : ∀ i, Point.ofPayload (p.announcements i) = .ok (announced i))
    (statement : Statement S k) (t : Transcript S) :
    (p.verify statement t).transcript = t.replay (verifying k encoded p.responses) := by
  rw [verify, on_check_of_found owned found]

/-- A proof that is made of secrets which solve the statement is accepted on an equal transcript,
but the transcripts are not equal then. The verifier has absorbed the responses between the two
draws; the prover has made the two draws at once. Whatever both absorb alike later, their challenges
are squeezed from different bytes. -/
theorem transcripts_part (R : S.Reading E) {w : Witness S k} {other : Counterpart S k}
    (covered : (w.statement other).Covered R) {secrets : Fin k.witnesses → Scalar}
    (known : w.scalars = .ok secrets)
    (holds : (w.statement other).Holds R fun j => (secrets j).value) (t : Transcript S)
    (tape : Tape) :
    (k.witnesses ≤ tape.usable → ∃ p after, (create w).on ⟨t, tape⟩ = (.ok p, after)) ∧
    ∀ p after, (create w).on ⟨t, tape⟩ = (.ok p, after) →
      let verdict := p.verify (w.statement other) t
      verdict.result = .ok () ∧
      (∃ encoded, (p.announcements = fun i => .bytes (encoded i)) ∧
        after.transcript = t.replay (proving k encoded) ∧
        verdict.transcript = t.replay (verifying k encoded p.responses)) ∧
      after.transcript ≠ verdict.transcript ∧
      ∀ later label size,
        (after.transcript.replay later).stream label size ≠
          (verdict.transcript.replay later).stream label size := by
  constructor
  · intro enough
    obtain ⟨masks, rest, run⟩ := exists_on_create R covered known enough t
    exact ⟨_, _, run⟩
  · intro p after run verdict
    obtain ⟨masks, rfl, left⟩ := eq_made_of_on_create R covered known run
    set encoded := announcedBytes R (w.statement other) masks
    have proved : after.transcript = t.replay (proving k encoded) := by
      rw [left, proving, Transcript.replay_append]
    have checked : verdict.transcript = t.replay (verifying k encoded _) :=
      transcript_of_found (fun _ => rfl) (ofPayload_made R _ t secrets masks) _ t
    have shorter : after.transcript.absorbed.length < verdict.transcript.absorbed.length := by
      rw [proved, checked, length_absorbed_verifying]
      exact Nat.lt_add_of_pos_right (sum_span_responding_pos _)
    refine ⟨verify_made R covered holds masks t, ⟨encoded, rfl, proved, checked⟩, ?_,
      Transcript.stream_replay_ne_of_length_lt shorter⟩
    intro same
    rw [same] at shorter
    exact Nat.lt_irrefl _ shorter

/-- With three masks the sample proof is made and accepted on a new transcript, and the next
challenge is squeezed from different bytes on both sides. -/
theorem transcripts_part_of_sample :
    let R := Suite.standardReading
    ∃ (p : Proof .ciphertextEquality) (after : Proving Suite.standard),
      (create (samplingProver R)).on ⟨.start, List.replicate 3 (Vector.replicate 64 1)⟩ =
        (.ok p, after) ∧
      (p.verify (.sample R) .start).result = .ok () ∧
      after.transcript.stream (Bytes.ofAscii "after") 32 ≠
        (p.verify (.sample R) .start).transcript.stream (Bytes.ofAscii "after") 32 := by
  intro R
  have known : (samplingProver R).scalars = .ok ![.ofNat 1, .ofNat 2, .ofNat 3] :=
    Witness.scalars_ciphertextEquality (by decide) (by decide) _ _ _ _
  have covered : ((samplingProver R).statement (sampleSecond R)).Covered R :=
    Statement.covered_sample R
  obtain ⟨succeeds, parted⟩ := transcripts_part R covered known (Statement.holds_sample R) .start
    (List.replicate 3 (Vector.replicate 64 1))
  obtain ⟨p, after, run⟩ := succeeds three_le_usable
  obtain ⟨accepted, -, -, apart⟩ := parted p after run
  exact ⟨p, after, run, accepted, apart [] _ 32⟩

end Proof

end AmountProofs
