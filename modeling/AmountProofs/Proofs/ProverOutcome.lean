import AmountProofs.Proofs.ProofEncoding
import AmountProofs.Proofs.ProverVerdict

/-!
What becomes of an attempt to make a proof.

A prover asks little of its witness: points of the group and, for an equality, an amount that fits
eight bytes. No key has to belong to its secret, nothing has to be other than neutral and no equation
has to hold. The prover then fails only if the supply of randomness runs out, it takes just the
blocks that its masks need, and what it makes is written and read back (`Proof.on_create_outcome`).
An amount that is out of range is refused before any randomness is drawn.
-/

namespace AmountProofs

variable {S : Suite} {E : Type} [AddCommGroup E] [Module Residue E] {k : ProofKind}

namespace Witness

/-- All points that a witness holds are points of the group. -/
def Covered (R : S.Reading E) : Witness S k → Prop
  | .zeroCiphertext keypair c =>
    keypair.publicKey.point ∈ R.points ∧ c.commitment.point ∈ R.points ∧ c.handle.point ∈ R.points
  | .commitmentEquality keypair c _ _ =>
    keypair.publicKey.point ∈ R.points ∧ c.commitment.point ∈ R.points ∧ c.handle.point ∈ R.points
  | .ciphertextEquality keypair secondKey c _ _ =>
    keypair.publicKey.point ∈ R.points ∧ c.commitment.point ∈ R.points ∧
      c.handle.point ∈ R.points ∧ secondKey.point ∈ R.points

/-- The amount of a witness, if its kind has one. -/
def amount? : Witness S k → Option Int
  | .zeroCiphertext _ _ => none
  | .commitmentEquality _ _ _ x => some x
  | .ciphertextEquality _ _ _ _ x => some x

/-- Another side for any witness: neutral points. -/
def neutralCounterpart : Witness S k → Counterpart S k
  | .zeroCiphertext _ _ => .nothing
  | .commitmentEquality _ _ _ _ => .commitment ⟨.neutral⟩
  | .ciphertextEquality _ _ _ _ _ => .ciphertext .zero

/-- Since a prover does not look at the other side, a neutral one does for it. -/
theorem Covered.statement {R : S.Reading E} {w : Witness S k} (covered : w.Covered R) :
    (w.statement w.neutralCounterpart).Covered R := by
  have neutral := R.neutral_mem
  intro i
  cases w with
  | zeroCiphertext keypair c =>
    obtain ⟨key, commitment, handle⟩ := covered
    fin_cases i <;> assumption
  | commitmentEquality keypair c r x =>
    obtain ⟨key, commitment, handle⟩ := covered
    fin_cases i <;> assumption
  | ciphertextEquality keypair secondKey c r x =>
    obtain ⟨key, commitment, handle, second⟩ := covered
    fin_cases i <;> assumption

/-- An amount out of range gives no scalars. -/
theorem scalars_eq_error {w : Witness S k} {x : Int} (held : w.amount? = some x)
    (outside : ¬(0 ≤ x ∧ x < 2 ^ 64)) : w.scalars = .error (.badValue (.amount x)) := by
  have refused : Scalar.ofAmount x = .error (.badValue (.amount x)) := if_neg outside
  cases w with
  | zeroCiphertext keypair c => cases held
  | commitmentEquality keypair c r y =>
    cases held
    rw [scalars, refused]
    rfl
  | ciphertextEquality keypair secondKey c r y =>
    cases held
    rw [scalars, refused]
    rfl

end Witness

namespace Proof

/-- What was made is written in as many chunks as its kind has, and read back as it was. -/
theorem exists_toBytes_made (R : S.Reading E) (statement : Statement S k) (t : Transcript S)
    (secrets masks : Fin k.witnesses → Scalar) :
    ∃ b, (made R statement t secrets masks).toBytes = .ok b ∧ b.length = 32 * k.chunks ∧
      ofPayload S k (.bytes b) = .ok (made R statement t secrets masks) := by
  exact ⟨_, toBytes_eq_ok _ _, length_concat_words _ _,
    ofPayload_concat _ (isCanonical_respond _ secrets masks)⟩

/-- Of an amount out of range no proof is made: only the name of the domain was absorbed, and no
randomness was drawn. -/
theorem on_create_of_outside {w : Witness S k} {x : Int} (held : w.amount? = some x)
    (outside : ¬(0 ≤ x ∧ x < 2 ^ 64)) (t : Transcript S) (tape : Tape) :
    (create w).on ⟨t, tape⟩ = (.error (.badValue (.amount x)),
      ⟨t.after (.append Transcript.domainLabel k.domain), tape⟩) := by
  rw [create, Attempt.on_bind_of_ok (Proving.on_separateDomain k.domain t tape),
    Witness.scalars_eq_error held outside]
  exact Attempt.on_bind_of_error (Attempt.on_ofExcept _ _) _

/-- Of a witness of points of the group, whose amount is in range, a proof is made if there are
enough usable blocks. Just these blocks are taken, and the proof is written in as many chunks as its
kind has and read back. If the blocks do not suffice they are used up. An amount out of range is
refused with the domain absorbed and all blocks left. -/
theorem on_create_outcome (R : S.Reading E) {w : Witness S k} (covered : w.Covered R)
    (t : Transcript S) (tape : Tape) :
    (w.InRange →
      (k.witnesses ≤ tape.countP (Tape.IsUsable ·) →
        ∃ p after used, (create w).on ⟨t, tape⟩ = (.ok p, after) ∧
          tape = used ++ after.tape ∧ used.JustEnough k.witnesses ∧
          ∃ b, p.toBytes = .ok b ∧ b.length = 32 * k.chunks ∧ ofPayload S k (.bytes b) = .ok p) ∧
      (tape.countP (Tape.IsUsable ·) < k.witnesses →
        (create w).on ⟨t, tape⟩ =
          (.error .tapeExhausted, ⟨t.after (.append Transcript.domainLabel k.domain), []⟩))) ∧
    ∀ x, w.amount? = some x → ¬(0 ≤ x ∧ x < 2 ^ 64) →
      (create w).on ⟨t, tape⟩ = (.error (.badValue (.amount x)),
        ⟨t.after (.append Transcript.domainLabel k.domain), tape⟩) := by
  refine ⟨fun inRange => ?_, fun x held outside => on_create_of_outside held outside t tape⟩
  obtain ⟨secrets, known, -⟩ := Witness.exists_scalars_of_inRange inRange
  rw [← Tape.usable_eq_countP]
  refine ⟨fun enough => ?_, fun short => on_create_of_short known short t⟩
  obtain ⟨masks, used, rest, drawn, split, just, listed⟩ := Tape.exists_draws enough
  have run := on_create R covered.statement known drawn (Tape.isCanonical_of_draws listed) t
  exact ⟨_, _, used, run, split, just, exists_toBytes_made R _ t secrets masks⟩

/-- A witness of neutral points and zero scalars. -/
def zeros (S : Suite) (amount : Int) : Witness S .commitmentEquality :=
  .commitmentEquality ⟨⟨.neutral⟩, ⟨.zero⟩⟩ .zero ⟨.zero⟩ amount

theorem covered_zeros (R : S.Reading E) (amount : Int) : (zeros S amount).Covered R :=
  ⟨R.neutral_mem, R.neutral_mem, R.neutral_mem⟩

/-- A block of zeros is passed over, and three blocks of ones are enough. With an amount below zero
all blocks are left. -/
theorem on_create_outcome_of_zeros :
    let one : Vector UInt8 64 := Vector.replicate 64 1
    let tape : Tape := Vector.replicate 64 0 :: List.replicate 3 one
    (∃ p after, (create (zeros Suite.standard 0)).on ⟨.start, tape⟩ = (.ok p, after) ∧
      ∃ b, p.toBytes = .ok b ∧ b.length = 192 ∧
        ofPayload Suite.standard .commitmentEquality (.bytes b) = .ok p) ∧
    (create (zeros Suite.standard (-1))).on ⟨.start, tape⟩ = (.error (.badValue (.amount (-1))),
      ⟨Transcript.start.after (.append Transcript.domainLabel ProofKind.commitmentEquality.domain),
        tape⟩) := by
  intro one tape
  have R := Suite.standardReading
  constructor
  · obtain ⟨makes, -⟩ := (on_create_outcome R (covered_zeros R 0) .start tape).1
      ⟨le_refl 0, by decide⟩
    obtain ⟨p, after, used, run, -, -, written⟩ := makes (by decide +kernel)
    exact ⟨p, after, run, written⟩
  · exact (on_create_outcome R (covered_zeros R (-1)) .start tape).2 (-1) rfl (by decide)

end Proof

end AmountProofs
