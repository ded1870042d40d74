import AmountProofs.Proofs.ProverVerdict
import Mathlib.Data.Set.Function

/-!
Simulated proofs.

Whoever chooses the responses first can compute the points that go with them from the statement and
the challenge alone (`Statement.simulate`). For a statement that holds, the proofs that this gives
are the very proofs that a prover gives, and every mask has its own response
(`Proof.answered_eq_simulated`): a proof tells nothing of the secrets. A mask is never zero, so a
response is never the challenge times its secret, and no other response is left out.
-/

namespace AmountProofs

variable {S : Suite} {E : Type} [AddCommGroup E] [Module Residue E] {k : ProofKind}

/-! ## Masks -/

/-- A scalar that can be drawn as a mask. -/
structure Scalar.IsMask (s : Scalar) : Prop where
  canonical : s.isCanonical = true
  nonzero : s.isZero = false

/-- Every reduced scalar is that of some 64 bytes. -/
theorem Scalar.exists_ofWide {s : Scalar} (canonical : s.isCanonical = true) :
    ∃ block, ofWide block = s := by
  refine ⟨⟨(Bytes.ofNat 64 s.toNat).toArray, by simp⟩, ?_⟩
  have bound : s.toNat < 256 ^ 64 := s.word.isLt.trans (by decide)
  have read : ofWide ⟨(Bytes.ofNat 64 s.toNat).toArray, by simp⟩ = ofNat s.toNat := by
    rw [ofWide, Vector.toList_mk, Bytes.toNat_ofNat, Nat.mod_eq_of_lt bound]
  rw [read]
  exact eq_of_value_eq (isCanonical_ofNat _) canonical (value_ofNat _)

namespace Tape

theorem isMask_of_next? {tape rest : Tape} {s : Scalar} (drawn : tape.next? = some (s, rest)) :
    s.IsMask := by
  induction tape with
  | nil => cases drawn
  | cons block tape ih =>
    rw [next?] at drawn
    split at drawn
    · exact ih drawn
    · rename_i nonzero
      cases drawn
      exact ⟨Scalar.isCanonical_ofWide block, eq_false_of_ne_true nonzero⟩

theorem next?_of_on_scalar {tape rest : Tape} {s : Scalar}
    (run : scalar.on tape = (.ok s, rest)) : tape.next? = some (s, rest) := by
  rcases found : tape.next? with _ | ⟨first, left⟩
  · rw [scalar, Attempt.on_bind_of_ok (Attempt.on_get tape)] at run
    simp only [found] at run
    rw [Attempt.on_bind_of_ok (Attempt.on_set _ _), Attempt.on_throw] at run
    cases run
  · rw [on_scalar found] at run
    cases run
    rfl

theorem isMask_of_on_traverse_scalar {n : Nat} {tape rest : Tape} {masks : Fin n → Scalar}
    (run : (Indexed.traverse fun _ : Fin n => scalar).on tape = (.ok masks, rest)) (j : Fin n) :
    (masks j).IsMask :=
  Indexed.forall_of_on_traverse
    (fun _ _ _ _ drawn => isMask_of_next? (next?_of_on_scalar drawn)) run j

/-- Any masks can be drawn. -/
theorem exists_on_traverse_scalar {n : Nat} {masks : Fin n → Scalar}
    (drawable : ∀ j, (masks j).IsMask) :
    ∃ tape, (Indexed.traverse fun _ : Fin n => scalar).on tape = (.ok masks, []) := by
  induction n with
  | zero =>
    have none : masks = fun j => j.elim0 := funext fun j => j.elim0
    exact ⟨[], by rw [none]; rfl⟩
  | succ n ih =>
    obtain ⟨tape, run⟩ := ih fun j => drawable j.succ
    obtain ⟨block, first⟩ := Scalar.exists_ofWide (drawable 0).canonical
    have drawn : next? (block :: tape) = some (masks 0, tape) := by
      rw [next?, first, (drawable 0).nonzero]
      rfl
    refine ⟨block :: tape, ?_⟩
    rw [Indexed.traverse, Attempt.on_bind_of_ok (on_scalar drawn), Attempt.on_bind_of_ok run,
      Attempt.on_pure, Indexed.cons_eta]

end Tape

namespace Witness

/-- The masks that can be drawn for a kind of proof. -/
def masks (k : ProofKind) : Set (Fin k.witnesses → Scalar) := {y | ∀ j, (y j).IsMask}

theorem mem_masks_iff {y : Fin k.witnesses → Scalar} :
    y ∈ masks k ↔ ∃ tape rest, (drawMasks k).on tape = (.ok y, rest) := by
  constructor
  · intro drawable
    obtain ⟨tape, run⟩ := Tape.exists_on_traverse_scalar drawable
    exact ⟨tape, [], run⟩
  · rintro ⟨tape, rest, run⟩ j
    exact Tape.isMask_of_on_traverse_scalar run j

/-! ## Masks and responses -/

/-- The responses other than the challenge times the secrets. -/
def responses (a : Fin k.witnesses → Residue) (c : Scalar) : Set (Fin k.witnesses → Scalar) :=
  {z | ∀ j, (z j).isCanonical = true ∧ (z j).value ≠ c.value * a j}

/-- The masks that given responses hide secrets with. -/
def unmask (c : Scalar) (secrets z : Fin k.witnesses → Scalar) : Fin k.witnesses → Scalar :=
  fun j => z j - c * secrets j

variable {c : Scalar} {secrets : Fin k.witnesses → Scalar} {a : Fin k.witnesses → Residue}

theorem respond_mapsTo (values : (fun j => (secrets j).value) = a) :
    Set.MapsTo (respond c secrets) (masks k) (responses a c) := by
  intro y drawable j
  obtain ⟨canonical, nonzero⟩ := drawable j
  refine ⟨Scalar.isCanonical_add _ _, fun same => ?_⟩
  rw [← values, respond, Scalar.value_add, Scalar.value_mul, add_eq_left] at same
  exact Scalar.value_ne_zero canonical nonzero same

theorem unmask_mapsTo (values : (fun j => (secrets j).value) = a) :
    Set.MapsTo (unmask c secrets) (responses a c) (masks k) := by
  intro z given j
  have canonical : (unmask c secrets z j).isCanonical = true := Scalar.isCanonical_ofNat _
  refine ⟨canonical, ?_⟩
  rw [Bool.eq_false_iff, Ne, Scalar.isZero_iff_value canonical, unmask, Scalar.value_sub,
    Scalar.value_mul, sub_eq_zero]
  rw [← values] at given
  exact (given j).2

/-- Masks and responses correspond one to one. -/
theorem respond_bijOn (values : (fun j => (secrets j).value) = a) :
    Set.BijOn (respond c secrets) (masks k) (responses a c) := by
  refine Set.InvOn.bijOn ⟨fun y drawable => ?_, fun z given => ?_⟩ (respond_mapsTo values)
    (unmask_mapsTo values)
  · funext j
    refine Scalar.eq_of_value_eq (Scalar.isCanonical_ofNat _) (drawable j).canonical ?_
    rw [unmask, Scalar.value_sub, Scalar.value_mul, respond, Scalar.value_add, Scalar.value_mul,
      add_sub_cancel_left]
  · funext j
    refine Scalar.eq_of_value_eq (Scalar.isCanonical_add _ _) (given j).1 ?_
    rw [respond, Scalar.value_add, Scalar.value_mul, unmask, Scalar.value_sub, Scalar.value_mul,
      add_sub_cancel]

/-! ## Answering -/

/-- The proof that answers a challenge with given masks. -/
def answer (w : Witness S k) (c : Scalar) (y : Fin k.witnesses → Scalar) :
    Except Failure (Proof k) := do
  let secrets ← w.scalars
  let points ← w.announce y
  return ⟨fun i => .bytes (points i).toBytes, respond c secrets y⟩

theorem answer_eq_ok (R : S.Reading E) {w : Witness S k} {other : Counterpart S k}
    (covered : (w.statement other).Covered R) (known : w.scalars = .ok secrets)
    {y : Fin k.witnesses → Scalar} (drawable : y ∈ masks k) :
    w.answer c y =
      .ok ⟨fun i => .bytes (Proof.announcedBytes R (w.statement other) y i),
        respond c secrets y⟩ := by
  rw [answer, known, announce_eq_ok R covered fun j => (drawable j).canonical]
  rfl

end Witness

/-! ## Simulating -/

namespace Statement

/-- The proof with given responses whose announced points are computed from the statement and the
challenge, so that all equations hold. -/
def simulate (statement : Statement S k) (c : Scalar) (z : Fin k.witnesses → Scalar) :
    Except Failure (Proof k) := do
  let points ← Indexed.traverse fun i => do
    let left ← (statement.forms i).value z
    let right ← Point.mul c (statement.targets i)
    left.sub right
  return ⟨fun i => .bytes (points i).toBytes, z⟩

theorem simulate_eq_ok (R : S.Reading E) {statement : Statement S k}
    (covered : statement.Covered R) {c : Scalar} (reduced : c.isCanonical = true)
    {z : Fin k.witnesses → Scalar} (canonical : ∀ j, (z j).isCanonical = true) :
    statement.simulate c z =
      .ok ⟨fun i => .bytes (R.point (statement.left R (fun j => (z j).value) i -
        c.value • statement.right R i)).toBytes, z⟩ := by
  have solved (i : Fin k.rows) : (do
      let left ← (statement.forms i).value z
      let right ← Point.mul c (statement.targets i)
      left.sub right) = .ok (R.point (statement.left R (fun j => (z j).value) i -
        c.value • statement.right R i)) := by
    have left : (statement.forms i).value z =
        .ok (R.point (statement.left R (fun j => (z j).value) i)) := by
      rw [LinearForm.value_eq_ok R (forms_mem covered i) canonical, formTotal_forms]
    have right : Point.mul c (statement.targets i) =
        .ok (R.point (c.value • statement.right R i)) := by
      rw [← R.point_read (targets_mem covered i), R.mul_point (.of_isCanonical reduced),
        read_targets]
    rw [left, right]
    exact R.sub_point _ _
  rw [simulate, Indexed.traverse_eq_ok solved]
  rfl

end Statement

namespace Proof

/-- What answers a challenge is what is simulated with its responses. -/
theorem answer_eq_simulate (R : S.Reading E) {w : Witness S k} {other : Counterpart S k}
    (covered : (w.statement other).Covered R) {secrets : Fin k.witnesses → Scalar}
    (known : w.scalars = .ok secrets)
    (holds : (w.statement other).Holds R fun j => (secrets j).value) {c : Scalar}
    (reduced : c.isCanonical = true) {y : Fin k.witnesses → Scalar}
    (drawable : y ∈ Witness.masks k) :
    w.answer c y = (w.statement other).simulate c (Witness.respond c secrets y) := by
  have solved (i : Fin k.rows) :
      (w.statement other).left R (fun j => (Witness.respond c secrets y j).value) i -
        c.value • (w.statement other).right R i =
          (w.statement other).left R (fun j => (y j).value) i := by
    have answered := defect_respond R (w.statement other) c secrets y i
    rw [((w.statement other).holds_iff R _).1 holds i, sub_self, smul_zero] at answered
    exact sub_eq_zero.1 answered
  rw [Witness.answer_eq_ok R covered known drawable,
    Statement.simulate_eq_ok R covered reduced (isCanonical_respond c secrets y)]
  simp only [solved]
  rfl

/-- A prover answers the challenge that it draws, with masks that it draws. -/
theorem exists_answer_of_on_create (R : S.Reading E) {w : Witness S k} {other : Counterpart S k}
    (covered : (w.statement other).Covered R) {secrets : Fin k.witnesses → Scalar}
    (known : w.scalars = .ok secrets) {t : Transcript S} {tape : Tape} {p : Proof k}
    {after : Proving S} (run : (create w).on ⟨t, tape⟩ = (.ok p, after)) :
    ∃ encoded y, (p.announcements = fun i => .bytes (encoded i)) ∧ y ∈ Witness.masks k ∧
      w.answer (drawnChallenge t encoded) y = .ok p := by
  obtain ⟨y, rest, drawn, rfl, -⟩ := exists_drawn_of_on_create R covered known run
  have drawable : y ∈ Witness.masks k := Witness.mem_masks_iff.2 ⟨tape, rest, drawn⟩
  exact ⟨_, y, rfl, drawable, Witness.answer_eq_ok R covered known drawable⟩

/-- Where masks are drawn, a proof is made, and it answers its own challenge with these masks. -/
theorem exists_answer_of_drawn (R : S.Reading E) {w : Witness S k} {other : Counterpart S k}
    (covered : (w.statement other).Covered R) {secrets : Fin k.witnesses → Scalar}
    (known : w.scalars = .ok secrets) {tape rest : Tape} {y : Fin k.witnesses → Scalar}
    (drawn : (Witness.drawMasks k).on tape = (.ok y, rest)) (t : Transcript S) :
    ∃ encoded p after, (create w).on ⟨t, tape⟩ = (.ok p, after) ∧
      (p.announcements = fun i => .bytes (encoded i)) ∧
      w.answer (drawnChallenge t encoded) y = .ok p := by
  have drawable : y ∈ Witness.masks k := Witness.mem_masks_iff.2 ⟨tape, rest, drawn⟩
  exact ⟨_, _, _, on_create R covered known drawn (fun j => (drawable j).canonical) t, rfl,
    Witness.answer_eq_ok R covered known drawable⟩

/-- For a statement that holds and any challenge, the proofs that answer the challenge with masks
that can be drawn are the simulated ones with responses other than the challenge times the secrets.
Answering never fails, nor does simulating, and masks and responses correspond one to one. Every proof that
is made is the answer to its own challenge with the masks that were drawn, and one is made wherever masks
are drawn. -/
theorem answered_eq_simulated (R : S.Reading E) {w : Witness S k} {other : Counterpart S k}
    (covered : (w.statement other).Covered R) (inRange : w.InRange)
    (holds : (w.statement other).Holds R w.residues) :
    ∃ secrets, w.scalars = .ok secrets ∧ (fun j => (secrets j).value) = w.residues ∧
      (∀ y, y ∈ Witness.masks k ↔ ∃ tape rest, (Witness.drawMasks k).on tape = (.ok y, rest)) ∧
      (∀ (t : Transcript S) (tape : Tape) (p : Proof k) (after : Proving S),
        (create w).on ⟨t, tape⟩ = (.ok p, after) →
        ∃ encoded y, (p.announcements = fun i => .bytes (encoded i)) ∧ y ∈ Witness.masks k ∧
          w.answer (drawnChallenge t encoded) y = .ok p) ∧
      (∀ (t : Transcript S) (tape rest : Tape) (y : Fin k.witnesses → Scalar),
        (Witness.drawMasks k).on tape = (.ok y, rest) →
        ∃ encoded p after, (create w).on ⟨t, tape⟩ = (.ok p, after) ∧
          (p.announcements = fun i => .bytes (encoded i)) ∧
          w.answer (drawnChallenge t encoded) y = .ok p) ∧
      ∀ c : Scalar, c.isCanonical = true →
        {p | ∃ y ∈ Witness.masks k, w.answer c y = .ok p} =
          {p | ∃ z ∈ Witness.responses w.residues c, (w.statement other).simulate c z = .ok p} ∧
        Set.BijOn (Witness.respond c secrets) (Witness.masks k) (Witness.responses w.residues c) ∧
        (∀ y ∈ Witness.masks k, ∃ p, w.answer c y = .ok p ∧
          (w.statement other).simulate c (Witness.respond c secrets y) = .ok p) ∧
        (∀ z : Fin k.witnesses → Scalar, (∀ j, (z j).isCanonical = true) →
          (w.statement other).simulate c z =
            .ok ⟨fun i => .bytes (R.point ((w.statement other).left R (fun j => (z j).value) i -
              c.value • (w.statement other).right R i)).toBytes, z⟩) := by
  obtain ⟨secrets, known, values⟩ := Witness.exists_scalars_of_inRange inRange
  rw [← values] at holds
  refine ⟨secrets, known, values, fun y => Witness.mem_masks_iff,
    fun t tape p after run => exists_answer_of_on_create R covered known run,
    fun t tape rest y drawn => exists_answer_of_drawn R covered known drawn t,
    fun c reduced => ⟨?_, Witness.respond_bijOn values, fun y drawable => ?_,
      fun z canonical => Statement.simulate_eq_ok R covered reduced canonical⟩⟩
  · ext p
    constructor
    · rintro ⟨y, drawable, answered⟩
      refine ⟨_, Witness.respond_mapsTo values drawable, ?_⟩
      rw [← answer_eq_simulate R covered known holds reduced drawable, answered]
    · rintro ⟨z, given, simulated⟩
      obtain ⟨y, drawable, rfl⟩ := (Witness.respond_bijOn values).surjOn given
      refine ⟨y, drawable, ?_⟩
      rw [answer_eq_simulate R covered known holds reduced drawable, simulated]
  · have answered : w.answer c y = .ok _ := Witness.answer_eq_ok R covered known drawable
    refine ⟨_, answered, ?_⟩
    rw [← answer_eq_simulate R covered known holds reduced drawable, answered]

/-- The masks seven, eight and nine answer the challenge five with the responses twelve, eighteen
and twenty-four, and the same proof is simulated with these responses. -/
theorem answered_eq_simulated_of_sample :
    let R := Suite.standardReading
    ∃ p, (samplingProver R).answer (.ofNat 5) ![.ofNat 7, .ofNat 8, .ofNat 9] = .ok p ∧
      (Statement.sample R).simulate (.ofNat 5) ![.ofNat 12, .ofNat 18, .ofNat 24] = .ok p := by
  intro R
  have covered : ((samplingProver R).statement (sampleSecond R)).Covered R :=
    Statement.covered_sample R
  have inRange : (samplingProver R).InRange := by
    constructor <;> decide
  have known : (samplingProver R).scalars = .ok ![.ofNat 1, .ofNat 2, .ofNat 3] :=
    Witness.scalars_ciphertextEquality (by decide) (by decide) _ _ _ _
  have holds : ((samplingProver R).statement (sampleSecond R)).Holds R
      (samplingProver R).residues := by
    obtain ⟨secrets, given, values⟩ := Witness.exists_scalars_of_inRange inRange
    rw [← values, ← Except.ok.inj (known.symm.trans given)]
    exact Statement.holds_sample R
  obtain ⟨secrets, given, -, -, -, -, challenged⟩ := answered_eq_simulated R covered inRange holds
  obtain rfl := Except.ok.inj (known.symm.trans given)
  obtain ⟨-, -, answered, -⟩ := challenged (.ofNat 5) (Scalar.isCanonical_ofNat 5)
  have drawable : ![Scalar.ofNat 7, .ofNat 8, .ofNat 9] ∈ Witness.masks .ciphertextEquality := by
    intro j
    fin_cases j <;> exact ⟨Scalar.isCanonical_ofNat _, by decide +kernel⟩
  obtain ⟨p, answer, simulated⟩ := answered _ drawable
  have responses : Witness.respond (k := .ciphertextEquality) (.ofNat 5)
      ![.ofNat 1, .ofNat 2, .ofNat 3] ![.ofNat 7, .ofNat 8, .ofNat 9] =
        ![.ofNat 12, .ofNat 18, .ofNat 24] := by
    decide +kernel
  rw [responses] at simulated
  exact ⟨p, answer, simulated⟩

end Proof

end AmountProofs
