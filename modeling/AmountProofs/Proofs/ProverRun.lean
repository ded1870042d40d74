import AmountProofs.Proofs.VerifierVerdict

/-!
What a prover makes.

A prover draws its masks from the supply of randomness, announces the values of the left sides at the
masks and answers the challenge; it absorbs the very history that a verifier absorbs up to there. If
the statement holds of the secrets, the proof is accepted, whatever the masks were (`verify_made`).
-/

namespace AmountProofs

variable {S : Suite} {E : Type} [AddCommGroup E] [Module Residue E] {k : ProofKind}

/-! ## Drawing masks -/

namespace Tape

/-- How many scalars can be drawn from a supply. -/
def usable (tape : Tape) : Nat := tape.countP fun block => !(Scalar.ofWide block).isZero

/-- A block gives a scalar if its number is not a multiple of the order. -/
def IsUsable (block : Vector UInt8 64) : Prop := ¬Scalar.order ∣ Bytes.toNat block.toList

instance : DecidablePred IsUsable := fun _ => inferInstanceAs (Decidable ¬_)

theorem isZero_ofWide_iff {block : Vector UInt8 64} :
    (Scalar.ofWide block).isZero = true ↔ ¬IsUsable block := by
  rw [Scalar.isZero_iff, Scalar.ofWide, Scalar.toNat_ofNat, IsUsable, not_not,
    Nat.dvd_iff_mod_eq_zero]

theorem usable_eq_countP (tape : Tape) : tape.usable = tape.countP (IsUsable ·) := by
  refine List.countP_congr fun block _ => ?_
  rw [decide_eq_true_iff, Bool.not_eq_true', ← Bool.not_eq_true, isZero_ofWide_iff, not_not]

/-- Blocks up to the last one that is needed for a number of scalars. -/
structure JustEnough (n : Nat) (used : Tape) : Prop where
  count : used.countP (IsUsable ·) = n
  last : ∀ block ∈ used.getLast?, IsUsable block

/-- The search for a scalar passes over the blocks before the first usable one. -/
theorem next?_of_usable {tape : Tape} (enough : 0 < tape.usable) :
    ∃ skipped block rest, tape = skipped ++ block :: rest ∧ (∀ b ∈ skipped, ¬IsUsable b) ∧
      IsUsable block ∧ tape.next? = some (Scalar.ofWide block, rest) := by
  rw [usable_eq_countP] at enough
  induction tape with
  | nil => exact absurd enough (Nat.lt_irrefl 0)
  | cons block tape ih =>
    by_cases good : IsUsable block
    · refine ⟨[], block, tape, rfl, List.forall_mem_nil _, good, ?_⟩
      rw [next?, if_neg (isZero_ofWide_iff.not_left.2 good)]
    · rw [List.countP_cons_of_neg (by simpa using good)] at enough
      obtain ⟨skipped, found, rest, rfl, passed, nonzero, drawn⟩ := ih enough
      refine ⟨block :: skipped, found, rest, rfl, List.forall_mem_cons.2 ⟨good, passed⟩, nonzero, ?_⟩
      rw [next?, if_pos (isZero_ofWide_iff.2 good)]
      exact drawn

/-- The usable blocks behind blocks that are passed over. -/
theorem filter_append_cons {skipped rest : Tape} {block : Vector UInt8 64}
    (passed : ∀ b ∈ skipped, ¬IsUsable b) (good : IsUsable block) :
    (skipped ++ block :: rest).filter (IsUsable ·) = block :: rest.filter (IsUsable ·) := by
  have none : skipped.filter (IsUsable ·) = [] :=
    List.filter_eq_nil_iff.2 fun b listed => by simpa using passed b listed
  rw [List.filter_append, none, List.nil_append, List.filter_cons_of_pos (by simpa using good)]

theorem usable_append_cons {skipped rest : Tape} {block : Vector UInt8 64}
    (passed : ∀ b ∈ skipped, ¬IsUsable b) (good : IsUsable block) :
    usable (skipped ++ block :: rest) = usable rest + 1 := by
  rw [usable_eq_countP, usable_eq_countP, List.countP_eq_length_filter,
    List.countP_eq_length_filter, filter_append_cons passed good, List.length_cons]

theorem on_scalar {tape rest : Tape} {s : Scalar} (drawn : tape.next? = some (s, rest)) :
    scalar.on tape = (.ok s, rest) := by
  rw [scalar, Attempt.on_bind_of_ok (Attempt.on_get tape)]
  simp only [drawn]
  rw [Attempt.on_bind_of_ok (Attempt.on_set _ _), Attempt.on_pure]

/-- A supply that does not run out gives a scalar for every draw: those of its usable blocks in
their order. Just enough blocks are taken. -/
theorem exists_draws {n : Nat} {tape : Tape} (enough : n ≤ tape.usable) :
    ∃ masks used rest, (Indexed.traverse fun _ : Fin n => scalar).on tape = (.ok masks, rest) ∧
      tape = used ++ rest ∧ used.JustEnough n ∧
      List.ofFn masks = (used.filter (IsUsable ·)).map Scalar.ofWide := by
  induction n generalizing tape with
  | zero => exact ⟨fun j => j.elim0, [], tape, rfl, rfl, ⟨rfl, nofun⟩, List.ofFn_zero⟩
  | succ n ih =>
    obtain ⟨skipped, block, behind, rfl, passed, good, drawn⟩ :=
      next?_of_usable (Nat.lt_of_lt_of_le n.succ_pos enough)
    rw [usable_append_cons passed good] at enough
    obtain ⟨masks, used, rest, run, rfl, just, drawnMasks⟩ := ih (Nat.le_of_succ_le_succ enough)
    refine ⟨Indexed.cons (Scalar.ofWide block) masks, skipped ++ block :: used, rest, ?_, ?_,
      ⟨?_, ?_⟩, ?_⟩
    · rw [Indexed.traverse, Attempt.on_bind_of_ok (on_scalar drawn), Attempt.on_bind_of_ok run,
        Attempt.on_pure]
    · rw [List.append_assoc, List.cons_append]
    · rw [← usable_eq_countP, usable_append_cons passed good, usable_eq_countP, just.count]
    · cases used with
      | nil => simpa using good
      | cons next others => simpa [List.getLast?_append] using just.last
    · rw [filter_append_cons passed good, List.ofFn_succ, List.map_cons, ← drawnMasks]
      rfl

/-- What is drawn is reduced. -/
theorem isCanonical_of_draws {n : Nat} {used : Tape} {masks : Fin n → Scalar}
    (drawn : List.ofFn masks = (used.filter (IsUsable ·)).map Scalar.ofWide) (j : Fin n) :
    (masks j).isCanonical = true := by
  have listed : masks j ∈ (used.filter (IsUsable ·)).map Scalar.ofWide :=
    drawn ▸ List.mem_ofFn.2 ⟨j, rfl⟩
  obtain ⟨block, -, stored⟩ := List.mem_map.1 listed
  rw [← stored]
  exact Scalar.isCanonical_ofWide block

theorem exists_traverse_scalar {n : Nat} {tape : Tape} (enough : n ≤ tape.usable) :
    ∃ masks rest, (Indexed.traverse fun _ : Fin n => scalar).on tape = (.ok masks, rest) ∧
      ∀ j, (masks j).isCanonical = true := by
  obtain ⟨masks, used, rest, run, -, -, drawn⟩ := exists_draws enough
  exact ⟨masks, rest, run, isCanonical_of_draws drawn⟩

end Tape

/-! ## Announcing -/

/-- Over points of the group and reduced scalars, a linear form has its value there. -/
theorem LinearForm.value_eq_ok (R : S.Reading E) {n : Nat} {form : LinearForm S n}
    (members : ∀ term ∈ form, term.2 ∈ R.points) {z : Fin n → Scalar}
    (canonical : ∀ j, (z j).isCanonical = true) :
    form.value z = .ok (R.point (Statement.formTotal R form fun j => (z j).value)) := by
  unfold value
  split
  · rename_i j p
    have member : p ∈ R.points := members (j, p) List.mem_cons_self
    obtain ⟨e, rfl⟩ := member
    rw [R.mul_point (.of_isCanonical (canonical j)), Statement.formTotal, List.map_cons, List.map_nil,
      List.sum_singleton, R.read_point]
  · have points : ∀ term ∈ form.map fun term => (z term.1, term.2), term.2 ∈ R.points := by
      intro term listed
      obtain ⟨source, given, rfl⟩ := List.mem_map.1 listed
      exact members source given
    have admissible : ∀ term ∈ form.map fun term => (z term.1, term.2), term.1.Admissible := by
      intro term listed
      obtain ⟨source, -, rfl⟩ := List.mem_map.1 listed
      exact .of_isCanonical (canonical source.1)
    refine (R.sum_eq_ok points admissible).trans ?_
    rw [Suite.Reading.total, List.map_map]
    rfl

namespace Witness

/-- A prover computes with the left sides of its statement. -/
theorem forms_eq (w : Witness S k) (other : Counterpart S k) :
    w.forms = (w.statement other).forms := by
  cases w <;> cases other <;> rfl

theorem announce_eq_ok (R : S.Reading E) {w : Witness S k} {other : Counterpart S k}
    (covered : (w.statement other).Covered R) {masks : Fin k.witnesses → Scalar}
    (canonical : ∀ j, (masks j).isCanonical = true) :
    w.announce masks =
      .ok fun i => R.point ((w.statement other).left R (fun j => (masks j).value) i) := by
  refine Indexed.traverse_eq_ok fun i => ?_
  rw [w.forms_eq other, LinearForm.value_eq_ok R (Statement.forms_mem covered i) canonical,
    Statement.formTotal_forms]

end Witness

/-! ## Making -/

namespace Proving

theorem on_onTranscript {α : Type} {x : Attempt (Transcript S) α} {t u : Transcript S}
    {result : Except Failure α} (run : x.on t = (result, u)) (tape : Tape) :
    (onTranscript x).on ⟨t, tape⟩ = (result, ⟨u, tape⟩) := by
  rw [onTranscript, Attempt.on_zoom, run]

theorem on_onTape {α : Type} {x : Attempt Tape α} {tape rest : Tape} {result : Except Failure α}
    (run : x.on tape = (result, rest)) (t : Transcript S) :
    (onTape x).on ⟨t, tape⟩ = (result, ⟨t, rest⟩) := by
  rw [onTape, Attempt.on_zoom, run]

/-- A prover names its domain first. -/
theorem on_separateDomain (domain : Bytes) (t : Transcript S) (tape : Tape) :
    (onTranscript (Transcript.separateDomain (.bytes domain))).on ⟨t, tape⟩ =
      (.ok (), ⟨t.after (.append Transcript.domainLabel domain), tape⟩) :=
  on_onTranscript (Transcript.on_separateDomain rfl t) tape

end Proving

namespace Proof

/-- The bytes of the points that masks announce. -/
noncomputable def announcedBytes (R : S.Reading E) (statement : Statement S k)
    (masks : Fin k.witnesses → Scalar) (i : Fin k.rows) : Bytes :=
  (R.point (statement.left R (fun j => (masks j).value) i)).toBytes

/-- The proof that a prover makes on a transcript of secrets and masks. -/
noncomputable def made (R : S.Reading E) (statement : Statement S k) (t : Transcript S)
    (secrets masks : Fin k.witnesses → Scalar) : Proof k where
  announcements i := .bytes (announcedBytes R statement masks i)
  responses :=
    Witness.respond (drawnChallenge t (announcedBytes R statement masks)) secrets masks

/-- The points that were made are read. -/
theorem ofPayload_made (R : S.Reading E) (statement : Statement S k) (t : Transcript S)
    (secrets masks : Fin k.witnesses → Scalar) (i : Fin k.rows) :
    Point.ofPayload ((made R statement t secrets masks).announcements i) =
      .ok (R.point (statement.left R (fun j => (masks j).value) i)) :=
  R.ofPayload_toBytes_point _

/-- The responses that were made are reduced. -/
theorem isCanonical_respond (c : Scalar) (secrets masks : Fin k.witnesses → Scalar)
    (j : Fin k.witnesses) : (Witness.respond c secrets masks j).isCanonical = true :=
  Scalar.isCanonical_add _ _

/-- A prover draws the challenge that a verifier draws. -/
theorem on_proverChallenge (encoded : Fin k.rows → Bytes) (t : Transcript S) :
    (challenge fun i => .bytes (encoded i)).on
        (t.after (.append Transcript.domainLabel k.domain)) =
      (.ok (drawnChallenge t encoded),
        (t.replay (announcing k encoded)).replay [challengeEvent, weightEvent]) := by
  have announced : (Indexed.each fun i => Transcript.appendPoint (S := S)
      (label (k.announcementName i)) (.bytes (encoded i))).on
        (t.after (.append Transcript.domainLabel k.domain)) =
      (.ok (), t.replay (announcing k encoded)) := by
    rw [announcing, Transcript.replay_cons, Transcript.replay_ofFn]
    exact Indexed.on_each
      (fun i => Transcript.on_appendMessage rfl rfl (length_announcementName_le k i)) _
  rw [challenge, Attempt.on_bind_of_ok announced, Attempt.on_bind_of_ok (on_challenge _),
    Attempt.on_bind_of_ok (on_weight _), Attempt.on_pure]
  rfl

/-- Making a proof of secrets with the masks that are drawn. -/
theorem on_create (R : S.Reading E) {w : Witness S k} {other : Counterpart S k}
    (covered : (w.statement other).Covered R) {secrets masks : Fin k.witnesses → Scalar}
    (known : w.scalars = .ok secrets) {tape rest : Tape}
    (drawn : (Witness.drawMasks k).on tape = (.ok masks, rest))
    (canonical : ∀ j, (masks j).isCanonical = true) (t : Transcript S) :
    (create w).on ⟨t, tape⟩ =
      (.ok (made R (w.statement other) t secrets masks),
        ⟨(t.replay (announcing k (announcedBytes R (w.statement other) masks))).replay
          [challengeEvent, weightEvent], rest⟩) := by
  have masked := Proving.on_onTape drawn (t.after (.append Transcript.domainLabel k.domain))
  have challenged := Proving.on_onTranscript
    (on_proverChallenge (announcedBytes R (w.statement other) masks) t) rest
  rw [create, Attempt.on_bind_of_ok (Proving.on_separateDomain k.domain t tape), known,
    Attempt.on_bind_of_ok (Attempt.on_ofExcept _ _), Attempt.on_bind_of_ok masked,
    Witness.announce_eq_ok R covered canonical, Attempt.on_bind_of_ok (Attempt.on_ofExcept _ _)]
  exact Attempt.on_bind_of_ok challenged _

/-- A proof that was made of what its statement holds of is accepted. -/
theorem verify_made (R : S.Reading E) {statement : Statement S k} (covered : statement.Covered R)
    {secrets : Fin k.witnesses → Scalar}
    (holds : statement.Holds R fun j => (secrets j).value) (masks : Fin k.witnesses → Scalar)
    (t : Transcript S) :
    ((made R statement t secrets masks).verify statement t).result = .ok () := by
  have found := ofPayload_made R statement t secrets masks
  have canonical : ∀ j, ((made R statement t secrets masks).responses j).isCanonical = true :=
    isCanonical_respond _ secrets masks
  rw [result_of_found R covered (fun _ => rfl) canonical found t, (ruling_point R k _).1]
  simp only [R.read_point]
  exact sum_defect_respond R statement _ _ holds masks

/-- The prover of the sample statement: the secret one, the amount two and the opening three. -/
def samplingProver (R : S.Reading E) : Witness S .ciphertextEquality :=
  .ciphertextEquality ⟨⟨R.point R.blinding⟩, ⟨.ofNat 1⟩⟩ ⟨R.point R.base⟩
    ⟨⟨R.point (((3 : Int) : Residue) • R.base)⟩, ⟨R.point R.base⟩⟩ ⟨.ofNat 3⟩ 2

/-- The second ciphertext of the sample statement. -/
def sampleSecond (R : S.Reading E) : Counterpart S .ciphertextEquality :=
  .ciphertext ⟨⟨R.point (((2 : Int) : Residue) • R.base + ((3 : Int) : Residue) • R.blinding)⟩,
    ⟨R.point (((3 : Int) : Residue) • R.base)⟩⟩

end Proof

end AmountProofs
