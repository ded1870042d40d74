import AmountProofs.Proofs.Equations
import AmountProofs.Proofs.StandardReading
import AmountProofs.Proofs.TranscriptReplay

/-!
What the verifiers decide.

A verification absorbs the domain and the announced points, draws the challenge, absorbs the
responses and draws the weight; `Proof.verifying` is that history. It is rejected as malformed
exactly if an announced point is none, and otherwise accepted exactly if the weighed defects of the
equations cancel (`verify_result`).
-/

namespace AmountProofs

open Transcript (Event)

variable {S : Suite} {E : Type} [AddCommGroup E] [Module Residue E] {k : ProofKind}

namespace Proof

/-! ## The history of a verification -/

/-- What is absorbed before the challenge: the domain and the announced points. -/
def announcing (k : ProofKind) (encoded : Fin k.rows → Bytes) : List Event :=
  .append Transcript.domainLabel k.domain ::
    List.ofFn fun i => .append (Bytes.ofAscii (k.announcementName i)) (encoded i)

/-- What is absorbed between the challenge and the weight: the responses. -/
def responding (k : ProofKind) (z : Fin k.witnesses → Scalar) : List Event :=
  List.ofFn fun j => .append (Bytes.ofAscii (k.responseName j)) (z j).toBytes

/-- The drawing of the challenge. -/
def challengeEvent : Event := .challenge (Bytes.ofAscii "c") 64

/-- The drawing of the weight. -/
def weightEvent : Event := .challenge (Bytes.ofAscii "w") 64

/-- All that a verification does to a transcript. -/
def verifying (k : ProofKind) (encoded : Fin k.rows → Bytes) (z : Fin k.witnesses → Scalar) :
    List Event :=
  announcing k encoded ++ challengeEvent :: (responding k z ++ [weightEvent])

/-- The challenge that is drawn after the domain and the announced points. -/
def drawnChallenge (t : Transcript S) (encoded : Fin k.rows → Bytes) : Scalar :=
  .ofWide ((t.replay (announcing k encoded)).squeezed (Bytes.ofAscii "c") 64)

/-- The weight that is drawn after the responses. -/
def drawnWeight (t : Transcript S) (encoded : Fin k.rows → Bytes)
    (z : Fin k.witnesses → Scalar) : Scalar :=
  .ofWide ((t.replay (announcing k encoded ++ challengeEvent :: responding k z)).squeezed
    (Bytes.ofAscii "w") 64)

theorem length_announcementName_le (k : ProofKind) (i : Fin k.rows) :
    (Bytes.ofAscii (k.announcementName i)).length ≤ Transcript.maxLabelSize := by
  cases k <;> fin_cases i <;> decide +kernel

theorem length_responseName_le (k : ProofKind) (j : Fin k.witnesses) :
    (Bytes.ofAscii (k.responseName j)).length ≤ Transcript.maxLabelSize := by
  cases k <;> fin_cases j <;> decide +kernel

/-! ## Announced points -/

/-- The failure of bytes that are no point, or no scalar. -/
def IsMalformed (e : Failure) : Prop := ∃ reason, e = .malformed reason .null

/-- Bytes that are no point are malformed. -/
theorem isMalformed_of_ofPayload {y : Payload} {b : Bytes} (owned : y.owned? = some b) {e : Failure}
    (missing : (Point.ofPayload y : Except Failure (Point S)) = .error e) : IsMalformed e := by
  by_cases sized : b.length = 32
  · rw [Point.ofPayload_of_length owned sized, Point.ofWire] at missing
    split at missing
    · cases missing
    · cases missing
      exact ⟨_, rfl⟩
  · rw [Point.ofPayload_of_length_ne owned sized] at missing
    cases missing
    exact ⟨_, rfl⟩

variable {p : Proof k} {encoded : Fin k.rows → Bytes}

/-- The points that are read while the announcements are absorbed. -/
def early (S : Suite) (p : Proof k) (i : Fin k.rows) : Option (Point S) :=
  if k.readsLate i then none else (Point.ofPayload (p.announcements i)).toOption

theorem on_absorbAnnouncement (owned : ∀ i, (p.announcements i).owned? = some (encoded i))
    {i : Fin k.rows}
    (found : k.readsLate i = false → ∃ q : Point S, Point.ofPayload (p.announcements i) = .ok q)
    (t : Transcript S) :
    (absorbAnnouncement p i).on t =
      (.ok (early S p i),
        t.after (.append (Bytes.ofAscii (k.announcementName i)) (encoded i))) := by
  have short := length_announcementName_le k i
  unfold absorbAnnouncement early
  by_cases late : k.readsLate i = true
  · rw [if_pos late, if_pos late, Transcript.appendPoint,
      Attempt.on_bind_of_ok (Transcript.on_appendMessage rfl (owned i) short t), Attempt.on_pure]
  · obtain ⟨q, read⟩ := found (Bool.not_eq_true _ ▸ late)
    rw [if_neg late, if_neg late, read,
      Attempt.on_bind_of_ok (Transcript.on_appendValidPoint rfl (owned i) short read t),
      Attempt.on_pure]
    rfl

/-- The absorption of an announced point fails only for one that is malformed. -/
theorem isMalformed_of_absorbAnnouncement
    (owned : ∀ i, (p.announcements i).owned? = some (encoded i)) {i : Fin k.rows} {t : Transcript S}
    {e : Failure} (failed : ((absorbAnnouncement p i).on t).1 = .error e) : IsMalformed e := by
  rcases read : (Point.ofPayload (p.announcements i) : Except Failure (Point S)) with fault | q
  · by_cases late : k.readsLate i = true
    · rw [on_absorbAnnouncement owned fun early => absurd late (by rw [early]; exact Bool.false_ne_true)]
        at failed
      cases failed
    · rw [absorbAnnouncement, if_neg late,
        Attempt.on_bind_of_error (Transcript.on_appendValidPoint_of_error read t)] at failed
      cases failed
      exact isMalformed_of_ofPayload (owned i) read
  · rw [on_absorbAnnouncement owned fun _ => ⟨q, read⟩] at failed
    cases failed

/-! ## The check -/

/-- The rejection of a proof whose equations do not hold. -/
def unbalanced (k : ProofKind) : Failure :=
  .library (.create (.rejection k.family) .algebraicRelation "" .null)

/-- What a sum decides. -/
def ruling (k : ProofKind) (sum : Except Failure (Point S)) : Except Failure Unit := do
  if (← sum).isNeutral then return () else throw (unbalanced k)

theorem ruling_ok (k : ProofKind) (total : Point S) :
    ruling k (.ok total) = if total.isNeutral then .ok () else .error (unbalanced k) := by
  unfold ruling
  by_cases neutral : total.isNeutral = true
  · simp only [bind, Except.bind, if_pos neutral]
    rfl
  · simp only [bind, Except.bind, if_neg neutral]
    rfl

/-- The announced points, once the late ones are read too. -/
def readAll (p : Proof k) : Except Failure (Fin k.rows → Point S) :=
  Indexed.traverse fun i => readAnnouncement p i (early S p i)

theorem on_announce (owned : ∀ i, (p.announcements i).owned? = some (encoded i))
    (found : ∀ i, k.readsLate i = false → ∃ q : Point S, Point.ofPayload (p.announcements i) = .ok q)
    (t : Transcript S) :
    (Indexed.traverse fun i => absorbAnnouncement p i).on
        (t.after (.append Transcript.domainLabel k.domain)) =
      (.ok (early S p), t.replay (announcing k encoded)) := by
  rw [announcing, Transcript.replay_cons, Transcript.replay_ofFn]
  exact Indexed.on_traverse (fun i => on_absorbAnnouncement owned (found i)) _

theorem on_respond (z : Fin k.witnesses → Scalar) (t : Transcript S) :
    (Indexed.each fun j => Transcript.appendScalar (label (k.responseName j)) (z j)).on t =
      (.ok (), t.replay (responding k z)) := by
  rw [responding, Transcript.replay_ofFn]
  exact Indexed.on_each
    (fun j => Transcript.on_appendMessage rfl rfl (length_responseName_le k j)) _

theorem on_challenge (t : Transcript S) :
    (Transcript.challengeScalar challengeLabel).on t =
      (.ok (.ofWide (t.squeezed (Bytes.ofAscii "c") 64)), t.after challengeEvent) :=
  Transcript.on_challengeScalar rfl (by decide +kernel) t

theorem on_weight (t : Transcript S) :
    (Transcript.challengeScalar weightLabel).on t =
      (.ok (.ofWide (t.squeezed (Bytes.ofAscii "w") 64)), t.after weightEvent) :=
  Transcript.on_challengeScalar rfl (by decide +kernel) t

theorem replay_verifying (t : Transcript S) (encoded : Fin k.rows → Bytes)
    (z : Fin k.witnesses → Scalar) :
    t.replay (verifying k encoded z) =
      (((t.replay (announcing k encoded)).after challengeEvent).replay (responding k z)).after
        weightEvent := by
  rw [verifying, Transcript.replay_append, Transcript.replay_cons, Transcript.replay_append,
    Transcript.replay_cons, Transcript.replay_nil]

theorem drawnWeight_eq (t : Transcript S) (encoded : Fin k.rows → Bytes)
    (z : Fin k.witnesses → Scalar) :
    drawnWeight t encoded z =
      .ofWide ((((t.replay (announcing k encoded)).after challengeEvent).replay
        (responding k z)).squeezed (Bytes.ofAscii "w") 64) := by
  rw [drawnWeight, Transcript.replay_append, Transcript.replay_cons]

/-- If all points that are read early are found, the check runs through its whole history, and then
reads the other points and rules. -/
theorem on_check (owned : ∀ i, (p.announcements i).owned? = some (encoded i))
    (found : ∀ i, k.readsLate i = false → ∃ q : Point S, Point.ofPayload (p.announcements i) = .ok q)
    (statement : Statement S k) (t : Transcript S) :
    (check p statement).on t =
      (readAll p >>= fun announced =>
        ruling k (sumTerms k (terms statement (drawnChallenge t encoded)
          (drawnWeight t encoded p.responses) p.responses announced)),
        t.replay (verifying k encoded p.responses)) := by
  rw [check, Attempt.on_bind_of_ok (Transcript.on_separateDomain rfl t),
    Attempt.on_bind_of_ok (on_announce owned found t), Attempt.on_bind_of_ok (on_challenge _),
    Attempt.on_bind_of_ok (on_respond _ _), Attempt.on_bind_of_ok (on_weight _),
    Indexed.traverse_ofExcept, replay_verifying, drawnWeight_eq]
  change (Attempt.ofExcept (readAll p) >>= _).on _ = _
  cases readAll p with
  | error e => exact Attempt.on_bind_of_error (Attempt.on_ofExcept _ _) _
  | ok announced =>
    rw [Attempt.on_bind_of_ok (Attempt.on_ofExcept _ _)]
    change (Attempt.ofExcept (sumTerms k (terms statement (drawnChallenge t encoded) _ _ _)) >>= _).on
      _ = (ruling k (sumTerms k _), _)
    cases sumTerms k (terms statement (drawnChallenge t encoded) _ p.responses announced) with
    | error e => exact Attempt.on_bind_of_error (Attempt.on_ofExcept _ _) _
    | ok total =>
      rw [Attempt.on_bind_of_ok (Attempt.on_ofExcept _ _), ruling_ok]
      by_cases neutral : total.isNeutral = true
      · rw [if_pos neutral, if_pos neutral, Attempt.on_pure]
      · rw [if_neg neutral, if_neg neutral, Attempt.on_throw, unbalanced]

theorem readAnnouncement_early (p : Proof k) {i : Fin k.rows} {q : Point S}
    (found : Point.ofPayload (p.announcements i) = .ok q) :
    readAnnouncement p i (early S p i) = .ok q := by
  unfold early
  by_cases late : k.readsLate i = true
  · rw [if_pos late]
    exact found
  · rw [if_neg late, found]
    rfl

theorem readAnnouncement_late {p : Proof k} {i : Fin k.rows} (late : ¬k.readsLate i = false) :
    readAnnouncement p i (early S p i) = Point.ofPayload (p.announcements i) := by
  rw [early, if_pos (Bool.not_eq_false _ ▸ late)]
  rfl

/-- With all announced points found, the weighed equations decide. -/
theorem on_check_of_found (owned : ∀ i, (p.announcements i).owned? = some (encoded i))
    {announced : Fin k.rows → Point S}
    (found : ∀ i, Point.ofPayload (p.announcements i) = .ok (announced i))
    (statement : Statement S k) (t : Transcript S) :
    (check p statement).on t =
      (ruling k (sumTerms k (terms statement (drawnChallenge t encoded)
        (drawnWeight t encoded p.responses) p.responses announced)),
        t.replay (verifying k encoded p.responses)) := by
  have all : readAll p = .ok announced :=
    Indexed.traverse_eq_ok fun i => readAnnouncement_early p (found i)
  rw [on_check owned (fun i _ => ⟨announced i, found i⟩), all]
  rfl

/-- With an announced point that is none, the check fails for that. -/
theorem isMalformed_of_missing (owned : ∀ i, (p.announcements i).owned? = some (encoded i))
    {i : Fin k.rows} (missing : ∀ q : Point S, Point.ofPayload (p.announcements i) ≠ .ok q)
    (statement : Statement S k) (t : Transcript S) :
    ∃ e, ((check p statement).on t).1 = .error e ∧ IsMalformed e := by
  by_cases found : ∀ j, k.readsLate j = false →
      ∃ q : Point S, Point.ofPayload (p.announcements j) = .ok q
  · -- The point is a late one: it is missed once everything else is done.
    have late : k.readsLate i = true := by
      by_contra early
      obtain ⟨q, read⟩ := found i (Bool.not_eq_true _ ▸ early)
      exact missing q read
    have failed : ∃ e, readAll (S := S) p = .error e ∧ IsMalformed e := by
      refine Indexed.exists_traverse_eq_error (fun j e failed => ?_) ⟨i, ?_⟩
      · rcases read : (Point.ofPayload (p.announcements j) : Except Failure (Point S)) with fault | q
        · rw [readAnnouncement_late fun early => by simpa [read] using found j early] at failed
          exact isMalformed_of_ofPayload (owned j) failed
        · rw [readAnnouncement_early p read] at failed
          cases failed
      · rw [readAnnouncement_late fun early => absurd late (by rw [early]; exact Bool.false_ne_true)]
        rcases read : (Point.ofPayload (p.announcements i) : Except Failure (Point S)) with fault | q
        · exact ⟨fault, rfl⟩
        · exact absurd read (missing q)
    obtain ⟨e, failed, malformed⟩ := failed
    exact ⟨e, by rw [on_check owned found, failed]; rfl, malformed⟩
  · -- Some point is missed while the announcements are absorbed.
    push Not at found
    obtain ⟨j, early, missing⟩ := found
    have always (t : Transcript S) : ∃ e, ((absorbAnnouncement p j).on t).1 = .error e := by
      rcases read : (Point.ofPayload (p.announcements j) : Except Failure (Point S)) with fault | q
      · refine ⟨fault, ?_⟩
        rw [absorbAnnouncement, if_neg (by rw [early]; exact Bool.false_ne_true),
          Attempt.on_bind_of_error (Transcript.on_appendValidPoint_of_error read t)]
      · exact absurd read (missing q)
    obtain ⟨e, u, failed, malformed⟩ := Indexed.on_traverse_of_error
      (f := fun i => absorbAnnouncement (S := S) p i)
      (fun _ _ _ => isMalformed_of_absorbAnnouncement owned) ⟨j, always⟩
      (t.after (.append Transcript.domainLabel k.domain))
    refine ⟨e, ?_, malformed⟩
    rw [check, Attempt.on_bind_of_ok (Transcript.on_separateDomain rfl t),
      Attempt.on_bind_of_error failed]

/-! ## Proofs with a moved point -/

/-- The announced points that belong to masks, with one of them moved. -/
noncomputable def movedPoint (R : S.Reading E) (statement : Statement S k)
    (masks : Fin k.witnesses → Scalar) (row : Fin k.rows) (off : E) (i : Fin k.rows) : Point S :=
  R.point (statement.left R (fun j => (masks j).value) i + if i = row then off else 0)

/-- A proof of secrets that is made as a prover makes it, except that one announced point is moved. -/
noncomputable def moved (R : S.Reading E) (statement : Statement S k) (t : Transcript S)
    (secrets masks : Fin k.witnesses → Scalar) (row : Fin k.rows) (off : E) : Proof k where
  announcements i := .bytes (movedPoint R statement masks row off i).toBytes
  responses := Witness.respond
    (drawnChallenge t fun i => (movedPoint R statement masks row off i).toBytes) secrets masks

/-- The weighed defects of a proof with one point moved add up to what it was moved by, weighed. -/
theorem sum_defect_moved (R : S.Reading E) (statement : Statement S k) (t : Transcript S) (w : Scalar)
    {secrets : Fin k.witnesses → Scalar} (holds : statement.Holds R fun j => (secrets j).value)
    (masks : Fin k.witnesses → Scalar) (row : Fin k.rows) (off : E) :
    ∑ i : Fin k.rows, w.value ^ i.val • statement.defect R
        (drawnChallenge t fun i => (movedPoint R statement masks row off i).toBytes).value
        (fun j => ((moved R statement t secrets masks row off).responses j).value)
        (fun i => R.read (movedPoint R statement masks row off i)) i = -(w.value ^ row.val • off) := by
  have parted (c : Residue) (z : Fin k.witnesses → Residue) (i : Fin k.rows) :
      statement.defect R c z (fun i => R.read (movedPoint R statement masks row off i)) i =
        statement.defect R c z (statement.left R fun j => (masks j).value) i -
          if i = row then off else 0 := by
    rw [Statement.defect, Statement.defect, movedPoint, R.read_point, sub_add_eq_sub_sub]
  simp only [parted, smul_sub, smul_ite_zero, Finset.sum_sub_distrib, Fintype.sum_ite_eq']
  exact (congrArg (· - _) (sum_defect_respond R statement _ w holds masks)).trans (zero_sub _)

/-! ## The verdict -/

/-- Malformed bytes are a rejection of the proof's family. -/
theorem within_of_isMalformed {e : Failure} (malformed : IsMalformed e) :
    ∃ reason, within k.family (.error e : Except Failure Unit) =
      .error (.library ⟨.rejection k.family, .deserialization, reason, none⟩) := by
  obtain ⟨reason, rfl⟩ := malformed
  exact ⟨_, rfl⟩

/-- What the equations decide is left as it is. -/
theorem within_ruling (k : ProofKind) (total : Point S) :
    within k.family (ruling k (.ok total)) = ruling k (.ok total) := by
  rw [ruling_ok]
  split
  · rfl
  · cases k <;> rfl

theorem unbalanced_eq (k : ProofKind) :
    unbalanced k = .library ⟨.rejection k.family, .algebraicRelation,
      ErrorCode.algebraicRelation.defaultReason, none⟩ := by
  cases k <;> rfl

/-- With all announced points found and admissible responses, the weighed defects decide. -/
theorem result_of_admissible (R : S.Reading E) {statement : Statement S k}
    (covered : statement.Covered R)
    (owned : ∀ i, (p.announcements i).owned? = some (encoded i))
    (admissible : ∀ j, (p.responses j).Admissible) {announced : Fin k.rows → Point S}
    (found : ∀ i, Point.ofPayload (p.announcements i) = .ok (announced i)) (t : Transcript S) :
    (p.verify statement t).result = ruling k (.ok (R.point
      (∑ i : Fin k.rows, (drawnWeight t encoded p.responses).value ^ i.val •
        statement.defect R (drawnChallenge t encoded).value (fun j => (p.responses j).value)
          (fun i => R.read (announced i)) i))) := by
  have stored : announced = fun i => R.point (R.read (announced i)) :=
    funext fun i => (R.point_read (R.mem_of_ofPayload (found i))).symm
  rw [verify, on_check_of_found owned found]
  change within k.family (ruling k _) = _
  rw [stored, sumTerms_terms covered _ _ admissible, within_ruling]
  simp only [R.read_point]

/-- The same with reduced responses. -/
theorem result_of_found (R : S.Reading E) {statement : Statement S k}
    (covered : statement.Covered R)
    (owned : ∀ i, (p.announcements i).owned? = some (encoded i))
    (canonical : ∀ j, (p.responses j).isCanonical = true) {announced : Fin k.rows → Point S}
    (found : ∀ i, Point.ofPayload (p.announcements i) = .ok (announced i)) (t : Transcript S) :
    (p.verify statement t).result = ruling k (.ok (R.point
      (∑ i : Fin k.rows, (drawnWeight t encoded p.responses).value ^ i.val •
        statement.defect R (drawnChallenge t encoded).value (fun j => (p.responses j).value)
          (fun i => R.read (announced i)) i))) :=
  result_of_admissible R covered owned (fun j => .of_isCanonical (canonical j)) found t

theorem ruling_point (R : S.Reading E) (k : ProofKind) (e : E) :
    (ruling k (.ok (R.point e)) = .ok () ↔ e = 0) ∧
      (ruling k (.ok (R.point e)) = .error (unbalanced k) ↔ e ≠ 0) := by
  rw [ruling_ok]
  by_cases zero : e = 0
  · rw [if_pos ((R.isNeutral_point_iff e).2 zero)]
    simp [zero]
  · rw [if_neg (mt (R.isNeutral_point_iff e).1 zero)]
    simp [zero]

/-- A verification fails as malformed exactly if some announced point is none. Otherwise it accepts
exactly if the weighed defects of the equations cancel, and rejects for the equations if not.
There is no other failure. -/
theorem verify_result (R : S.Reading E) {statement : Statement S k}
    (covered : statement.Covered R)
    (owned : ∀ i, (p.announcements i).owned? = some (encoded i))
    (canonical : ∀ j, (p.responses j).isCanonical = true) (t : Transcript S) :
    let result := (p.verify statement t).result
    let c := drawnChallenge t encoded
    let w := drawnWeight t encoded p.responses
    ((∃ i, ∀ q : Point S, Point.ofPayload (p.announcements i) ≠ .ok q) ↔
      ∃ reason, result = .error
        (.library ⟨.rejection k.family, .deserialization, reason, none⟩)) ∧
    (∀ announced : Fin k.rows → Point S,
      (∀ i, Point.ofPayload (p.announcements i) = .ok (announced i)) →
      let sum := ∑ i : Fin k.rows, w.value ^ i.val • statement.defect R c.value
        (fun j => (p.responses j).value) (fun i => R.read (announced i)) i
      (result = .ok () ↔ sum = 0) ∧
      (result = .error (.library ⟨.rejection k.family, .algebraicRelation,
        ErrorCode.algebraicRelation.defaultReason, none⟩) ↔ sum ≠ 0)) ∧
    (∀ e, result = .error e → ∃ code reason,
      e = .library ⟨.rejection k.family, code, reason, none⟩ ∧
      (code = .deserialization ∨ code = .algebraicRelation)) := by
  intro result c w
  rw [← unbalanced_eq]
  -- Either the equations decide alone, or the first missing point does: the codes never mix.
  by_cases found : ∀ i, ∃ q : Point S, Point.ofPayload (p.announcements i) = .ok q
  · choose announced found using found
    have verdict : result = ruling k _ := result_of_found R covered owned canonical found t
    have decided := ruling_point R k (∑ i : Fin k.rows, w.value ^ i.val • statement.defect R c.value
      (fun j => (p.responses j).value) (fun i => R.read (announced i)) i)
    rw [← verdict] at decided
    have failure {e : Failure} (failed : result = .error e) : e = unbalanced k := by
      rw [verdict, ruling_ok] at failed
      split at failed
      · cases failed
      · exact (Except.error.inj failed).symm
    refine ⟨iff_of_false ?_ ?_, ?_, ?_⟩
    · rintro ⟨i, missing⟩
      exact absurd (found i) (missing _)
    · rintro ⟨reason, malformed⟩
      have same := failure malformed
      rw [unbalanced_eq] at same
      cases same
    · intro other found'
      obtain rfl : announced = other :=
        funext fun i => Except.ok.inj ((found i).symm.trans (found' i))
      exact decided
    · intro e failed
      exact ⟨_, _, (failure failed).trans (unbalanced_eq k), .inr rfl⟩
  · push Not at found
    obtain ⟨i, missing⟩ := found
    obtain ⟨e, failed, malformed⟩ := isMalformed_of_missing owned missing statement t
    obtain ⟨reason, rejected⟩ := within_of_isMalformed (k := k) malformed
    have verdict : result = .error _ := (congrArg (within k.family) failed).trans rejected
    refine ⟨iff_of_true ⟨i, missing⟩ ⟨reason, verdict⟩, ?_, ?_⟩
    · intro announced found
      exact absurd (found i) (missing _)
    · intro e failed
      rw [verdict] at failed
      cases failed
      exact ⟨_, reason, rfl, .inl rfl⟩

/-- A proof of a statement that holds is accepted if no point is moved, and rejected for the equations if
the first one is; announced points of no bytes are malformed. -/
theorem verify_result_of_moved :
    let R := Suite.standardReading
    let verdict (p : Proof .ciphertextEquality) := (p.verify (.sample R) Transcript.start).result
    let made := moved R (.sample R) .start ![.ofNat 1, .ofNat 2, .ofNat 3] ![.ofNat 7, .ofNat 8, .ofNat 9] 0
    verdict (made 0) = .ok () ∧
      verdict (made R.base) = .error (.library ⟨.rejection .equality, .algebraicRelation,
        ErrorCode.algebraicRelation.defaultReason, none⟩) ∧
      ∃ reason, verdict ⟨fun _ => .bytes [], fun _ => .zero⟩ =
        .error (.library ⟨.rejection .equality, .deserialization, reason, none⟩) := by
  intro R verdict made
  have covered : (Statement.sample R).Covered R := Statement.covered_sample R
  have holds := Statement.holds_sample R
  have reduced : Scalar.zero.isCanonical = true := by decide +kernel
  have decided (off : Edwards25519.PrimeOrder) :
      (verdict (made off) = .ok () ↔ off = 0) ∧
        (verdict (made off) = .error (.library ⟨.rejection .equality, .algebraicRelation,
          ErrorCode.algebraicRelation.defaultReason, none⟩) ↔ off ≠ 0) := by
    obtain ⟨-, decided, -⟩ := verify_result R (p := made off) covered (fun _ => rfl)
      (fun j => Scalar.isCanonical_add _ _) Transcript.start
    obtain ⟨accepted, rejected⟩ :=
      decided (movedPoint R (.sample R) ![.ofNat 7, .ofNat 8, .ofNat 9] 0 off)
        fun i => R.ofPayload_toBytes_point _
    have weighed (w : Residue) : -(w ^ 0 • off) = 0 ↔ off = 0 := by
      rw [pow_zero, one_smul, neg_eq_zero]
    have cancels (w : Scalar) := (Eq.congr_left (sum_defect_moved R (.sample R) .start w holds
      ![.ofNat 7, .ofNat 8, .ofNat 9] 0 off)).trans (weighed w.value)
    exact ⟨accepted.trans (cancels _), rejected.trans (not_congr (cancels _))⟩
  refine ⟨(decided 0).1.2 rfl, (decided R.base).2.2 R.base_ne_zero, ?_⟩
  exact (verify_result R covered (fun _ => rfl) (fun _ => reduced) Transcript.start).1.1
    ⟨0, fun _ found => nomatch found⟩

end Proof

end AmountProofs
