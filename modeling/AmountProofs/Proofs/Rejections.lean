import AmountProofs.Proofs.VerifierVerdict

/-!
How a verification can fail.

Nothing is asked of a statement here: its points may be any words, on the curve or not, and the
curve may refuse any of them. A refusal is met only inside the weighted sum, which reports it as a
failure of its own (`Multiscalar.sum_eq_error`); so a verification accepts, or rejects with the error
of the proof's kind and logs that once, and there is no third way (`Proof.verify_outcome`).
-/

namespace AmountProofs

variable {S : Suite} {k : ProofKind}

/-! ## Accepting and rejecting -/

/-- An error of a kind's family, as a verifier raises it. -/
def Proof.rejection (k : ProofKind) (code : ErrorCode) (reason : String) : Failure :=
  .library ⟨.rejection k.family, code, reason, none⟩

/-- Accepting logs nothing. -/
def Verdict.Accepts (verdict : Verdict S) : Prop := verdict.result = .ok () ∧ verdict.log = []

/-- Rejecting with a code raises an error of the kind's family and logs its reason, once. -/
def Verdict.Rejects (verdict : Verdict S) (k : ProofKind) (code : ErrorCode) : Prop :=
  ∃ reason, verdict.result = .error (Proof.rejection k code reason) ∧
    verdict.log = [⟨Log.debug, k.logger, Text.ofString (k.title ++ " rejected: " ++ reason)⟩]

theorem Verdict.Accepts.not_rejects {verdict : Verdict S} (accepts : verdict.Accepts)
    (code : ErrorCode) : ¬verdict.Rejects k code := by
  rintro ⟨reason, rejected, -⟩
  rw [accepts.1] at rejected
  cases rejected

/-- A verdict that rejects does so with one code. -/
theorem Verdict.Rejects.other {verdict : Verdict S} {code other : ErrorCode}
    (rejects : verdict.Rejects k code) (different : other ≠ code) : ¬verdict.Rejects k other := by
  obtain ⟨reason, rejected, -⟩ := rejects
  rintro ⟨reason', rejected', -⟩
  rw [rejected] at rejected'
  cases rejected'
  exact different rfl

theorem Verdict.Rejects.not_accepts {verdict : Verdict S} {code : ErrorCode}
    (rejects : verdict.Rejects k code) : ¬verdict.Accepts :=
  fun accepts => accepts.not_rejects code rejects

namespace Proof

theorem rejectionLog_rejection (k : ProofKind) (code : ErrorCode) (reason : String) :
    rejectionLog k (.error (rejection k code reason)) =
      [⟨Log.debug, k.logger, Text.ofString (k.title ++ " rejected: " ++ reason)⟩] := by
  cases k <;> rfl

theorem within_ruling_of_refused {terms : List (Multiscalar.Term S)} {e : Failure}
    (refused : sumTerms k terms = .error e) :
    within k.family (ruling (S := S) k (.error e)) =
      .error (rejection k .multiscalarMul "Unexpected library error") := by
  rw [sumTerms_eq_sum] at refused
  obtain rfl := Multiscalar.sum_eq_error refused
  rfl

theorem within_ruling_of_not_neutral {total : Point S} (proper : total.isNeutral = false) :
    within k.family (ruling k (.ok total)) =
      .error (rejection k .algebraicRelation ErrorCode.algebraicRelation.defaultReason) := by
  rw [within_ruling, ruling_ok, if_neg (ne_true_of_eq_false proper), unbalanced_eq]
  rfl

variable {p : Proof k} {encoded : Fin k.rows → Bytes}

theorem accepts_of_result {statement : Statement S k} {t : Transcript S}
    (accepted : (p.verify statement t).result = .ok ()) : (p.verify statement t).Accepts :=
  ⟨accepted, congrArg (rejectionLog k) accepted⟩

theorem rejects_of_result {statement : Statement S k} {t : Transcript S} {code : ErrorCode}
    {reason : String} (rejected : (p.verify statement t).result = .error (rejection k code reason)) :
    (p.verify statement t).Rejects k code :=
  ⟨reason, rejected,
    (congrArg (rejectionLog k) rejected).trans (rejectionLog_rejection k code reason)⟩

/-- With all announced points found, the sum decides. -/
theorem result_of_points (owned : ∀ i, (p.announcements i).owned? = some (encoded i))
    {announced : Fin k.rows → Point S}
    (found : ∀ i, Point.ofPayload (p.announcements i) = .ok (announced i))
    (statement : Statement S k) (t : Transcript S) :
    (p.verify statement t).result =
      within k.family (ruling k (sumTerms k (terms statement (drawnChallenge t encoded)
        (drawnWeight t encoded p.responses) p.responses announced))) := by
  rw [verify, on_check_of_found owned found]

/-- With one that is none, nothing else is asked. -/
theorem rejects_of_missing (owned : ∀ i, (p.announcements i).owned? = some (encoded i))
    {i : Fin k.rows} (missing : ∀ q : Point S, Point.ofPayload (p.announcements i) ≠ .ok q)
    (statement : Statement S k) (t : Transcript S) :
    (p.verify statement t).Rejects k .deserialization := by
  obtain ⟨e, failed, malformed⟩ := isMalformed_of_missing owned missing statement t
  obtain ⟨reason, rejected⟩ := within_of_isMalformed (k := k) malformed
  exact rejects_of_result ((congrArg (within k.family) failed).trans rejected)

/-- Either all announced points are found, or one is none. -/
theorem exists_found_or_missing (S : Suite) (p : Proof k) :
    (∃ announced : Fin k.rows → Point S,
      ∀ i, Point.ofPayload (p.announcements i) = .ok (announced i)) ∨
    ∃ i, ∀ q : Point S, Point.ofPayload (p.announcements i) ≠ .ok q := by
  by_cases missing : ∃ i, ∀ q : Point S, Point.ofPayload (p.announcements i) ≠ .ok q
  · exact .inr missing
  · push Not at missing
    choose announced found using missing
    exact .inl ⟨announced, found⟩

/-- A proof that is accepted announces points. -/
theorem exists_found_of_accepted (owned : ∀ i, (p.announcements i).owned? = some (encoded i))
    {statement : Statement S k} {t : Transcript S}
    (accepted : (p.verify statement t).result = .ok ()) :
    ∃ announced : Fin k.rows → Point S,
      ∀ i, Point.ofPayload (p.announcements i) = .ok (announced i) := by
  refine (exists_found_or_missing S p).resolve_right ?_
  rintro ⟨i, missing⟩
  exact (accepts_of_result accepted).not_rejects _ (rejects_of_missing owned missing statement t)

/-- With all announced points found, one of three things happens to the sum. -/
theorem outcome_of_found (owned : ∀ i, (p.announcements i).owned? = some (encoded i))
    {announced : Fin k.rows → Point S}
    (found : ∀ i, Point.ofPayload (p.announcements i) = .ok (announced i))
    (statement : Statement S k) (t : Transcript S) :
    let verdict := p.verify statement t
    let sum := sumTerms k (terms statement (drawnChallenge t encoded)
      (drawnWeight t encoded p.responses) p.responses announced)
    (∃ total, sum = .ok total ∧ total.isNeutral = true ∧ verdict.Accepts) ∨
    (∃ total, sum = .ok total ∧ total.isNeutral = false ∧
      verdict.Rejects k .algebraicRelation) ∨
    ∃ e, sum = .error e ∧ verdict.Rejects k .multiscalarMul := by
  intro verdict sum
  have decided : verdict.result = within k.family (ruling k sum) :=
    result_of_points owned found statement t
  rcases run : sum with e | total
  · rw [run, within_ruling_of_refused run] at decided
    exact .inr (.inr ⟨e, rfl, rejects_of_result decided⟩)
  · rw [run] at decided
    rcases neutral : total.isNeutral with _ | _
    · rw [within_ruling_of_not_neutral neutral] at decided
      exact .inr (.inl ⟨total, rfl, neutral, rejects_of_result decided⟩)
    · rw [within_ruling, ruling_ok, if_pos neutral] at decided
      exact .inl ⟨total, rfl, neutral, accepts_of_result decided⟩

/-- Whatever points a statement is made of and whatever bytes are announced, a verification accepts
or rejects with one of three codes. It rejects as malformed exactly if some announced point is none;
otherwise the sum decides, which is neutral, or not neutral, or refused by the curve. -/
theorem verify_outcome (owned : ∀ i, (p.announcements i).owned? = some (encoded i))
    (statement : Statement S k) (t : Transcript S) :
    let verdict := p.verify statement t
    (verdict.Accepts ∨ verdict.Rejects k .deserialization ∨ verdict.Rejects k .algebraicRelation ∨
      verdict.Rejects k .multiscalarMul) ∧
    (verdict.Rejects k .deserialization ↔
      ∃ i, ∀ q : Point S, Point.ofPayload (p.announcements i) ≠ .ok q) ∧
    ∀ announced : Fin k.rows → Point S,
      (∀ i, Point.ofPayload (p.announcements i) = .ok (announced i)) →
      let sum := sumTerms k (terms statement (drawnChallenge t encoded)
        (drawnWeight t encoded p.responses) p.responses announced)
      (verdict.Accepts ↔ ∃ total, sum = .ok total ∧ total.isNeutral = true) ∧
      (verdict.Rejects k .algebraicRelation ↔
        ∃ total, sum = .ok total ∧ total.isNeutral = false) ∧
      (verdict.Rejects k .multiscalarMul ↔ ∃ e, sum = .error e) := by
  intro verdict
  rcases exists_found_or_missing S p with ⟨announced, found⟩ | ⟨i, missing⟩
  · have complete : ¬∃ i, ∀ q : Point S, Point.ofPayload (p.announcements i) ≠ .ok q :=
      fun ⟨i, missing⟩ => missing _ (found i)
    have same (other : Fin k.rows → Point S)
        (found' : ∀ i, Point.ofPayload (p.announcements i) = .ok (other i)) : other = announced :=
      funext fun i => Except.ok.inj ((found' i).symm.trans (found i))
    -- Each of the three excludes the others, as verdicts and as values of the sum.
    rcases outcome_of_found owned found statement t with
      ⟨total, run, neutral, accepts⟩ | ⟨total, run, proper, unequal⟩ | ⟨e, run, refused⟩
    · have others := accepts.not_rejects (k := k)
      refine ⟨.inl accepts, iff_of_false (others _) complete, fun other found' => ?_⟩
      obtain rfl := same other found'
      simp [verdict, run, neutral, accepts, others]
    · refine ⟨.inr (.inr (.inl unequal)), iff_of_false (unequal.other nofun) complete,
        fun other found' => ?_⟩
      obtain rfl := same other found'
      have unrefused : ¬(p.verify statement t).Rejects k .multiscalarMul := unequal.other nofun
      simp [verdict, run, proper, unequal, unequal.not_accepts, unrefused]
    · refine ⟨.inr (.inr (.inr refused)), iff_of_false (refused.other nofun) complete,
        fun other found' => ?_⟩
      obtain rfl := same other found'
      have undecided : ¬(p.verify statement t).Rejects k .algebraicRelation := refused.other nofun
      simp [verdict, run, refused, refused.not_accepts, undecided]
  · have malformed := rejects_of_missing owned missing statement t
    refine ⟨.inr (.inl malformed), iff_of_true malformed ⟨i, missing⟩, fun announced found => ?_⟩
    exact absurd (found i) (missing _)

/-- A statement of raw words: a key that is off the curve, and twice the point of order four. -/
def strayStatement : Statement Suite.standard .zeroCiphertext :=
  .zeroCiphertext ⟨⟨2⟩⟩ ⟨⟨⟨0⟩⟩, ⟨⟨0⟩⟩⟩

/-- Neutral points in buffers, and the response one. -/
def strayProof : Proof .zeroCiphertext := ⟨fun _ => .buffer (List.replicate 32 0), fun _ => .one⟩

/-- The key is refused as soon as the first product is taken, whatever the challenges are. -/
theorem sumTerms_strayStatement (c w : Scalar)
    (announced : Fin ProofKind.zeroCiphertext.rows → Point Suite.standard) :
    ∃ e, sumTerms .zeroCiphertext (terms strayStatement c w strayProof.responses announced) =
      .error e := by
  have refused : Suite.standard.mul .one 2 = none := by decide +kernel
  have product : Point.mul .one (⟨2⟩ : Point Suite.standard) = .error .refused := by
    have asked : ¬(Scalar.one.isZero || (⟨2⟩ : Point Suite.standard).isNeutral) = true := by
      decide +kernel
    rw [Point.mul, if_neg asked, refused]
    rfl
  obtain ⟨rest, listed⟩ : ∃ rest, terms strayStatement c w strayProof.responses announced =
      (.one, ⟨2⟩) :: rest := ⟨_, rfl⟩
  rw [listed, sumTerms, Multiscalar.sum, Multiscalar.accumulate, product]
  exact ⟨_, rfl⟩

/-- Points that are off the curve are reported as a failure of the sum. -/
theorem verify_outcome_of_strayStatement :
    (strayProof.verify strayStatement .start).Rejects .zeroCiphertext .multiscalarMul := by
  have owned : ∀ i, (strayProof.announcements i).owned? = some (List.replicate 32 0) :=
    fun _ => rfl
  obtain ⟨-, -, decided⟩ := verify_outcome owned strayStatement .start
  exact (decided (fun _ => .neutral) fun _ => rfl).2.2.2 (sumTerms_strayStatement _ _ _)

end Proof

end AmountProofs
