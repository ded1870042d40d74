import AmountProofs.Proofs.StandardReading

/-!
Expressions over points.

An expression is built from the neutral element, the generator of amounts and points that were read,
by sums, differences, negatives and multiples by reduced scalars. Each operation answers some
operands itself and asks the curve about all others, and the curve refuses some of them; but what it
is asked here it answers. So an expression is never refused, whatever cancels on the way, and what
it stores is the encoding of the element that it denotes (`evaluate_eq_ok`). Stored words are
therefore equal exactly if the elements are, and a point is read back from what is written of it
(`evaluate_outcome`).
-/

namespace AmountProofs

variable {S : Suite} {E : Type} [AddCommGroup E] [Module Residue E]

namespace Point

/-! ## Expressions and what they denote -/

/-- An expression over points. What it is given from outside has been read as a point, or is a
reduced scalar. -/
inductive Expression (S : Suite)
  | neutral
  | base
  | given (source : Payload) (p : Point S) (found : ofPayload source = .ok p)
  | add (x y : Expression S)
  | sub (x y : Expression S)
  | neg (x : Expression S)
  | mul (s : Scalar) (reduced : s.isCanonical = true) (x : Expression S)

namespace Expression

/-- Evaluates an expression on stored points, operands from left to right. -/
def evaluate : Expression S → Except Failure (Point S)
  | neutral => .ok .neutral
  | base => .ok .base
  | given source _ _ => ofPayload source
  | add x y => do
    let p ← x.evaluate
    let q ← y.evaluate
    p.add q
  | sub x y => do
    let p ← x.evaluate
    let q ← y.evaluate
    p.sub q
  | neg x => do
    let p ← x.evaluate
    p.neg
  | mul s _ x => do
    let p ← x.evaluate
    Point.mul s p

/-- The element of the group that an expression denotes. -/
noncomputable def denote (R : S.Reading E) : Expression S → E
  | neutral => 0
  | base => R.base
  | given _ p _ => R.read p
  | add x y => x.denote R + y.denote R
  | sub x y => x.denote R - y.denote R
  | neg x => -x.denote R
  | mul s _ x => s.value • x.denote R

/-- An expression is never refused and stores the element that it denotes. -/
theorem evaluate_eq_ok (R : S.Reading E) (x : Expression S) :
    x.evaluate = .ok (R.point (x.denote R)) := by
  induction x with
  | neutral => exact congrArg Except.ok R.point_zero.symm
  | base => exact congrArg Except.ok R.point_base.symm
  | given source p found =>
    rw [evaluate, found, denote, R.point_read (R.mem_of_ofPayload found)]
  | add x y left right =>
    rw [evaluate, left, right]
    exact R.add_point _ _
  | sub x y left right =>
    rw [evaluate, left, right]
    exact R.sub_point _ _
  | neg x stored =>
    rw [evaluate, stored]
    exact R.neg_point _
  | mul s reduced x stored =>
    rw [evaluate, stored]
    exact R.mul_point (.of_isCanonical reduced) _

end Expression

end Point

/-! ## The two words of the neutral element -/

namespace Suite.Reading

variable (R : S.Reading E)

/-- Only the neutral element is stored as one. -/
theorem toBytes_word_point_eq_iff (e : E) :
    Word.toBytes (R.point e).word = 1 :: List.replicate 31 0 ↔ e = 0 := by
  have stored : Word.toBytes Suite.neutralWord = 1 :: List.replicate 31 0 := by decide
  rw [← stored, Word.toBytes_injective.eq_iff, ← R.isNeutral_point_iff, Point.isNeutral, beq_iff_eq]

/-- Only the neutral element is written as zeros. -/
theorem toBytes_point_eq_iff (e : E) : (R.point e).toBytes = List.replicate 32 0 ↔ e = 0 := by
  have sized : (R.point e).toBytes.length = 32 := Word.length_toBytes _
  rw [← Point.ofBytes_eq_neutralWire_iff sized, Point.toBytes, Word.ofBytes_toBytes]
  constructor
  · intro written
    have found := R.ofWire?_wire_point e
    rw [written] at found
    -- The word that the neutral element is written as is read as the neutral element.
    have neutral : Point.neutral = R.point e := Option.some.inj found
    rw [← R.point_zero] at neutral
    exact (R.point_injective neutral).symm
  · rintro rfl
    rw [R.point_zero]
    rfl

/-- The valid words are those that store another element. -/
theorem isValid_point_iff (e : E) : S.isValid (R.point e).word = true ↔ e ≠ 0 := by
  rw [R.isValid_iff]
  constructor
  · rintro ⟨f, proper, same⟩
    rwa [← R.encode_injective same]
  · intro proper
    exact ⟨e, proper, rfl⟩

end Suite.Reading

/-! ## What is stored, compared and written -/

namespace Point.Expression

/-- Two expressions are never refused. What one stores is the encoding of the element that it
denotes: `1, 0, …, 0` if this is the neutral one and a valid word otherwise. They compare equal
exactly if they denote the same element, and what is written of one, zeros exactly for the neutral
element, is read back as it was stored. -/
theorem evaluate_outcome (R : S.Reading E) (x y : Expression S) :
    ∃ p q, x.evaluate = .ok p ∧ y.evaluate = .ok q ∧
      p.word = R.encode (x.denote R) ∧
      (Word.toBytes p.word = 1 :: List.replicate 31 0 ↔ x.denote R = 0) ∧
      (S.isValid p.word = true ↔ x.denote R ≠ 0) ∧
      ((p == q) = true ↔ x.denote R = y.denote R) ∧
      ofPayload (.bytes p.toBytes) = .ok p ∧
      (p.toBytes = List.replicate 32 0 ↔ x.denote R = 0) := by
  refine ⟨_, _, x.evaluate_eq_ok R, y.evaluate_eq_ok R, rfl, R.toBytes_word_point_eq_iff _,
    R.isValid_point_iff _, ?_, R.ofPayload_toBytes_point _, R.toBytes_point_eq_iff _⟩
  rw [beq_iff_eq, R.point_injective.eq_iff]

/-- Twice the generator, less the generator twice, is stored as the neutral element. -/
theorem evaluate_outcome_of_cancelling :
    let twice : Expression Suite.standard := .mul (.ofNat 2) (Scalar.isCanonical_ofNat 2) .base
    ∃ p, ((twice.sub .base).sub .base).evaluate = .ok p ∧
      Word.toBytes p.word = 1 :: List.replicate 31 0 ∧ p.toBytes = List.replicate 32 0 := by
  intro twice
  obtain ⟨p, -, run, -, -, stored, -, -, -, written⟩ :=
    evaluate_outcome Suite.standardReading ((twice.sub .base).sub .base) .neutral
  have cancelled : ((twice.sub .base).sub .base).denote Suite.standardReading = 0 := by
    simp only [twice, denote, Scalar.value_ofNat, Nat.cast_ofNat, two_smul]
    abel
  exact ⟨p, run, stored.2 cancelled, written.2 cancelled⟩

end Point.Expression

end AmountProofs
