import AmountProofs.Multiscalar
import AmountProofs.Proofs.Residues
import AmountProofs.Proofs.WrittenPoints
import Mathlib.Algebra.Module.Torsion.Field

/-!
The group behind a suite's encodings.

A suite's operations work on words and may refuse their operands. A `Suite.Reading` says what they
are trusted to do: the words that the suite calls valid, together with the neutral word, are the
encodings of the elements of a commutative group whose elements all have an order that divides the
prime order, addition and subtraction are those of the group, and multiplication is that by residues,
except that it refuses to give the neutral element. Everything that is proved about points of the
group is proved over a reading; nothing else is assumed of the curve.
-/

namespace AmountProofs

variable {S : Suite} {E : Type} [AddCommGroup E] [Module Residue E]

/-- A commutative group, with residues as its scalars, that a suite's encodings stand for. -/
structure Suite.Reading (S : Suite) (E : Type) [AddCommGroup E] [Module Residue E] where
  /-- The encoding of an element. -/
  encode : E → Word
  /-- The generator of amounts. -/
  base : E
  /-- The generator of openings. -/
  blinding : E
  encode_injective : Function.Injective encode
  encode_zero : encode 0 = Suite.neutralWord
  /-- The valid words encode the elements other than the neutral one. -/
  isValid_iff (w : Word) : S.isValid w = true ↔ ∃ e, e ≠ 0 ∧ encode e = w
  /-- The word that the neutral element is written as is no encoding of its own. -/
  isValid_neutralWire : S.isValid Suite.neutralWire = false
  add_encode (e f : E) : S.add (encode e) (encode f) = some (encode (e + f))
  sub_encode (e f : E) : S.sub (encode e) (encode f) = some (encode (e - f))
  mul_encode {s : Scalar} (clear : s.TopBitClear) {e : E} (proper : s.value • e ≠ 0) :
    S.mul s (encode e) = some (encode (s.value • e))
  mul_refused {s : Scalar} (clear : s.TopBitClear) {e : E} (neutral : s.value • e = 0) :
    S.mul s (encode e) = none
  encode_base : encode base = S.base
  base_ne_zero : base ≠ 0
  encode_blinding : encode blinding = S.blinding
  blinding_ne_zero : blinding ≠ 0

/-! ## Reading and multiplying -/

namespace Point

/-- Thirty-two bytes are read as the word that they spell. -/
theorem ofPayload_of_length {p : Payload} {b : Bytes} (owned : p.owned? = some b)
    (sized : b.length = 32) : (ofPayload p : Except Failure (Point S)) = ofWire (Word.ofBytes b) :=
  ofPayload_of_content (Payload.content?_of_owned owned) sized

/-- Any other number of bytes is refused. -/
theorem ofPayload_of_length_ne {p : Payload} {b : Bytes} (owned : p.owned? = some b)
    (sized : b.length ≠ 32) :
    (ofPayload p : Except Failure (Point S)) =
      .error (.malformed s!"point must be 32 bytes, got {b.length}" .null) :=
  ofPayload_of_content_ne (Payload.content?_of_owned owned) sized

/-- The curve is asked for a product unless the scalar or the point is stored as neutral. -/
theorem mul_of_asked {s : Scalar} {p : Point S} (asked : ¬(s.isZero || p.isNeutral) = true) :
    mul s p = match S.mul s p.word with
      | some w => .ok ⟨w⟩
      | none => .error .refused := by
  rw [mul, if_neg asked]
  rfl

end Point

namespace Suite.Reading

variable (R : S.Reading E)

/-- The point that stores an element. -/
def point (e : E) : Point S := ⟨R.encode e⟩

/-- The element that a point stores. -/
noncomputable def read (p : Point S) : E := Function.invFun R.point p

/-- The points that store an element of the group. -/
def points : Set (Point S) := Set.range R.point

theorem point_injective : Function.Injective R.point :=
  fun _ _ same => R.encode_injective (congrArg Point.word same)

@[simp] theorem read_point (e : E) : R.read (R.point e) = e :=
  Function.leftInverse_invFun R.point_injective e

@[simp] theorem point_mem (e : E) : R.point e ∈ R.points := ⟨e, rfl⟩

theorem point_read {p : Point S} (member : p ∈ R.points) : R.point (R.read p) = p :=
  Function.invFun_eq member

@[simp] theorem point_zero : R.point 0 = Point.neutral := congrArg Point.mk R.encode_zero

@[simp] theorem point_base : R.point R.base = Point.base := congrArg Point.mk R.encode_base

@[simp] theorem point_blinding : R.point R.blinding = Point.blinding :=
  congrArg Point.mk R.encode_blinding

@[simp] theorem read_neutral : R.read Point.neutral = 0 := by rw [← R.point_zero, R.read_point]

@[simp] theorem read_base : R.read Point.base = R.base := by rw [← R.point_base, R.read_point]

@[simp] theorem read_blinding : R.read Point.blinding = R.blinding := by
  rw [← R.point_blinding, R.read_point]

theorem neutral_mem : Point.neutral ∈ R.points := ⟨0, R.point_zero⟩

theorem base_mem : Point.base ∈ R.points := ⟨R.base, R.point_base⟩

theorem blinding_mem : Point.blinding ∈ R.points := ⟨R.blinding, R.point_blinding⟩

theorem read_eq_zero_iff {p : Point S} (member : p ∈ R.points) : R.read p = 0 ↔ p = .neutral := by
  constructor
  · intro zero
    rw [← R.point_read member, zero, R.point_zero]
  · rintro rfl
    exact R.read_neutral

theorem isNeutral_point_iff (e : E) : (R.point e).isNeutral = true ↔ e = 0 := by
  rw [Point.isNeutral, beq_iff_eq, point, ← R.encode_zero, R.encode_injective.eq_iff]

/-! ## Operations on points -/

/-- The sum of two points of the group is never refused. -/
theorem add_point (e f : E) : (R.point e).add (R.point f) = .ok (R.point (e + f)) := by
  unfold Point.add
  split
  · rename_i neutral
    rw [(R.isNeutral_point_iff e).1 neutral, zero_add]
  · split
    · rename_i neutral
      rw [(R.isNeutral_point_iff f).1 neutral, add_zero]
    · rw [point, point, R.add_encode]
      rfl

/-- The difference of two points of the group is never refused. -/
theorem sub_point (e f : E) : (R.point e).sub (R.point f) = .ok (R.point (e - f)) := by
  unfold Point.sub
  split
  · rename_i neutral
    rw [(R.isNeutral_point_iff f).1 neutral, sub_zero]
  · rw [point, point, R.sub_encode]
    rfl

/-- Where the scalar or the point is stored as neutral, the curve is not asked. -/
theorem mul_point_of_vanishing {s : Scalar} {e : E} (vanishing : s.isZero = true ∨ e = 0) :
    Point.mul s (R.point e) = .ok (R.point (s.value • e)) := by
  have neutral : s.value • e = 0 := by
    rcases vanishing with zero | rfl
    · rw [Scalar.value, Scalar.isZero_iff.1 zero, Nat.cast_zero, zero_smul]
    · exact smul_zero _
  have skipped : (s.isZero || (R.point e).isNeutral) = true := by
    rwa [Bool.or_eq_true, R.isNeutral_point_iff]
  rw [Point.mul, if_pos skipped, neutral, R.point_zero]

/-- Elsewhere the curve is asked. -/
theorem mul_point_of_asked {s : Scalar} {e : E} (nonzero : s.isZero = false) (proper : e ≠ 0) :
    Point.mul s (R.point e) = match S.mul s (R.encode e) with
      | some w => .ok ⟨w⟩
      | none => .error .refused := by
  refine Point.mul_of_asked ?_
  rw [Bool.or_eq_true, R.isNeutral_point_iff, nonzero]
  rintro (zero | neutral)
  · cases zero
  · exact proper neutral

/-- The negative of a point of the group is never refused. -/
theorem neg_point (e : E) : (R.point e).neg = .ok (R.point (-e)) := by
  rw [Point.neg, ← R.point_zero, R.sub_point, zero_sub]

/-- The multiple by an admissible scalar is never refused. -/
theorem mul_point {s : Scalar} (admissible : s.Admissible) (e : E) :
    Point.mul s (R.point e) = .ok (R.point (s.value • e)) := by
  by_cases vanishing : s.isZero = true ∨ e = 0
  · exact R.mul_point_of_vanishing vanishing
  · obtain ⟨nonzero, proper⟩ := not_or.1 vanishing
    have given : s.value • e ≠ 0 := by
      rw [Ne, smul_eq_zero, not_or]
      exact ⟨mt admissible.isZero_of_value nonzero, proper⟩
    rw [R.mul_point_of_asked (Bool.not_eq_true _ ▸ nonzero) proper,
      R.mul_encode admissible.clear given]
    rfl

/-- A multiple that is not refused is that of the group. -/
theorem eq_of_mul_point_eq_ok {s : Scalar} (clear : s.TopBitClear) {e : E} {p : Point S}
    (given : Point.mul s (R.point e) = .ok p) : p = R.point (s.value • e) := by
  by_cases vanishing : s.isZero = true ∨ e = 0
  · rw [R.mul_point_of_vanishing vanishing] at given
    exact (Except.ok.inj given).symm
  · obtain ⟨nonzero, proper⟩ := not_or.1 vanishing
    rw [R.mul_point_of_asked (Bool.not_eq_true _ ▸ nonzero) proper] at given
    by_cases neutral : s.value • e = 0
    · rw [R.mul_refused clear neutral] at given
      cases given
    · rw [R.mul_encode clear neutral] at given
      exact (Except.ok.inj given).symm

/-! ## Points as they are written out -/

/-- The neutral element's words are no encodings of other elements. -/
theorem separates (R : S.Reading E) : S.Separates where
  neutralWord := by
    rw [Bool.eq_false_iff]
    intro valid
    obtain ⟨e, proper, stored⟩ := (R.isValid_iff _).1 valid
    exact proper (R.encode_injective (stored.trans R.encode_zero.symm))
  neutralWire := R.isValid_neutralWire

/-- The points of the group are the elements that a reader tells from other words. -/
theorem mem_points_iff {p : Point S} : p ∈ R.points ↔ p.IsElement := by
  constructor
  · rintro ⟨e, rfl⟩
    by_cases neutral : e = 0
    · exact .inl (by rw [neutral, R.point_zero])
    · exact .inr ((R.isValid_iff _).2 ⟨e, neutral, rfl⟩)
  · rintro (rfl | valid)
    · exact R.neutral_mem
    · obtain ⟨e, -, stored⟩ := (R.isValid_iff _).1 valid
      exact ⟨e, congrArg Point.mk stored⟩

/-- What is read as a point is one of the group, and it is written as it was read. -/
theorem mem_of_ofWire? {w : Word} {p : Point S} (found : Point.ofWire? w = some p) :
    p ∈ R.points ∧ p.wire = w :=
  ⟨R.mem_points_iff.2 (Point.isElement_of_ofWire? found),
    Point.wire_of_ofWire? R.separates found⟩

/-- What is read from a payload is a point of the group. -/
theorem mem_of_ofPayload {source : Payload} {p : Point S} (found : Point.ofPayload source = .ok p) :
    p ∈ R.points := by
  obtain ⟨-, b, -, given⟩ := Point.ofPayload_eq_ok_iff.1 found
  exact (R.mem_of_ofWire? given).1

/-- A point of the group that is written out is read back. -/
theorem ofWire?_wire_point (e : E) : Point.ofWire? (R.point e).wire = some (R.point e) :=
  Point.ofWire?_wire R.separates (R.mem_points_iff.1 (R.point_mem e))

/-- The bytes of a point of the group are read back. -/
theorem ofPayload_toBytes_point (e : E) :
    Point.ofPayload (.bytes (R.point e).toBytes) = .ok (R.point e) := by
  have sized : (R.point e).toBytes.length = 32 := Word.length_toBytes _
  rw [Point.ofPayload_of_length (p := .bytes _) rfl sized, Point.toBytes, Word.ofBytes_toBytes,
    Point.ofWire, R.ofWire?_wire_point]

end Suite.Reading

end AmountProofs
