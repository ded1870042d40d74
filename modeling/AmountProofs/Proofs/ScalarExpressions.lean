import AmountProofs.Proofs.TranscriptReplay
import AmountProofs.Proofs.WireRoundTrip
import AmountProofs.Suite.Standard

/-!
Expressions over scalars.

An expression is built from scalars that were made of an integer, of an amount, of bytes or by a
transcript, with sums, differences, products, negatives and inverses. Scalars are compared, tested
for zero and inverted by the words that they store; that agrees with the residues they stand for,
since every way to make a scalar stores it reduced. So an expression over scalars has the value of
the same expression over the field of residues, and it has none exactly if that one inverts zero
(`Scalar.Expression.evaluate_refines`).
-/

namespace AmountProofs

namespace Scalar

/-! ## Reduced scalars and their residues -/

/-- A reduced scalar stores the least number of its residue. -/
theorem toNat_eq_val {s : Scalar} (canonical : s.isCanonical = true) : s.toNat = s.value.val := by
  rw [isCanonical_iff] at canonical
  rw [value, ZMod.val_natCast, Nat.mod_eq_of_lt canonical]

theorem beq_iff_value {s t : Scalar} (left : s.isCanonical = true) (right : t.isCanonical = true) :
    (s == t) = true ↔ s.value = t.value := by
  rw [beq_iff_eq]
  constructor
  · intro same
    rw [same]
  · exact eq_of_value_eq left right

/-- A reduced scalar is read back from its bytes. -/
theorem ofCanonical_toBytes {s : Scalar} (canonical : s.isCanonical = true) :
    ofCanonical (.bytes s.toBytes) = .ok (some s) := by
  rw [toBytes, ofCanonical_of_content rfl (Word.length_toBytes s.word), Word.ofBytes_toBytes,
    if_pos canonical]

/-- What is read as a reduced scalar is one, and it stands for the number that its bytes spell. -/
theorem value_of_ofCanonical {source : Payload} {s : Scalar} {b : Bytes}
    (found : ofCanonical source = .ok (some s)) (copied : source.toBytes = .ok b) :
    s.isCanonical = true ∧ s.value = Bytes.toNat b := by
  have size := Payload.size_of_toBytes copied
  by_cases sized : b.length = 32
  · simp only [ofCanonical, size, copied, sized, bind, Except.bind, ne_eq, not_true, if_false, pure,
      Except.pure, Except.ok.injEq] at found
    split at found
    · rename_i canonical
      cases found
      refine ⟨canonical, ?_⟩
      rw [value, toNat, Word.toNat_ofBytes sized]
    · cases found
  · simp only [ofCanonical, size, bind, Except.bind, ne_eq, sized, not_false_eq_true, if_true] at found
    cases found

/-- Sixty-four bytes are reduced to the residue of the number that they spell. -/
theorem ofWidePayload_eq_ok {source : Payload} {b : Bytes} (copied : source.toBytes = .ok b)
    (sized : b.length = 64) : ofWidePayload source = .ok (ofNat (Bytes.toNat b)) := by
  simp only [ofWidePayload, Payload.size_of_toBytes copied, copied, sized, bind, Except.bind, ne_eq,
    not_true, if_false]
  rfl

/-- Inversion is refused for residue zero and gives the inverse for any other. -/
theorem invert_eq_error_iff {s : Scalar} (canonical : s.isCanonical = true) :
    s.invert = .error .zeroInverse ↔ s.value = 0 := by
  rw [← isZero_iff_value canonical]
  constructor
  · intro refused
    by_contra nonzero
    rcases invert_eq_ok (Bool.eq_false_iff.2 nonzero) with ⟨t, inverted, -⟩
    rw [refused] at inverted
    cases inverted
  · intro zero
    rw [invert, if_pos zero]

/-! ## Expressions and what they denote -/

/-- The operations on two scalars. -/
inductive Operation
  | add
  | sub
  | mul
  deriving DecidableEq, Repr

namespace Operation

/-- An operation on stored scalars. -/
def run : Operation → Scalar → Scalar → Scalar
  | add, s, t => s + t
  | sub, s, t => s - t
  | mul, s, t => s * t

/-- The operation on residues. -/
def denote : Operation → Residue → Residue → Residue
  | add, x, y => x + y
  | sub, x, y => x - y
  | mul, x, y => x * y

theorem isCanonical_run (op : Operation) (s t : Scalar) : (op.run s t).isCanonical = true := by
  cases op with
  | add => exact isCanonical_add s t
  | sub => exact isCanonical_sub s t
  | mul => exact isCanonical_mul s t

theorem value_run (op : Operation) (s t : Scalar) :
    (op.run s t).value = op.denote s.value t.value := by
  cases op with
  | add => exact value_add s t
  | sub => exact value_sub s t
  | mul => exact value_mul s t

end Operation

/-- An expression over scalars. Each leaf is a way to make a scalar, with what it is made of. -/
inductive Expression (S : Suite)
  | integer (n : Int)
  | amount (n : Int) (inRange : 0 ≤ n ∧ n < amountBound)
  | canonical (source : Payload) (b : Bytes) (copied : source.toBytes = .ok b) (s : Scalar)
      (found : ofCanonical source = .ok (some s))
  | wide (source : Payload) (b : Bytes) (copied : source.toBytes = .ok b) (sized : b.length = 64)
  | challenge (t : Transcript S) (label : Payload) (l : Bytes) (owned : label.owned? = some l)
      (short : l.length ≤ Transcript.maxLabelSize)
  | binary (op : Operation) (x y : Expression S)
  | neg (x : Expression S)
  | invert (x : Expression S)

namespace Expression

variable {S : Suite}

/-- Evaluates an expression on stored scalars, operands from left to right. -/
def evaluate : Expression S → Except Failure Scalar
  | integer n => .ok (ofInt n)
  | amount n _ => ofAmount n
  | canonical _ _ _ s _ => .ok s
  | wide source _ _ _ => ofWidePayload source
  | challenge t label _ _ _ => ((Transcript.challengeScalar label).on t).1
  | binary op x y => do
    let s ← x.evaluate
    let t ← y.evaluate
    return op.run s t
  | neg x => do
    let s ← x.evaluate
    return -s
  | invert x => do
    let s ← x.evaluate
    s.invert

/-- The residue that an expression denotes; zero counts as the inverse of zero. -/
noncomputable def denote : Expression S → Residue
  | integer n => n
  | amount n _ => n
  | canonical _ b _ _ _ => Bytes.toNat b
  | wide _ b _ _ => Bytes.toNat b
  | challenge t _ l _ _ => Bytes.toNat (t.squeezed l 64).toList
  | binary op x y => op.denote x.denote y.denote
  | neg x => -x.denote
  | invert x => x.denote⁻¹

/-- No part of an expression inverts zero. -/
def Defined : Expression S → Prop
  | binary _ x y => x.Defined ∧ y.Defined
  | neg x => x.Defined
  | invert x => x.Defined ∧ x.denote ≠ 0
  | _ => True

/-- An expression with all that it is made of. -/
def parts : Expression S → List (Expression S)
  | binary op x y => binary op x y :: (x.parts ++ y.parts)
  | neg x => neg x :: x.parts
  | invert x => invert x :: x.parts
  | leaf => [leaf]

/-- A reduced scalar that stands for the residue that an expression denotes. -/
structure Stores (x : Expression S) (s : Scalar) : Prop where
  reduced : s.isCanonical = true
  value : s.value = x.denote

/-- An expression in which no zero is inverted is evaluated to the residue that it denotes. -/
theorem exists_evaluate_eq_ok {x : Expression S} (defined : x.Defined) :
    ∃ s, x.evaluate = .ok s ∧ x.Stores s := by
  induction x with
  | integer n => exact ⟨_, rfl, isCanonical_ofInt n, value_ofInt n⟩
  | amount n inRange =>
    exact ⟨_, ofAmount_eq_ok inRange.1 inRange.2, isCanonical_ofNat _, value_ofNat_toNat inRange.1⟩
  | canonical source b copied s found =>
    rcases value_of_ofCanonical found copied with ⟨reduced, value⟩
    exact ⟨s, rfl, reduced, value⟩
  | wide source b copied sized =>
    exact ⟨_, ofWidePayload_eq_ok copied sized, isCanonical_ofNat _, value_ofNat _⟩
  | challenge t label l owned short =>
    refine ⟨ofWide (t.squeezed l 64), ?_, isCanonical_ofWide _, value_ofNat _⟩
    rw [evaluate, Transcript.on_challengeScalar owned short]
  | binary op x y left right =>
    rcases left defined.1 with ⟨s, first, storedFirst⟩
    rcases right defined.2 with ⟨t, second, storedSecond⟩
    refine ⟨op.run s t, by rw [evaluate, first, second]; rfl, op.isCanonical_run s t, ?_⟩
    rw [op.value_run, storedFirst.value, storedSecond.value, denote]
  | neg x operand =>
    rcases operand defined with ⟨s, run, stored⟩
    refine ⟨-s, by rw [evaluate, run]; rfl, isCanonical_neg s, ?_⟩
    rw [value_neg, stored.value, denote]
  | invert x operand =>
    rcases operand defined.1 with ⟨s, run, stored⟩
    have nonzero : s.isZero = false := by
      rw [← Bool.not_eq_true, isZero_iff_value stored.reduced, stored.value]
      exact defined.2
    rcases invert_eq_ok nonzero with ⟨t, inverted, reduced, value⟩
    refine ⟨t, by rw [evaluate, run]; exact inverted, reduced, ?_⟩
    rw [value, stored.value, denote]

/-- An expression that inverts zero somewhere is refused for that. -/
theorem evaluate_eq_error {x : Expression S} (undefined : ¬x.Defined) :
    x.evaluate = .error .zeroInverse := by
  induction x with
  | integer | amount | canonical | wide | challenge => exact absurd trivial undefined
  | binary op x y left right =>
    by_cases first : x.Defined
    · rcases exists_evaluate_eq_ok first with ⟨s, run, -⟩
      rw [evaluate, run, right fun second => undefined ⟨first, second⟩]
      rfl
    · rw [evaluate, left first]
      rfl
  | neg x operand =>
    rw [evaluate, operand undefined]
    rfl
  | invert x operand =>
    by_cases defined : x.Defined
    · rcases exists_evaluate_eq_ok defined with ⟨s, run, stored⟩
      have zero : x.denote = 0 := by
        by_contra nonzero
        exact undefined ⟨defined, nonzero⟩
      rw [evaluate, run]
      exact (invert_eq_error_iff stored.reduced).2 (stored.value.trans zero)
    · rw [evaluate, operand defined]
      rfl

/-- Of an expression in which no zero is inverted, no part inverts zero. -/
theorem Defined.of_mem_parts {x part : Expression S} (defined : x.Defined)
    (member : part ∈ x.parts) : part.Defined := by
  induction x with
  | integer | amount | canonical | wide | challenge =>
    rw [List.mem_singleton.1 member]
    exact trivial
  | binary op x y left right =>
    rcases List.mem_cons.1 member with same | below
    · rw [same]
      exact defined
    · rcases List.mem_append.1 below with inside | inside
      · exact left defined.1 inside
      · exact right defined.2 inside
  | neg x operand =>
    rcases List.mem_cons.1 member with same | below
    · rw [same]
      exact defined
    · exact operand defined below
  | invert x operand =>
    rcases List.mem_cons.1 member with same | below
    · rw [same]
      exact defined
    · exact operand defined.1 below

/-- Evaluation refines the field of residues. An expression in which no zero is inverted, each of its
parts too, is evaluated to a scalar that is stored below the order and whose number is the residue
that the expression denotes. The scalar is tested as zero, compared with others and refused by
inversion exactly as its residue is, its product with its inverse is one, and it is read back from
its bytes. An expression in which zero is inverted is refused for that. -/
theorem evaluate_refines (x : Expression S) :
    (x.Defined →
      (∀ part ∈ x.parts, ∃ s, part.evaluate = .ok s ∧ s.toNat < order ∧
        s.toNat = part.denote.val) ∧
      ∃ s, x.evaluate = .ok s ∧ s.toNat < order ∧ s.toNat = x.denote.val ∧
        (s.isZero = true ↔ x.denote = 0) ∧
        (∀ (y : Expression S) (t : Scalar), y.evaluate = .ok t →
          ((s == t) = true ↔ x.denote = y.denote)) ∧
        ofCanonical (.bytes s.toBytes) = .ok (some s) ∧
        (s.invert = .error .zeroInverse ↔ x.denote = 0) ∧
        (x.denote ≠ 0 → ∃ t, s.invert = .ok t ∧ s * t = one)) ∧
    (¬x.Defined → x.evaluate = .error .zeroInverse) := by
  have stored (y : Expression S) (defined : y.Defined) :
      ∃ s, y.evaluate = .ok s ∧ s.toNat < order ∧ s.toNat = y.denote.val := by
    rcases exists_evaluate_eq_ok defined with ⟨s, run, stores⟩
    refine ⟨s, run, isCanonical_iff.1 stores.reduced, ?_⟩
    rw [toNat_eq_val stores.reduced, stores.value]
  refine ⟨fun defined => ⟨fun part member => stored part (defined.of_mem_parts member), ?_⟩,
    evaluate_eq_error⟩
  rcases exists_evaluate_eq_ok defined with ⟨s, run, reduced, value⟩
  refine ⟨s, run, isCanonical_iff.1 reduced, ?_, ?_, fun y t other => ?_,
    ofCanonical_toBytes reduced, ?_, fun nonzero => ?_⟩
  · rw [toNat_eq_val reduced, value]
  · rw [isZero_iff_value reduced, value]
  · -- What was evaluated at all is defined, so the other scalar is reduced as well.
    by_cases definedOther : y.Defined
    · rcases exists_evaluate_eq_ok definedOther with ⟨u, again, reducedOther, valueOther⟩
      rw [other] at again
      cases again
      rw [beq_iff_value reduced reducedOther, value, valueOther]
    · rw [evaluate_eq_error definedOther] at other
      cases other
  · rw [invert_eq_error_iff reduced, value]
  · have proper : s.isZero = false := by
      rw [← Bool.not_eq_true, isZero_iff_value reduced, value]
      exact nonzero
    rcases invert_eq_ok proper with ⟨t, inverted, -, inverse⟩
    refine ⟨t, inverted, eq_of_value_eq (isCanonical_mul s t) (isCanonical_ofNat 1) ?_⟩
    rw [value_mul, inverse, value_one, value]
    exact mul_inv_cancel₀ nonzero

/-- Minus three times its inverse is one. Sixty-four bytes that spell the order are zero, and what
inverts them is refused. -/
theorem evaluate_refines_of_order :
    let three : Expression Suite.standard := .integer (-3)
    let bytes := Bytes.ofNat 64 order
    let zero : Expression Suite.standard :=
      .wide (.bytes bytes) bytes rfl (Bytes.length_ofNat 64 order)
    (∃ s, (Expression.binary .mul three three.invert).evaluate = .ok s ∧ s.toNat = 1) ∧
      (Expression.binary .add three zero.invert).evaluate = .error .zeroInverse := by
  intro three bytes zero
  have nonzero : three.denote ≠ 0 := by
    change ((-3 : Int) : Residue) ≠ 0
    rw [Ne, ZMod.intCast_zmod_eq_zero_iff_dvd]
    decide
  have vanishes : zero.denote = 0 := by
    change (Bytes.toNat (Bytes.ofNat 64 order) : Residue) = 0
    have fits : order < 256 ^ 64 := by decide
    rw [Bytes.toNat_ofNat, Nat.mod_eq_of_lt fits, ZMod.natCast_self]
  constructor
  · rcases (evaluate_refines (.binary .mul three three.invert)).1 ⟨trivial, trivial, nonzero⟩ with
      ⟨-, s, run, -, value, -⟩
    have one : (Expression.binary .mul three three.invert).denote = 1 := mul_inv_cancel₀ nonzero
    exact ⟨s, run, by rw [value, one, ZMod.val_one]⟩
  · exact (evaluate_refines (.binary .add three zero.invert)).2 fun defined =>
      defined.2.2 vanishes

end Expression

end Scalar

end AmountProofs
