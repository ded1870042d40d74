import AmountProofs.Proofs.StandardReading
import AmountProofs.Proofs.WireRoundTrip

/-!
Which byte strings are proofs.

`Proof.WellFormed` says it chunk by chunk: the right length, points first, then reduced scalars. A
reader takes exactly these byte strings, and it keeps their bytes, so that a proof is written as it
was read and no two byte strings give the same proof (`Proof.ofPayload_outcome`). All others are
rejected as malformed. Nothing is assumed of the curve: it only says which words are valid.
-/

namespace AmountProofs

variable {S : Suite} {k : ProofKind}

/-! ## Failures to read -/

namespace Failure

/-- The failure of bytes that are not what they are read as, reported as an error of a kind. -/
def Misread (kind : ErrorKind) (e : Failure) : Prop :=
  ∃ reason details, e = .library ⟨kind, .deserialization, reason, details⟩

/-- A failure that shows an integer is another one exactly for integers with too many digits. -/
theorem showing_int (n : Int) (e : Failure) :
    showing (.int n) e = if Decimal.isShort n then e else .badValue .tooManyDigits := by
  rw [showing, Json.isShown]

theorem misread_malformed (reason : String) (details : Json) :
    (malformed reason details).Misread .deserialization := ⟨_, _, rfl⟩

/-- At the border of a scope for rejections, a failure to read becomes one. -/
theorem Misread.rewrap {f : ProofFamily} {e : Failure} (misread : e.Misread .deserialization) :
    (e.rewrap f).Misread (.rejection f) := by
  obtain ⟨reason, details, rfl⟩ := misread
  exact ⟨reason, details, rfl⟩

/-- What has become a rejection of a family remains one. -/
theorem Misread.rewrap_of_rejection {f : ProofFamily} {e : Failure}
    (misread : e.Misread (.rejection f)) : (e.rewrap f).Misread (.rejection f) := by
  obtain ⟨reason, details, rfl⟩ := misread
  refine ⟨reason, details, congrArg library (if_pos ?_)⟩
  simp [LibraryError.passes, ErrorKind.isRejectionOf]

/-- Inside a scope for rejections, a failure to read is one. -/
theorem misread_within {α : Type} {f : ProofFamily} {x : Except Failure α}
    (failed : ∃ e, x = .error e ∧ e.Misread .deserialization) :
    ∃ e, within f x = .error e ∧ e.Misread (.rejection f) := by
  obtain ⟨e, rfl, misread⟩ := failed
  exact ⟨_, rfl, misread.rewrap⟩

end Failure

/-- A reader that asks for the size first refuses byte strings of any other size. -/
theorem Payload.misread_of_size {α : Type} {data : Payload} {b : Bytes}
    (given : data.content? = some b) {n : Nat} (sized : b.length ≠ n) {message : Nat → String}
    {rest : Nat → Unit → Except Failure α} :
    ∃ e, (data.size >>= fun size =>
      if size ≠ n then throw (.malformed (message size) .null) >>= rest size
      else rest size ()) = .error e ∧ e.Misread .deserialization := by
  refine ⟨.malformed (message b.length) .null, ?_, Failure.misread_malformed _ _⟩
  rw [Payload.size_of_content given]
  exact if_pos sized

/-! ## Chunks by their positions -/

namespace Chunks

/-- The bytes of the chunk at a position. -/
def part (b : Bytes) (i : Nat) : Bytes := (b.drop (size * i)).take size

theorem chunk_eq (b : Bytes) (i : Nat) : chunk b i = Word.ofBytes (part b i) := rfl

theorem part_succ (b : Bytes) (i : Nat) : part b (i + 1) = part (b.drop size) i := by
  rw [part, part, List.drop_drop, Nat.mul_succ, Nat.add_comm]

theorem length_part {b : Bytes} {n i : Nat} (sized : b.length = size * n) (inside : i < n) :
    (part b i).length = size := by
  have room : size * i + size ≤ size * n := Nat.mul_le_mul_left size (Nat.succ_le_of_lt inside)
  rw [part, List.length_take, List.length_drop, sized]
  omega

theorem toBytes_chunk {b : Bytes} {n i : Nat} (sized : b.length = size * n) (inside : i < n) :
    Word.toBytes (chunk b i) = part b i :=
  Word.toBytes_ofBytes (length_part sized inside)

/-- A byte string of whole chunks is its chunks one after the other. -/
theorem concat_chunk {n : Nat} {b : Bytes} (sized : b.length = size * n) :
    concat (List.ofFn fun i : Fin n => chunk b i) = b := by
  induction n generalizing b with
  | zero => exact (List.eq_nil_of_length_eq_zero sized).symm
  | succ n ih =>
    have rest : (b.drop size).length = size * n := by
      rw [List.length_drop, sized, Nat.mul_succ, Nat.add_sub_cancel]
    have later (i : Fin n) : chunk b i.succ = chunk (b.drop size) i :=
      congrArg Word.ofBytes (part_succ b i)
    rw [List.ofFn_succ, concat_cons]
    simp only [later]
    rw [ih rest, Fin.val_zero, toBytes_chunk sized n.succ_pos]
    exact List.take_append_drop size b

/-- Thirty-two bytes of a byte string, in any shape, are a chunk. -/
theorem Field.chunk_of_content {p : Payload} {b : Bytes} (given : p.content? = some b)
    (sized : b.length = 32) : (Field.payload p).chunk = .ok b := by
  have measured : (Field.payload p).size = .ok Chunks.size := by
    cases p <;> cases given <;> exact congrArg Except.ok sized
  have copied : (Field.payload p).bytes = .ok b := by
    cases p <;> cases given <;> rfl
  rw [Field.chunk, measured]
  exact copied

theorem exactly_of_content {data : Payload} {b : Bytes} (given : data.content? = some b)
    {expected : Nat} (sized : b.length = expected) : exactly expected data = .ok b := by
  unfold exactly
  rw [given]
  exact if_pos (congrArg Nat.cast sized)

/-- A byte string of any other length is refused, with the length that was expected and its own; or
the length that was expected cannot be shown. -/
theorem exactly_of_content_ne {data : Payload} {b : Bytes} (given : data.content? = some b)
    {expected : Int} (unsized : (b.length : Int) ≠ expected) :
    exactly expected data =
      .error (.showing (.int expected) (.malformed s!"expected {expected} bytes, got {b.length}"
        (.record [("expected", .int expected), ("actual", .int b.length)]))) := by
  unfold exactly
  rw [given]
  exact if_neg unsized

theorem misread_of_exactly {data : Payload} {b : Bytes} (given : data.content? = some b)
    {expected : Nat} (sized : b.length ≠ expected) (short : Decimal.isShort expected) :
    ∃ e, exactly expected data = .error e ∧ e.Misread .deserialization := by
  have unsized : (b.length : Int) ≠ expected := fun same => sized (Int.ofNat.inj same)
  refine ⟨_, exactly_of_content_ne given unsized, ?_⟩
  rw [Failure.showing_int, if_pos short]
  exact Failure.misread_malformed _ _

/-- Bytes that stand for a point are taken as they are. -/
theorem pointBytes_of_isWritten {b : Bytes} (written : Point.IsWritten S b) :
    pointBytes S (.bytes b) = .ok b := by
  have sized := written.length_eq
  obtain ⟨p, found⟩ := (Point.exists_ofWire?_iff sized).2 written
  rw [pointBytes, Point.ofPayload_of_content rfl sized, Point.ofWire_eq_ok_iff.2 found]
  rfl

theorem misread_of_pointBytes {b : Bytes} (sized : b.length = 32) {e : Failure}
    (failed : pointBytes S (.bytes b) = .error e) : e.Misread .deserialization := by
  rw [pointBytes, Point.ofPayload_of_content rfl sized] at failed
  rcases found : (Point.ofWire (Word.ofBytes b) : Except Failure (Point S)) with refusal | p
  · rw [found] at failed
    cases failed
    rw [Point.eq_of_ofWire_eq_error found]
    exact Failure.misread_malformed _ _
  · rw [found] at failed
    cases failed

theorem isWritten_of_pointBytes {b c : Bytes} (sized : b.length = 32)
    (accepted : pointBytes S (.bytes b) = .ok c) : Point.IsWritten S b := by
  rw [pointBytes, Point.ofPayload_of_content rfl sized] at accepted
  rcases found : (Point.ofWire (Word.ofBytes b) : Except Failure (Point S)) with refusal | p
  · rw [found] at accepted
    cases accepted
  · exact (Point.exists_ofWire?_iff sized).1 ⟨p, Point.ofWire_eq_ok_iff.1 found⟩

theorem misread_of_scalar {s : Scalar} {e : Failure}
    (failed : scalar (.bytes (Word.toBytes s.word)) = .error e) : e.Misread .deserialization := by
  rw [scalar_toBytes_eq] at failed
  split at failed
  · cases failed
  · cases failed
    exact Failure.misread_malformed _ _

end Chunks

namespace Proof

/-! ## Well-formed byte strings -/

/-- A byte string that spells a proof of a kind: as many chunks as it has, those of the announced
points first, then the responses, each of them below the order. -/
structure WellFormed (S : Suite) (k : ProofKind) (b : Bytes) : Prop where
  sized : b.length = 32 * k.chunks
  points : ∀ i : Fin k.rows, Point.IsWritten S (Chunks.part b i)
  scalars : ∀ j : Fin k.witnesses, Bytes.toNat (Chunks.part b (k.rows + j)) < Scalar.order

theorem early_lt (i : Fin k.rows) : i.val < k.chunks := i.isLt.trans_le (Nat.le_add_right _ _)

theorem late_lt (j : Fin k.witnesses) : k.rows + j.val < k.chunks := Nat.add_lt_add_left j.isLt _

/-- The proof that the chunks of a byte string give. -/
def ofChunks (k : ProofKind) (b : Bytes) : Proof k where
  announcements i := .bytes (Chunks.part b i)
  responses j := ⟨Chunks.chunk b (k.rows + j)⟩

/-- The response in a chunk is reduced if its number is below the order. -/
theorem isCanonical_ofChunks_iff {b : Bytes} (sized : b.length = 32 * k.chunks)
    (j : Fin k.witnesses) :
    ((ofChunks k b).responses j).isCanonical = true ↔
      Bytes.toNat (Chunks.part b (k.rows + j)) < Scalar.order := by
  have stored : ((ofChunks k b).responses j).toNat =
      Bytes.toNat (Chunks.part b (k.rows + j)) :=
    Word.toNat_ofBytes (Chunks.length_part sized (late_lt j))
  rw [Scalar.isCanonical_iff, stored]

/-- A proof of the chunks of a byte string is written as this byte string. -/
theorem toBytes_ofChunks {b : Bytes} (sized : b.length = 32 * k.chunks) :
    (ofChunks k b).toBytes = .ok b := by
  have split := Chunks.concat_chunk sized
  rw [ProofKind.chunks, List.ofFn_add] at split
  rw [toBytes, fields, ← congrArg Except.ok split]
  refine Chunks.join_eq_ok (List.rel_append ?_ ?_)
  · refine Chunks.forall₂_ofFn fun i => Chunks.Field.chunk_of_content ?_ (Word.length_toBytes _)
    exact congrArg some (Chunks.toBytes_chunk sized (early_lt i)).symm
  · exact Chunks.forall₂_ofFn fun j => Chunks.Field.chunk_scalar _

theorem eq_of_same_ofChunks {b c : Bytes} (sized : b.length = 32 * k.chunks)
    (sized' : c.length = 32 * k.chunks) (same : (ofChunks k b).same (ofChunks k c) = true) :
    b = c := by
  rw [Proof.same, Bool.and_eq_true, List.all_eq_true, List.all_eq_true] at same
  have announced : (ofChunks k b).announcements = (ofChunks k c).announcements := funext fun i =>
    congrArg Payload.bytes (eq_of_beq (same.1 i (List.mem_finRange i)))
  have responded : (ofChunks k b).responses = (ofChunks k c).responses := funext fun j =>
    eq_of_beq (same.2 j (List.mem_finRange j))
  have equal : ofChunks k b = ofChunks k c := by
    rw [Proof.mk.injEq]
    exact ⟨announced, responded⟩
  have written := toBytes_ofChunks sized
  rw [equal, toBytes_ofChunks sized'] at written
  exact (Except.ok.inj written).symm

/-! ## Reading -/

/-- Of a byte string of the right length, the chunks are read one by one. -/
theorem ofPayload_of_length {data : Payload} {b : Bytes} (given : data.content? = some b)
    (sized : b.length = 32 * k.chunks) :
    ofPayload S k data = within k.family (do
      let announced ← Indexed.traverse fun i : Fin k.rows =>
        Chunks.pointBytes S (.bytes (Chunks.part b i))
      let responses ← Indexed.traverse fun j : Fin k.witnesses =>
        Chunks.scalar (.bytes (Word.toBytes (Chunks.chunk b (k.rows + j))))
      return ⟨fun i => .bytes (announced i), responses⟩) := by
  have taken : Chunks.exactly (Chunks.size * k.chunks) data = .ok b :=
    Chunks.exactly_of_content given sized
  have early (i : Fin k.rows) := Chunks.toBytes_chunk sized (early_lt i)
  simp only [ofPayload, taken, bind, Except.bind, early]

theorem ofPayload_of_wellFormed {data : Payload} {b : Bytes} (given : data.content? = some b)
    (formed : WellFormed S k b) : ofPayload S k data = .ok (ofChunks k b) := by
  have scalars : (Indexed.traverse fun j : Fin k.witnesses =>
      Chunks.scalar (.bytes (Word.toBytes (Chunks.chunk b (k.rows + j))))) =
        .ok (ofChunks k b).responses := by
    refine Indexed.traverse_eq_ok fun j => ?_
    exact Chunks.scalar_toBytes ((isCanonical_ofChunks_iff formed.sized j).2 (formed.scalars j))
  rw [ofPayload_of_length given formed.sized, scalars,
    Indexed.traverse_eq_ok fun i => Chunks.pointBytes_of_isWritten (formed.points i)]
  rfl

/-- Any other byte string is rejected as malformed. -/
theorem misread_of_not_wellFormed {data : Payload} {b : Bytes} (given : data.content? = some b)
    (unformed : ¬WellFormed S k b) :
    ∃ e, ofPayload S k data = .error e ∧ e.Misread (.rejection k.family) := by
  by_cases sized : b.length = 32 * k.chunks
  · have early (i : Fin k.rows) := Chunks.length_part sized (early_lt i)
    rw [ofPayload_of_length given sized]
    refine Failure.misread_within ?_
    rcases points : (Indexed.traverse fun i : Fin k.rows =>
        Chunks.pointBytes S (.bytes (Chunks.part b i))) with e | announced
    · exact ⟨e, rfl, Indexed.of_traverse_eq_error
        (fun i e failed => Chunks.misread_of_pointBytes (early i) failed) points⟩
    · -- All points are read, so it is a response that is not reduced.
      have written (i : Fin k.rows) : Point.IsWritten S (Chunks.part b i) :=
        Chunks.isWritten_of_pointBytes (early i) (Indexed.eq_ok_of_traverse_eq_ok points i)
      have unreduced : ∃ j, ((ofChunks k b).responses j).isCanonical ≠ true := by
        by_contra reduced
        push Not at reduced
        exact unformed ⟨sized, written, fun j => (isCanonical_ofChunks_iff sized j).1 (reduced j)⟩
      obtain ⟨j, unreduced⟩ := unreduced
      obtain ⟨e, failed, misread⟩ := Indexed.exists_traverse_eq_error
        (fun j e failed => Chunks.misread_of_scalar (s := (ofChunks k b).responses j) failed)
        ⟨j, _, (Chunks.scalar_toBytes_eq _).trans (if_neg unreduced)⟩
      refine ⟨e, ?_, misread⟩
      change (Indexed.traverse fun j => Chunks.scalar (.bytes (Word.toBytes
        ((ofChunks k b).responses j).word))) >>= _ = _
      rw [failed]
      rfl
  · refine Failure.misread_within ?_
    obtain ⟨e, failed, misread⟩ :=
      Chunks.misread_of_exactly given sized (by cases k <;> decide +kernel)
    have refused : Chunks.exactly (Chunks.size * k.chunks) data = .error e := failed
    refine ⟨e, ?_, misread⟩
    rw [refused]
    rfl

/-! ## Proofs that were read -/

/-- What is read are the chunks of a well-formed byte string. -/
theorem exists_wellFormed_of_ofPayload {data : Payload} {p : Proof k}
    (decoded : ofPayload S k data = .ok p) :
    ∃ b, data.content? = some b ∧ WellFormed S k b ∧ p = ofChunks k b := by
  cases given : data.content? with
  | none =>
    simp only [ofPayload, Chunks.exactly, given] at decoded
    cases decoded
  | some b =>
    by_cases formed : WellFormed S k b
    · rw [ofPayload_of_wellFormed given formed] at decoded
      exact ⟨b, rfl, formed, (Except.ok.inj decoded).symm⟩
    · obtain ⟨e, failed, -⟩ := misread_of_not_wellFormed given formed
      rw [failed] at decoded
      cases decoded

/-- The announced points of a proof are given byte strings of the right length that are read as
points. -/
structure Encodes (S : Suite) (p : Proof k) (encoded : Fin k.rows → Bytes) : Prop where
  announced : p.announcements = fun i => .bytes (encoded i)
  sized : ∀ i, (encoded i).length = 32
  found : ∀ i, ∃ q : Point S, Point.ofPayload (p.announcements i) = .ok q

theorem Encodes.owned {p : Proof k} {encoded : Fin k.rows → Bytes} (encodes : p.Encodes S encoded)
    (i : Fin k.rows) : (p.announcements i).owned? = some (encoded i) := by
  rw [encodes.announced]
  rfl

/-- The announced points of a proof that was read are bytes of points. -/
theorem exists_encodes_of_ofPayload {data : Payload} {p : Proof k}
    (decoded : ofPayload S k data = .ok p) : ∃ encoded, p.Encodes S encoded := by
  obtain ⟨b, -, formed, rfl⟩ := exists_wellFormed_of_ofPayload decoded
  have sized (i : Fin k.rows) := (formed.points i).length_eq
  refine ⟨_, rfl, sized, fun i => ?_⟩
  obtain ⟨q, found⟩ := (Point.exists_ofWire?_iff (sized i)).2 (formed.points i)
  exact ⟨q, (Point.ofPayload_of_content rfl (sized i)).trans (Point.ofWire_eq_ok_iff.2 found)⟩

/-- A proof is read from a byte string exactly if it is well formed, and then it holds its chunks and
is written as it was read; so no other byte string gives the same proof. Any other byte string is
rejected as malformed. -/
theorem ofPayload_outcome {data : Payload} {b : Bytes} (given : data.content? = some b) :
    ((∃ p, ofPayload S k data = .ok p) ↔ WellFormed S k b) ∧
    (∀ p, ofPayload S k data = .ok p →
      p.toBytes = .ok b ∧
      (p.announcements = fun i => .bytes (Chunks.part b i)) ∧
      (∀ j, (p.responses j).toBytes = Chunks.part b (k.rows + j)) ∧
      ∀ (other : Payload) (c : Bytes) (q : Proof k), other.content? = some c →
        ofPayload S k other = .ok q → p.same q = true → b = c) ∧
    (¬WellFormed S k b →
      ∃ e, ofPayload S k data = .error e ∧ e.Misread (.rejection k.family)) := by
  have read {other : Payload} {c : Bytes} {q : Proof k} (given : other.content? = some c)
      (decoded : ofPayload S k other = .ok q) : WellFormed S k c ∧ q = ofChunks k c := by
    obtain ⟨c', given', found⟩ := exists_wellFormed_of_ofPayload decoded
    rw [given] at given'
    cases given'
    exact found
  refine ⟨⟨?_, fun formed => ⟨_, ofPayload_of_wellFormed given formed⟩⟩, ?_,
    misread_of_not_wellFormed given⟩
  · rintro ⟨p, decoded⟩
    exact (read given decoded).1
  · intro p decoded
    obtain ⟨formed, rfl⟩ := read given decoded
    refine ⟨toBytes_ofChunks formed.sized, rfl, fun j => ?_, fun other c q given' decoded' same => ?_⟩
    · exact Chunks.toBytes_chunk formed.sized (late_lt j)
    · obtain ⟨formed', rfl⟩ := read given' decoded'
      exact eq_of_same_ofChunks formed.sized formed'.sized same

/-- The neutral element as it is written, a word for the second point, and a response. -/
def writtenParts (second : Word) (response : Nat) : Bytes :=
  List.replicate 32 0 ++ (Word.toBytes second ++ Bytes.ofNat 32 response)

/-- The greatest response is read, in a view of the bytes too. The next greater one is refused, and
so is the word that stores the neutral element in place of the one that it is written as. -/
theorem ofPayload_outcome_of_writtenParts :
    let greatest := writtenParts Suite.standard.base (Scalar.order - 1)
    (∃ p, ofPayload Suite.standard .zeroCiphertext (.view greatest) = .ok p ∧
      p.toBytes = .ok greatest) ∧
    (∃ e, ofPayload Suite.standard .zeroCiphertext
      (.bytes (writtenParts Suite.standard.base Scalar.order)) = .error e ∧
        e.Misread (.rejection .zeroCiphertext)) ∧
    ∃ e, ofPayload Suite.standard .zeroCiphertext
      (.bytes (writtenParts Suite.neutralWord (Scalar.order - 1))) = .error e ∧
        e.Misread (.rejection .zeroCiphertext) := by
  intro greatest
  refine ⟨?_, ?_, ?_⟩
  · have formed : WellFormed Suite.standard .zeroCiphertext greatest := by
      refine ⟨by decide +kernel, fun i => ?_, fun j => ?_⟩
      · fin_cases i
        · exact .inl (by decide +kernel)
        · exact .inr ⟨by decide +kernel, by decide +kernel⟩
      · fin_cases j
        decide +kernel
    have given : (Payload.view greatest).content? = some greatest := rfl
    obtain ⟨read, written, -⟩ :=
      ofPayload_outcome (S := Suite.standard) (k := .zeroCiphertext) given
    obtain ⟨p, decoded⟩ := read.2 formed
    exact ⟨p, decoded, (written p decoded).1⟩
  · refine (ofPayload_outcome rfl).2.2 fun formed => ?_
    have reduced := formed.scalars 0
    revert reduced
    decide +kernel
  · refine (ofPayload_outcome rfl).2.2 fun formed => ?_
    rcases formed.points 1 with zero | ⟨-, valid⟩
    · revert zero
      decide +kernel
    · revert valid
      decide +kernel

end Proof

end AmountProofs
