import AmountProofs.Bundle
import AmountProofs.Proofs.AttemptRuns
import AmountProofs.Proofs.Equations

/-!
What is written is read back.

Statements and proofs are written as words one after the other, and a reader takes the words out by
their positions (`Chunks.chunk_concat`). Everything made of points of the group and reduced scalars
comes back as it was, the neutral element included, whose written word no other point has.
-/

namespace AmountProofs

variable {S : Suite} {E : Type} [AddCommGroup E] [Module Residue E] {k : ProofKind}

/-- Thirty-two bytes are read as the scalar that they store, if it is reduced. -/
theorem Scalar.ofCanonical_of_content {p : Payload} {b : Bytes} (given : p.content? = some b)
    (sized : b.length = 32) :
    ofCanonical p =
      .ok (if isCanonical ⟨Word.ofBytes b⟩ then some ⟨Word.ofBytes b⟩ else none) := by
  simp only [ofCanonical, Payload.size_of_content given, Payload.toBytes_of_content given, sized,
    bind, Except.bind, pure, Except.pure, ne_eq, not_true, if_false]

/-! ## Words one after the other -/

namespace Chunks

/-- The bytes of words one after the other. -/
def concat (words : List Word) : Bytes := words.flatMap Word.toBytes

@[simp] theorem concat_nil : concat [] = [] := rfl

@[simp] theorem concat_cons (w : Word) (rest : List Word) :
    concat (w :: rest) = Word.toBytes w ++ concat rest := rfl

@[simp] theorem length_concat (words : List Word) : (concat words).length = size * words.length := by
  induction words with
  | nil => rfl
  | cons w rest ih =>
    rw [concat_cons, List.length_append, Word.length_toBytes, ih, List.length_cons, Nat.mul_succ,
      Nat.add_comm]
    rfl

/-- A word is found at its position. -/
theorem chunk_concat {words : List Word} {i : Nat} (inside : i < words.length) :
    chunk (concat words) i = words[i] := by
  induction words generalizing i with
  | nil => exact absurd inside (Nat.not_lt_zero i)
  | cons w rest ih =>
    have sized : (Word.toBytes w).length = size := Word.length_toBytes w
    cases i with
    | zero =>
      rw [chunk, concat_cons, Nat.mul_zero, List.drop_zero, List.take_left' sized,
        Word.ofBytes_toBytes]
      rfl
    | succ i =>
      have skipped : (concat (w :: rest)).drop (size * (i + 1)) = (concat rest).drop (size * i) := by
        rw [concat_cons, Nat.mul_succ, Nat.add_comm, ← List.drop_drop, List.drop_left' sized]
      rw [chunk, skipped]
      exact ih (Nat.lt_of_succ_lt_succ inside)

/-- Of two families of words one after the other, a word of the first is found at its index. -/
theorem chunk_concat_left {m : Nat} (first : Fin m → Word) (rest : List Word) (i : Fin m) :
    chunk (concat (List.ofFn first ++ rest)) i = first i := by
  have early : i.val < (List.ofFn first).length := by
    rw [List.length_ofFn]
    exact i.isLt
  have inside : i.val < (List.ofFn first ++ rest).length := by
    rw [List.length_append]
    exact early.trans_le (Nat.le_add_right _ _)
  rw [chunk_concat inside]
  exact (List.getElem_append_left early).trans (List.getElem_ofFn _)

/-- A word of the second family is found behind all of the first. -/
theorem chunk_concat_right {m n : Nat} (first : Fin m → Word) (second : Fin n → Word) (j : Fin n) :
    chunk (concat (List.ofFn first ++ List.ofFn second)) (m + j) = second j := by
  have late : (List.ofFn first).length ≤ m + j.val := by
    rw [List.length_ofFn]
    exact Nat.le_add_right _ _
  have inside : m + j.val < (List.ofFn first ++ List.ofFn second).length := by
    rw [List.length_append, List.length_ofFn, List.length_ofFn]
    exact Nat.add_lt_add_left j.isLt m
  rw [chunk_concat inside]
  refine (List.getElem_append_right late).trans ?_
  simp only [List.length_ofFn, Nat.add_sub_cancel_left, List.getElem_ofFn, Fin.eta]

/-- Reads the chunks of a byte string as points. -/
def readPoints (S : Suite) (n : Nat) (b : Bytes) : Except Failure (Fin n → Point S) :=
  Indexed.traverse fun i : Fin n => Point.ofWire (chunk b i)

/-- Elements that are written one after the other are read back. -/
theorem readPoints_concat {n : Nat} (apart : S.Separates) {p : Fin n → Point S}
    (elements : ∀ i, (p i).IsElement) :
    readPoints S n (concat (List.ofFn fun i => (p i).wire)) = .ok p := by
  refine Indexed.traverse_eq_ok fun i => Point.ofWire_eq_ok_iff.2 ?_
  have stored := chunk_concat_left (fun i => (p i).wire) [] i
  rw [List.append_nil] at stored
  rw [stored]
  exact Point.ofWire?_wire apart (elements i)

/-- Fields whose chunks are words are joined to these words. -/
theorem join_eq_ok {fields : List Field} {words : List Word}
    (chunks : List.Forall₂ (fun f w => f.chunk = .ok (Word.toBytes w)) fields words) :
    join fields = .ok (concat words) := by
  induction chunks with
  | nil => rfl
  | cons head _ ih =>
    rw [join, head, ih]
    rfl

theorem forall₂_ofFn {n : Nat} {f : Fin n → Field} {w : Fin n → Word}
    (chunks : ∀ i, (f i).chunk = .ok (Word.toBytes (w i))) :
    List.Forall₂ (fun f w => f.chunk = .ok (Word.toBytes w)) (List.ofFn f) (List.ofFn w) := by
  rw [List.ofFn_eq_map, List.ofFn_eq_map, List.forall₂_map_left_iff, List.forall₂_map_right_iff,
    List.forall₂_same]
  exact fun i _ => chunks i

theorem Field.chunk_scalar (s : Scalar) : (Field.scalar s).chunk = .ok (Word.toBytes s.word) := rfl

theorem Field.chunk_bytes (w : Word) :
    (Field.payload (.bytes (Word.toBytes w))).chunk = .ok (Word.toBytes w) := by
  have sized : (Field.payload (.bytes (Word.toBytes w))).size = .ok Chunks.size :=
    congrArg Except.ok (Word.length_toBytes w)
  rw [Field.chunk, sized]
  rfl

/-- A scalar is read from its bytes exactly if it is reduced. -/
theorem scalar_toBytes_eq (s : Scalar) :
    scalar (.bytes (Word.toBytes s.word)) =
      if s.isCanonical then .ok s
      else .error (.malformed "non-canonical scalar encoding" .null) := by
  rw [scalar, Scalar.ofCanonical_of_content rfl (Word.length_toBytes s.word), Word.ofBytes_toBytes]
  cases s.isCanonical <;> rfl

theorem scalar_toBytes {s : Scalar} (canonical : s.isCanonical = true) :
    scalar (.bytes (Word.toBytes s.word)) = .ok s := by
  rw [scalar_toBytes_eq, if_pos canonical]

/-- The bytes of a point of the group are accepted as those of a point. -/
theorem pointBytes_toBytes (R : S.Reading E) (e : E) :
    pointBytes S (.bytes (R.point e).toBytes) = .ok (R.point e).toBytes := by
  rw [pointBytes, R.ofPayload_toBytes_point]
  rfl

end Chunks

/-! ## Statements -/

namespace Statement

/-- The words that a statement is written as. -/
def words (statement : Statement S k) : List Word :=
  List.ofFn fun i => (statement.pointAt i).wire

theorem length_words (statement : Statement S k) : statement.words.length = k.points :=
  List.length_ofFn

theorem toBytes_eq_concat (statement : Statement S k) :
    statement.toBytes = Chunks.concat statement.words := by
  cases statement with
  | zeroCiphertext key ciphertext =>
    simp [toBytes, parts, words, pointAt, PublicKey.toBytes, Ciphertext.toBytes,
      Commitment.toBytes, Handle.toBytes, Point.toBytes, List.ofFn_succ]
  | commitmentEquality key ciphertext commitment =>
    simp [toBytes, parts, words, pointAt, PublicKey.toBytes, Ciphertext.toBytes,
      Commitment.toBytes, Handle.toBytes, Point.toBytes, List.ofFn_succ]
  | ciphertextEquality firstKey secondKey first second =>
    simp [toBytes, parts, words, pointAt, PublicKey.toBytes, Ciphertext.toBytes,
      Commitment.toBytes, Handle.toBytes, Point.toBytes, List.ofFn_succ]

theorem ofPoints_pointAt (statement : Statement S k) : ofPoints statement.pointAt = statement := by
  cases statement <;> rfl

/-- Of a byte string of the right length, the chunks are read as the points. -/
theorem ofPayload_of_length {data : Payload} {b : Bytes} (given : data.content? = some b)
    (sized : b.length = 32 * k.points) :
    ofPayload k data = Chunks.readPoints S k.points b >>= fun p => .ok (ofPoints p) := by
  simp only [ofPayload, Payload.size_of_content given, Payload.toBytes_of_content given, sized,
    bind, Except.bind, ne_eq, not_true, if_false]
  rfl

theorem length_toBytes (statement : Statement S k) : statement.toBytes.length = 32 * k.points := by
  rw [toBytes_eq_concat, Chunks.length_concat, length_words]
  rfl

/-- A statement of points of the group is read back. -/
theorem ofPayload_toBytes {R : S.Reading E} {statement : Statement S k}
    (covered : statement.Covered R) : ofPayload k (.bytes statement.toBytes) = .ok statement := by
  have elements (i : Fin k.points) : (statement.pointAt i).IsElement :=
    R.mem_points_iff.1 (covered i)
  rw [ofPayload_of_length rfl statement.length_toBytes, toBytes_eq_concat, words,
    Chunks.readPoints_concat R.separates elements]
  exact congrArg Except.ok (ofPoints_pointAt statement)

end Statement

/-! ## Proofs -/

namespace Proof

/-- The words that a proof of announced points is written as. -/
def words (announced : Fin k.rows → Point S) (z : Fin k.witnesses → Scalar) : List Word :=
  List.ofFn (fun i => (announced i).wire) ++ List.ofFn fun j => (z j).word

theorem length_words (announced : Fin k.rows → Point S) (z : Fin k.witnesses → Scalar) :
    (words announced z).length = k.chunks := by
  rw [words, List.length_append, List.length_ofFn, List.length_ofFn, ProofKind.chunks]

theorem length_concat_words (announced : Fin k.rows → Point S) (z : Fin k.witnesses → Scalar) :
    (Chunks.concat (words announced z)).length = 32 * k.chunks := by
  rw [Chunks.length_concat, length_words]
  rfl

theorem chunk_announced (announced : Fin k.rows → Point S) (z : Fin k.witnesses → Scalar)
    (i : Fin k.rows) :
    Chunks.chunk (Chunks.concat (words announced z)) i = (announced i).wire :=
  Chunks.chunk_concat_left (fun i => (announced i).wire) _ i

theorem chunk_response (announced : Fin k.rows → Point S) (z : Fin k.witnesses → Scalar)
    (j : Fin k.witnesses) :
    Chunks.chunk (Chunks.concat (words announced z)) (k.rows + j) = (z j).word :=
  Chunks.chunk_concat_right (fun i => (announced i).wire) (fun j => (z j).word) j

theorem toBytes_eq_ok (announced : Fin k.rows → Point S) (z : Fin k.witnesses → Scalar) :
    toBytes ⟨fun i => .bytes (announced i).toBytes, z⟩ =
      .ok (Chunks.concat (words announced z)) := by
  refine Chunks.join_eq_ok (List.rel_append ?_ ?_)
  · exact Chunks.forall₂_ofFn fun i => Chunks.Field.chunk_bytes (announced i).wire
  · exact Chunks.forall₂_ofFn fun j => Chunks.Field.chunk_scalar (z j)

/-- Of a proof of points of the group, the reader still has to check the responses. -/
theorem ofPayload_concat_eq {R : S.Reading E} (announced : Fin k.rows → E)
    (z : Fin k.witnesses → Scalar) :
    ofPayload S k (.bytes (Chunks.concat (words (fun i => R.point (announced i)) z))) =
      within k.family ((Indexed.traverse fun j => Chunks.scalar (.bytes (Word.toBytes (z j).word)))
        >>= fun z => .ok ⟨fun i => .bytes (R.point (announced i)).toBytes, z⟩) := by
  set b := Chunks.concat (words (fun i => R.point (announced i)) z) with def_b
  have sized : Chunks.exactly (Chunks.size * k.chunks) (.bytes b) = .ok b := by
    rw [Chunks.exactly]
    exact if_pos (by rw [def_b, Chunks.length_concat, length_words]; push_cast; rfl)
  have points : (Indexed.traverse fun i : Fin k.rows =>
      Chunks.pointBytes S (.bytes (Word.toBytes (Chunks.chunk b i)))) =
        .ok fun i => (R.point (announced i)).toBytes := by
    refine Indexed.traverse_eq_ok fun i => ?_
    rw [def_b, chunk_announced]
    exact Chunks.pointBytes_toBytes R (announced i)
  simp only [ofPayload, sized, points, bind, Except.bind, pure, Except.pure]
  simp only [def_b, chunk_response]

/-- A proof of points of the group and reduced responses is read back. -/
theorem ofPayload_concat {R : S.Reading E} (announced : Fin k.rows → E)
    {z : Fin k.witnesses → Scalar} (canonical : ∀ j, (z j).isCanonical = true) :
    ofPayload S k (.bytes (Chunks.concat (words (fun i => R.point (announced i)) z))) =
      .ok ⟨fun i => .bytes (R.point (announced i)).toBytes, z⟩ := by
  rw [ofPayload_concat_eq,
    Indexed.traverse_eq_ok fun j => Chunks.scalar_toBytes (canonical j)]
  rfl

end Proof

/-! ## Bundles -/

namespace Bundle

/-- Of a byte string of the right length, both parts are read. -/
theorem ofPayload_of_length {data : Payload} {b : Bytes} (given : data.content? = some b)
    (sized : b.length = 32 * k.points + 32 * k.chunks) :
    (ofPayload k data : Except Failure (Bundle S k)) = within k.family (do
      let statement ← Statement.ofPayload k (.bytes (b.take (32 * k.points)))
      let proof ← Proof.ofPayload S k (.bytes (b.drop (32 * k.points)))
      return ⟨statement, proof⟩) := by
  simp only [ofPayload, Payload.size_of_content given, Payload.toBytes_of_content given, sized,
    bind, Except.bind, ne_eq, not_true, if_false]

/-- What statement and proof are read back from, one behind the other, is read as their bundle. -/
theorem ofPayload_append {statement : Statement S k} {b : Bytes} {p : Proof k}
    (statementRead : Statement.ofPayload k (.bytes statement.toBytes) = .ok statement)
    (sized : b.length = 32 * k.chunks) (proofRead : Proof.ofPayload S k (.bytes b) = .ok p) :
    ofPayload k (.bytes (statement.toBytes ++ b)) = .ok ⟨statement, p⟩ := by
  have first := statement.length_toBytes
  rw [ofPayload_of_length rfl (by rw [List.length_append, first, sized]), List.take_left' first,
    List.drop_left' first, statementRead, proofRead]
  rfl

/-- A bundle of points of the group and reduced responses is read back. -/
theorem ofPayload_toBytes {R : S.Reading E} {statement : Statement S k}
    (covered : statement.Covered R) (announced : Fin k.rows → E) {z : Fin k.witnesses → Scalar}
    (canonical : ∀ j, (z j).isCanonical = true) :
    let b : Bundle S k := ⟨statement, ⟨fun i => .bytes (R.point (announced i)).toBytes, z⟩⟩
    ∃ bytes, b.toBytes = .ok bytes ∧ ofPayload k (.bytes bytes) = .ok b := by
  intro b
  have sized := Proof.length_concat_words (fun i => R.point (announced i)) z
  refine ⟨_, ?_, ofPayload_append (Statement.ofPayload_toBytes covered) sized
    (Proof.ofPayload_concat announced canonical)⟩
  rw [toBytes, Proof.toBytes_eq_ok]
  rfl

end Bundle

end AmountProofs
