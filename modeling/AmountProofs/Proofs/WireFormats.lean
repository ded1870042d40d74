import AmountProofs.Proofs.ProofEncoding
import AmountProofs.Wire

/-!
Every wire format is canonical.

`Wire.Canonical` says what is expected of a reader and a writer: certain byte strings are read, each
is written again as it was read, all others are malformed, and what is made of good parts comes back.
It is proved once for all values that are made of a number of points (`PointLayout.canonical`), and
for scalars, proofs and bundles; `Wire.Format.canonical` collects this for all formats.
-/

namespace AmountProofs

open scoped ProofKind

variable {S : Suite} {k : ProofKind}

/-! ## Points and scalars in byte strings -/

namespace Chunks

/-- A byte string of a number of chunks that all stand for points. -/
structure ArePoints (S : Suite) (n : Nat) (b : Bytes) : Prop where
  sized : b.length = 32 * n
  points : ∀ i : Fin n, Point.IsWritten S (part b i)

/-- A byte string of one chunk whose number is below the order. -/
structure IsScalar (b : Bytes) : Prop where
  sized : b.length = 32
  reduced : Bytes.toNat b < Scalar.order

/-- Chunks that stand for points are read as elements, which are written as they were read. -/
theorem exists_readPoints {n : Nat} {b : Bytes} (apart : S.Separates) (points : ArePoints S n b) :
    ∃ p, readPoints S n b = .ok p ∧ (∀ i, (p i).IsElement) ∧
      concat (List.ofFn fun i => (p i).wire) = b := by
  have found (i : Fin n) : ∃ p : Point S, Point.ofWire? (chunk b i) = some p :=
    (Point.exists_ofWire?_iff (length_part points.sized i.isLt)).2 (points.points i)
  choose p found using found
  refine ⟨p, Indexed.traverse_eq_ok fun i => Point.ofWire_eq_ok_iff.2 (found i),
    fun i => Point.isElement_of_ofWire? (found i), ?_⟩
  simp only [Point.wire_of_ofWire? apart (found _)]
  exact concat_chunk points.sized

/-- If one of them does not stand for a point, the byte string is malformed. -/
theorem misread_readPoints {n : Nat} {b : Bytes} (sized : b.length = 32 * n)
    (unwritten : ¬ArePoints S n b) :
    ∃ e, readPoints S n b = .error e ∧ e.Misread .deserialization := by
  refine Indexed.exists_traverse_eq_error (fun i e failed => ?_) ?_
  · rw [Point.eq_of_ofWire_eq_error failed]
    exact Failure.misread_malformed _ _
  · by_contra read
    push Not at read
    refine unwritten ⟨sized, fun i => (Point.exists_ofWire?_iff (length_part sized i.isLt)).1 ?_⟩
    rcases outcome : (Point.ofWire (chunk b i) : Except Failure (Point S)) with e | p
    · exact absurd outcome (read i e)
    · exact ⟨p, Point.ofWire_eq_ok_iff.1 outcome⟩

end Chunks

namespace Wire

/-! ## Readers and writers -/

/-- A reader takes exactly the accepted byte strings, gives sound values for them and reports all
others as malformed, with an error of one kind; what it gives is written as it was read, and a sound
value that is written is read back as the same one. -/
structure Canonical {V : Type} (read : Payload → Except Failure V)
    (write : V → Except Failure Bytes) (kind : ErrorKind) (accepts : Bytes → Prop)
    (sound : V → Prop) (same : V → V → Prop) : Prop where
  of_accepts {data : Payload} {b : Bytes} : data.content? = some b → accepts b →
    ∃ v, read data = .ok v ∧ write v = .ok b ∧ sound v
  misread {data : Payload} {b : Bytes} : data.content? = some b → ¬accepts b →
    ∃ e, read data = .error e ∧ e.Misread kind
  of_sound {v : V} : sound v → ∃ b w, write v = .ok b ∧ read (.bytes b) = .ok w ∧ same v w

/-- What a canonical reader gives was accepted, is sound and is written as it was read. -/
theorem Canonical.of_read {V : Type} {read : Payload → Except Failure V}
    {write : V → Except Failure Bytes} {kind : ErrorKind} {accepts : Bytes → Prop}
    {sound : V → Prop} {same : V → V → Prop}
    (canonical : Canonical read write kind accepts sound same) {data : Payload} {b : Bytes}
    (given : data.content? = some b) {v : V} (decoded : read data = .ok v) :
    accepts b ∧ write v = .ok b ∧ sound v := by
  by_cases accepted : accepts b
  · obtain ⟨w, decoded', written, good⟩ := canonical.of_accepts given accepted
    rw [decoded] at decoded'
    cases decoded'
    exact ⟨accepted, written, good⟩
  · obtain ⟨e, failed, -⟩ := canonical.misread given accepted
    rw [decoded] at failed
    cases failed

/-! ## Values made of points -/

/-- How values are made of a number of points, which are written one after the other. -/
structure PointLayout (S : Suite) (n : Nat) {V : Type} (read : Payload → Except Failure V)
    (write : V → Bytes) where
  pointAt : V → Fin n → Point S
  ofPoints : (Fin n → Point S) → V
  ofPoints_pointAt (v : V) : ofPoints (pointAt v) = v
  pointAt_ofPoints (p : Fin n → Point S) : pointAt (ofPoints p) = p
  write_eq (v : V) : write v = Chunks.concat (List.ofFn fun i => (pointAt v i).wire)
  read_of_length {data : Payload} {b : Bytes} : data.content? = some b → b.length = 32 * n →
    read data = Chunks.readPoints S n b >>= fun p => .ok (ofPoints p)
  misread_of_length {data : Payload} {b : Bytes} : data.content? = some b → b.length ≠ 32 * n →
    ∃ e, read data = .error e ∧ e.Misread .deserialization

theorem PointLayout.canonical {n : Nat} {V : Type} {read : Payload → Except Failure V}
    {write : V → Bytes} (layout : PointLayout S n read write) (apart : S.Separates)
    {sound : V → Prop} (elements : ∀ v, sound v ↔ ∀ i, (layout.pointAt v i).IsElement) :
    Canonical read (fun v => .ok (write v)) .deserialization (Chunks.ArePoints S n) sound Eq where
  of_accepts {data b} given points := by
    obtain ⟨p, decoded, good, written⟩ := Chunks.exists_readPoints apart points
    refine ⟨layout.ofPoints p, ?_, ?_, ?_⟩
    · rw [layout.read_of_length given points.sized, decoded]
      rfl
    · rw [layout.write_eq, layout.pointAt_ofPoints, written]
    · rwa [elements, layout.pointAt_ofPoints]
  misread {data b} given unwritten := by
    by_cases sized : b.length = 32 * n
    · obtain ⟨e, failed, misread⟩ := Chunks.misread_readPoints sized unwritten
      refine ⟨e, ?_, misread⟩
      rw [layout.read_of_length given sized, failed]
      rfl
    · exact layout.misread_of_length given sized
  of_sound {v} good := by
    have sized : (write v).length = 32 * n := by
      rw [layout.write_eq, Chunks.length_concat, List.length_ofFn]
      rfl
    refine ⟨write v, v, rfl, ?_, rfl⟩
    rw [layout.read_of_length rfl sized, layout.write_eq,
      Chunks.readPoints_concat apart ((elements v).1 good)]
    exact congrArg Except.ok (layout.ofPoints_pointAt v)

end Wire

theorem Statement.pointAt_ofPoints (p : Fin k.points → Point S) : (ofPoints p).pointAt = p := by
  cases k <;> exact funext fun i => by fin_cases i <;> rfl

namespace Point

/-- Thirty-two bytes are read under any name as the word that they spell. -/
theorem ofNamed_of_content (role : String) {p : Payload} {b : Bytes}
    (given : p.content? = some b) (sized : b.length = 32) :
    (ofNamed role p : Except Failure (Point S)) = ofWire (Word.ofBytes b) := by
  rw [ofNamed, Payload.size_of_content given, sized]
  exact ofPayload_of_content given sized

end Point

namespace Wire

/-- The layout of a value that is a point under a name. -/
def PointLayout.single {V : Type} (role : String) (make : Point S → V) (point : V → Point S)
    (make_point : ∀ v, make (point v) = v) (point_make : ∀ p, point (make p) = p) :
    PointLayout S 1 (fun data => Point.ofNamed role data >>= fun p => .ok (make p))
      (fun v => (point v).toBytes) where
  pointAt v _ := point v
  ofPoints p := make (p 0)
  ofPoints_pointAt := make_point
  pointAt_ofPoints p := funext fun i => by rw [point_make, Subsingleton.elim i 0]
  write_eq v := (List.append_nil _).symm
  read_of_length {data b} given sized := by
    have whole : Chunks.part b 0 = b := List.take_of_length_le sized.le
    rw [Point.ofNamed_of_content role given sized, Chunks.readPoints, Indexed.traverse, Fin.val_zero,
      Chunks.chunk_eq, whole]
    cases (Point.ofWire (Word.ofBytes b) : Except Failure (Point S)) <;> rfl
  misread_of_length {data b} given sized := by
    obtain ⟨e, failed, misread⟩ : ∃ e, (Point.ofNamed role data : Except Failure (Point S)) =
      .error e ∧ e.Misread .deserialization := Payload.misread_of_size given sized
    exact ⟨e, by rw [failed]; rfl, misread⟩

/-- A value that is a point under a name. -/
theorem Canonical.point {V : Type} (apart : S.Separates) (role : String) (make : Point S → V)
    (point : V → Point S) (make_point : ∀ v, make (point v) = v)
    (point_make : ∀ p, point (make p) = p) :
    Canonical (fun data => Point.ofNamed role data >>= fun p => .ok (make p))
      (fun v => .ok (point v).toBytes) .deserialization (Chunks.ArePoints S 1)
      (fun v => (point v).IsElement) Eq :=
  (PointLayout.single role make point make_point point_make).canonical apart fun _ =>
    ⟨fun element _ => element, fun elements => elements 0⟩

/-- The layout of a ciphertext: its two halves are sliced off and read under their names. -/
def PointLayout.ciphertext :
    PointLayout S 2 (Ciphertext.ofPayload (S := S)) Ciphertext.toBytes where
  pointAt c := ![c.commitment.point, c.handle.point]
  ofPoints p := ⟨⟨p 0⟩, ⟨p 1⟩⟩
  ofPoints_pointAt _ := rfl
  pointAt_ofPoints p := funext fun i => by fin_cases i <;> rfl
  write_eq c := by
    simp [Ciphertext.toBytes, Commitment.toBytes, Handle.toBytes, Point.toBytes, List.ofFn_succ]
  read_of_length {data b} given sized := by
    have first : (b.take 32).drop 0 = Chunks.part b 0 := rfl
    have second : (b.take 64).drop 32 = Chunks.part b 1 := List.drop_take
    have length_first : (Chunks.part b 0).length = 32 := Chunks.length_part sized Nat.two_pos
    have length_second : (Chunks.part b 1).length = 32 := Chunks.length_part sized Nat.one_lt_two
    have given_first := first ▸ Payload.content?_slice given 0 32
    have given_second := second ▸ Payload.content?_slice given 32 64
    have read_first :=
      Point.ofNamed_of_content (S := S) "commitment" given_first length_first
    have read_second :=
      Point.ofNamed_of_content (S := S) "handle" given_second length_second
    simp only [Ciphertext.ofPayload, Commitment.ofPayload, Handle.ofPayload,
      Payload.size_of_content given, sized, read_first, read_second]
    change _ = Indexed.traverse (fun i : Fin 2 => Point.ofWire (Word.ofBytes (Chunks.part b i)))
      >>= _
    simp only [Indexed.traverse, Fin.val_zero, Fin.val_succ]
    cases (Point.ofWire (Word.ofBytes (Chunks.part b 0)) : Except Failure (Point S)) with
    | error e => rfl
    | ok p =>
      cases (Point.ofWire (Word.ofBytes (Chunks.part b 1)) : Except Failure (Point S)) <;> rfl
  misread_of_length given sized := Payload.misread_of_size given sized

/-- The layout of a statement. -/
def PointLayout.statement (k : ProofKind) :
    PointLayout S k.points (Statement.ofPayload (S := S) k) Statement.toBytes where
  pointAt := Statement.pointAt
  ofPoints := Statement.ofPoints
  ofPoints_pointAt := Statement.ofPoints_pointAt
  pointAt_ofPoints := Statement.pointAt_ofPoints
  write_eq := Statement.toBytes_eq_concat
  read_of_length := Statement.ofPayload_of_length
  misread_of_length given sized := Payload.misread_of_size given sized

end Wire

/-! ## Scalars -/

namespace Scalar

/-- The scalar that a byte string stores is reduced if its number is below the order. -/
theorem isCanonical_ofBytes_iff {b : Bytes} (sized : b.length = 32) :
    isCanonical ⟨Word.ofBytes b⟩ = true ↔ Bytes.toNat b < order := by
  rw [isCanonical_iff, toNat, Word.toNat_ofBytes sized]

theorem ofNamed_of_content (role short : String) {p : Payload} {b : Bytes}
    (given : p.content? = some b) (sized : b.length = 32) :
    ofNamed role short p =
      if isCanonical ⟨Word.ofBytes b⟩ then .ok ⟨Word.ofBytes b⟩
      else .error (.malformed ("non-canonical " ++ short) .null) := by
  rw [ofNamed, Payload.size_of_content given, sized, ofCanonical_of_content given sized]
  cases isCanonical ⟨Word.ofBytes b⟩ <;> rfl

end Scalar

/-- A value that is a reduced scalar under a name. -/
theorem Wire.Canonical.scalar {V : Type} (role short : String) (make : Scalar → V)
    (scalar : V → Scalar) (make_scalar : ∀ v, make (scalar v) = v)
    (scalar_make : ∀ s, scalar (make s) = s) :
    Canonical (fun data => Scalar.ofNamed role short data >>= fun s => .ok (make s))
      (fun v => .ok (scalar v).toBytes) .deserialization Chunks.IsScalar
      (fun v => (scalar v).isCanonical = true) Eq where
  of_accepts {data b} given accepted := by
    have reduced := (Scalar.isCanonical_ofBytes_iff accepted.sized).2 accepted.reduced
    refine ⟨make ⟨Word.ofBytes b⟩, ?_, ?_, ?_⟩
    · rw [Scalar.ofNamed_of_content role short given accepted.sized, if_pos reduced]
      rfl
    · rw [scalar_make]
      exact congrArg Except.ok (Word.toBytes_ofBytes accepted.sized)
    · rwa [scalar_make]
  misread {data b} given refused := by
    by_cases sized : b.length = 32
    · have unreduced : ¬Scalar.isCanonical ⟨Word.ofBytes b⟩ = true := fun reduced =>
        refused ⟨sized, (Scalar.isCanonical_ofBytes_iff sized).1 reduced⟩
      refine ⟨_, ?_, Failure.misread_malformed ("non-canonical " ++ short) .null⟩
      rw [Scalar.ofNamed_of_content role short given sized, if_neg unreduced]
      rfl
    · obtain ⟨e, failed, misread⟩ : ∃ e, Scalar.ofNamed role short data = .error e ∧
        e.Misread .deserialization := Payload.misread_of_size given sized
      exact ⟨e, by rw [failed]; rfl, misread⟩
  of_sound {v} reduced := by
    refine ⟨_, v, rfl, ?_, rfl⟩
    rw [Scalar.ofNamed_of_content role short rfl (Word.length_toBytes _), Word.ofBytes_toBytes,
      if_pos reduced]
    exact congrArg Except.ok (make_scalar v)

/-! ## Proofs and bundles -/

namespace Proof

/-- A proof that can be read back: its announcements are byte strings that stand for points and its
responses are reduced. -/
structure Decodable (S : Suite) (p : Proof k) : Prop where
  announced : ∀ i, ∃ b, (p.announcements i).content? = some b ∧ Point.IsWritten S b
  reduced : ∀ j, (p.responses j).isCanonical = true

/-- The proof in a well-formed byte string can be read back. -/
theorem decodable_ofChunks {b : Bytes} (formed : WellFormed S k b) :
    (ofChunks k b).Decodable S where
  announced i := ⟨_, rfl, formed.points i⟩
  reduced j := (isCanonical_ofChunks_iff formed.sized j).2 (formed.scalars j)

/-- What can be read back is written as a well-formed byte string of the same proof. -/
theorem Decodable.exists_toBytes {p : Proof k} (decodable : p.Decodable S) :
    ∃ b, p.toBytes = .ok b ∧ WellFormed S k b ∧ p.same (ofChunks k b) = true := by
  choose encoded given written using decodable.announced
  have stored (i : Fin k.rows) : Word.toBytes (Word.ofBytes (encoded i)) = encoded i :=
    Word.toBytes_ofBytes (written i).length_eq
  set b := Chunks.concat (List.ofFn (fun i => Word.ofBytes (encoded i)) ++
    List.ofFn fun j => (p.responses j).word) with def_b
  have sized : b.length = 32 * k.chunks := by
    rw [def_b, Chunks.length_concat, List.length_append, List.length_ofFn, List.length_ofFn]
    rfl
  have early (i : Fin k.rows) : Chunks.part b i = encoded i := by
    rw [← Chunks.toBytes_chunk sized (early_lt i), def_b, Chunks.chunk_concat_left, stored]
  have late (j : Fin k.witnesses) : (ofChunks k b).responses j = p.responses j := by
    change (⟨Chunks.chunk b (k.rows + j)⟩ : Scalar) = p.responses j
    rw [def_b, Chunks.chunk_concat_right]
  refine ⟨b, ?_, ⟨sized, fun i => ?_, fun j => ?_⟩, ?_⟩
  · refine Chunks.join_eq_ok (List.rel_append ?_ ?_)
    · refine Chunks.forall₂_ofFn fun i => ?_
      rw [stored]
      exact Chunks.Field.chunk_of_content (given i) (written i).length_eq
    · exact Chunks.forall₂_ofFn fun j => Chunks.Field.chunk_scalar _
  · rw [early]
    exact written i
  · rw [← isCanonical_ofChunks_iff sized, late]
    exact decodable.reduced j
  · rw [Proof.same, Bool.and_eq_true, List.all_eq_true, List.all_eq_true]
    refine ⟨fun i _ => ?_, fun j _ => beq_iff_eq.2 (late j).symm⟩
    have copied : ((ofChunks k b).announcements i).content? = some (encoded i) :=
      congrArg some (early i)
    rw [Payload.same, given, copied]
    exact beq_self_eq_true _

theorem canonical : Wire.Canonical (ofPayload S k) toBytes (.rejection k.family) (WellFormed S k)
    (Decodable S) (fun p q => p.same q = true) where
  of_accepts given formed := ⟨_, ofPayload_of_wellFormed given formed, toBytes_ofChunks formed.sized,
    decodable_ofChunks formed⟩
  misread := misread_of_not_wellFormed
  of_sound decodable := by
    obtain ⟨b, written, formed, same⟩ := decodable.exists_toBytes
    exact ⟨b, _, written, ofPayload_of_wellFormed rfl formed, same⟩

end Proof

namespace Statement

/-- All points of a statement are elements. -/
def IsMadeOfElements (statement : Statement S k) : Prop := ∀ i, (statement.pointAt i).IsElement

theorem canonical (apart : S.Separates) :
    Wire.Canonical (ofPayload (S := S) k) (fun s => .ok s.toBytes) .deserialization
      (Chunks.ArePoints S k.points) IsMadeOfElements Eq :=
  (Wire.PointLayout.statement k).canonical apart fun _ => Iff.rfl

end Statement

namespace Bundle

/-- A byte string that spells a statement and behind it a proof. -/
structure WellFormed (S : Suite) (k : ProofKind) (b : Bytes) : Prop where
  statement : Chunks.ArePoints S k.points (b.take (32 * k.points))
  proof : Proof.WellFormed S k (b.drop (32 * k.points))

theorem WellFormed.length_eq {b : Bytes} (formed : WellFormed S k b) :
    b.length = 32 * k.points + 32 * k.chunks := by
  rw [← formed.statement.sized, ← formed.proof.sized, ← List.length_append, List.take_append_drop]

theorem canonical (apart : S.Separates) :
    Wire.Canonical (ofPayload k) (toBytes (S := S)) (.rejection k.family) (WellFormed S k)
      (fun b => b.statement.IsMadeOfElements ∧ b.proof.Decodable S)
      (fun a b => a.statement = b.statement ∧ a.proof.same b.proof = true) where
  of_accepts {data b} given formed := by
    obtain ⟨s, readStatement, written, elements⟩ :=
      (Statement.canonical apart).of_accepts (Payload.content?_bytes _) formed.statement
    obtain ⟨p, readProof, writtenProof, decodable⟩ :=
      Proof.canonical.of_accepts (Payload.content?_bytes _) formed.proof
    refine ⟨⟨s, p⟩, ?_, ?_, elements, decodable⟩
    · rw [ofPayload_of_length given formed.length_eq, readStatement, readProof]
      rfl
    · rw [toBytes, writtenProof, Except.ok.inj written]
      exact congrArg Except.ok (List.take_append_drop _ _)
  misread {data b} given unformed := by
    by_cases sized : b.length = 32 * k.points + 32 * k.chunks
    · rw [ofPayload_of_length given sized]
      by_cases points : Chunks.ArePoints S k.points (b.take (32 * k.points))
      · obtain ⟨s, readStatement, -⟩ :=
          (Statement.canonical apart).of_accepts (Payload.content?_bytes _) points
        obtain ⟨e, failed, misread⟩ := Proof.canonical.misread (Payload.content?_bytes _)
          fun proof => unformed ⟨points, proof⟩
        refine ⟨_, ?_, misread.rewrap_of_rejection⟩
        rw [readStatement, failed]
        rfl
      · obtain ⟨e, failed, misread⟩ :=
          (Statement.canonical apart).misread (Payload.content?_bytes _) points
        refine ⟨_, ?_, misread.rewrap⟩
        rw [failed]
        rfl
    · exact Failure.misread_within (Payload.misread_of_size given sized)
  of_sound {v} sound := by
    obtain ⟨b, s, written, readStatement, rfl⟩ := (Statement.canonical apart).of_sound sound.1
    obtain ⟨c, p, writtenProof, readProof, same⟩ := Proof.canonical.of_sound sound.2
    cases written
    have sized : c.length = 32 * k.chunks := (Proof.canonical.of_read rfl readProof).1.sized
    refine ⟨v.statement.toBytes ++ c, ⟨v.statement, p⟩, ?_, ?_, rfl, same⟩
    · rw [toBytes, writtenProof]
      rfl
    · exact ofPayload_append readStatement sized readProof

end Bundle

/-! ## All formats -/

namespace Wire

namespace Format

/-- The kind of error that a malformed byte string of a format is reported as. -/
def errorKind : Format → ErrorKind
  | proof k | bundle k => .rejection k.family
  | _ => .deserialization

/-- The byte strings that spell a value of a format. -/
def Accepts (S : Suite) : Format → Bytes → Prop
  | secretKey | opening => Chunks.IsScalar
  | publicKey | commitment | handle => Chunks.ArePoints S 1
  | ciphertext => Chunks.ArePoints S 2
  | proof k => Proof.WellFormed S k
  | statement k => Chunks.ArePoints S k.points
  | bundle k => Bundle.WellFormed S k

/-- The values of a format that are made of elements, reduced scalars and proofs that can be read
back. -/
def Sound : (f : Format) → f.Value S → Prop
  | secretKey, s => s.scalar.isCanonical = true
  | publicKey, p => p.point.IsElement
  | opening, r => r.scalar.isCanonical = true
  | commitment, c => c.point.IsElement
  | handle, h => h.point.IsElement
  | ciphertext, c => c.commitment.point.IsElement ∧ c.handle.point.IsElement
  | proof _, p => p.Decodable S
  | statement _, s => s.IsMadeOfElements
  | bundle _, b => b.statement.IsMadeOfElements ∧ b.proof.Decodable S

/-- Equality of the values of a format: proofs are compared by content. -/
def Same : (f : Format) → f.Value S → f.Value S → Prop
  | proof _, p, q => p.same q = true
  | bundle _, a, b => a.statement = b.statement ∧ a.proof.same b.proof = true
  | _, v, w => v = w

theorem canonical (apart : S.Separates) (f : Format) :
    Canonical (f.read S) f.write f.errorKind (f.Accepts S) f.Sound f.Same := by
  cases f with
  | secretKey =>
    exact Canonical.scalar "secret key" "secret key" SecretKey.mk SecretKey.scalar (fun _ => rfl)
      fun _ => rfl
  | publicKey =>
    exact Canonical.point apart "pubkey" PublicKey.mk PublicKey.point (fun _ => rfl) fun _ => rfl
  | opening =>
    exact Canonical.scalar "opening" "opening" Opening.mk Opening.scalar (fun _ => rfl) fun _ => rfl
  | commitment =>
    exact Canonical.point apart "commitment" Commitment.mk Commitment.point (fun _ => rfl)
      fun _ => rfl
  | handle =>
    exact Canonical.point apart "handle" Handle.mk Handle.point (fun _ => rfl) fun _ => rfl
  | ciphertext =>
    exact PointLayout.ciphertext.canonical apart fun c =>
      (Fin.forall_fin_two (p := fun i => (PointLayout.ciphertext.pointAt c i).IsElement)).symm
  | proof k => exact Proof.canonical
  | statement k => exact Statement.canonical apart
  | bundle k => exact Bundle.canonical apart

/-- A byte string is read as a value of a format exactly if its chunks spell one, and then the value
is sound and is written as it was read; any other byte string is malformed. A sound value, the
neutral element included, is written and read back as the same one. -/
theorem read_outcome (apart : S.Separates) (f : Format) :
    (∀ (data : Payload) (b : Bytes), data.content? = some b →
      ((∃ v, f.read S data = .ok v) ↔ f.Accepts S b) ∧
      (∀ v, f.read S data = .ok v → f.write v = .ok b ∧ f.Sound v) ∧
      (¬f.Accepts S b → ∃ e, f.read S data = .error e ∧ e.Misread f.errorKind)) ∧
    ∀ v : f.Value S, f.Sound v →
      ∃ b w, f.write v = .ok b ∧ f.read S (.bytes b) = .ok w ∧ f.Same v w := by
  have format := canonical apart f
  refine ⟨fun data b given => ⟨⟨?_, fun accepted => ?_⟩, ?_, format.misread given⟩,
    fun v => format.of_sound⟩
  · rintro ⟨v, decoded⟩
    exact (format.of_read given decoded).1
  · obtain ⟨v, decoded, -⟩ := format.of_accepts given accepted
    exact ⟨v, decoded⟩
  · intro v decoded
    exact (format.of_read given decoded).2

/-- A bundle with a neutral key, whose announced points are a buffer and a view. -/
def sampleBundle : Bundle Suite.standard .zeroCiphertext where
  statement := .zeroCiphertext ⟨.neutral⟩ ⟨⟨.base⟩, ⟨.neutral⟩⟩
  proof := {
    announcements := ![.buffer (List.replicate 32 0), .view (Word.toBytes Suite.standard.base)]
    responses := fun _ => .zero }

/-- It is read back, and the word that stores the neutral element is no public key. -/
theorem read_outcome_of_sampleBundle :
    (∃ b w, (Format.bundle .zeroCiphertext).write sampleBundle = .ok b ∧
      (Format.bundle .zeroCiphertext).read Suite.standard (.bytes b) = .ok w ∧
      (Format.bundle .zeroCiphertext).Same sampleBundle w) ∧
    ∃ e, Format.publicKey.read Suite.standard (.bytes (Word.toBytes Suite.neutralWord)) = .error e ∧
      e.Misread .deserialization := by
  have apart := Suite.standardReading.separates
  refine ⟨(read_outcome apart (.bundle .zeroCiphertext)).2 sampleBundle
    ⟨fun i => ?_, fun i => ?_, fun _ => ?_⟩, ?_⟩
  · fin_cases i
    · exact .inl rfl
    · exact .inr (by decide +kernel)
    · exact .inl rfl
  · fin_cases i
    · exact ⟨_, rfl, .inl rfl⟩
    · exact ⟨_, rfl, .inr ⟨by decide +kernel, by decide +kernel⟩⟩
  · exact (by decide : Scalar.zero.isCanonical = true)
  · refine ((read_outcome apart .publicKey).1 _ _ rfl).2.2 fun points => ?_
    rcases points.points 0 with zero | ⟨-, valid⟩
    · revert zero
      decide +kernel
    · revert valid
      decide +kernel

end Format

end Wire

end AmountProofs
