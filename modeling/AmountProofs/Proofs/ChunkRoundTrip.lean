import AmountProofs.Proofs.Outcomes
import AmountProofs.Proofs.ProofEncoding

/-!
Chunks taken apart and joined again.

A byte string is taken apart exactly if it has as many bytes as its chunks need, and its chunks are
joined to it (`Chunks.join_split`). Fields are joined exactly if each of them is a chunk, and the
first one that is not decides how joining fails (`Chunks.join_eq_error_iff`); what they are joined to
is taken apart into their bytes (`Chunks.split_join`). So for any number of chunks the two undo each
other, and what they refuse is told by lengths alone (`Chunks.split_join_outcome`). Only a length that was
expected and has too many digits to be told is refused in another way.
-/

namespace AmountProofs

namespace Chunks

/-! ## Fields and their bytes -/

namespace Field

/-- The bytes of a field that is a scalar or a byte string, in any shape. -/
def content? : Field → Option Bytes
  | scalar s => some s.toBytes
  | payload p => p.content?

/-- A field that is a byte string of so many bytes, which are not those of a chunk. -/
inductive Misfit : Field → Nat → Prop
  | of_content {p : Payload} {b : Bytes} (given : p.content? = some b) (unsized : b.length ≠ 32) :
    Misfit (payload p) b.length

theorem chunk_of_length {f : Field} {b : Bytes} (given : f.content? = some b)
    (sized : b.length = 32) : f.chunk = .ok b := by
  cases f with
  | scalar s =>
    cases given
    exact chunk_scalar s
  | payload p => exact chunk_of_content given sized

/-- The bytes of a scalar are always those of a chunk. -/
theorem misfit_of_length_ne {f : Field} {b : Bytes} (given : f.content? = some b)
    (unsized : b.length ≠ 32) : f.Misfit b.length := by
  cases f with
  | scalar s =>
    cases given
    exact absurd (Word.length_toBytes s.word) unsized
  | payload p => exact .of_content given unsized

theorem Misfit.chunk {f : Field} {n : Nat} (misfit : f.Misfit n) :
    f.chunk = .error (.badValue (.chunkSize n)) := by
  obtain @⟨p, b, given, unsized⟩ := misfit
  have measured : (payload p).size = .ok b.length := by
    cases p <;> cases given <;> rfl
  rw [Field.chunk, measured]
  exact if_pos unsized

/-- A scalar or a byte string is a chunk, or it is refused for its length. -/
theorem chunk_eq_error_iff {f : Field} {b : Bytes} (given : f.content? = some b) {e : Failure} :
    f.chunk = .error e ↔ ∃ n, f.Misfit n ∧ e = .badValue (.chunkSize n) := by
  constructor
  · intro refused
    by_cases sized : b.length = 32
    · rw [chunk_of_length given sized] at refused
      cases refused
    · have misfit := misfit_of_length_ne given sized
      rw [misfit.chunk] at refused
      exact ⟨_, misfit, (Except.error.inj refused).symm⟩
  · intro ⟨n, misfit, named⟩
    rw [named]
    exact misfit.chunk

theorem exists_chunk_iff {f : Field} {b : Bytes} (given : f.content? = some b) :
    (∃ c, f.chunk = .ok c) ↔ ∀ n, ¬f.Misfit n := by
  constructor
  · intro ⟨c, taken⟩ n misfit
    rw [misfit.chunk] at taken
    cases taken
  · intro fits
    by_cases sized : b.length = 32
    · exact ⟨b, chunk_of_length given sized⟩
    · exact absurd (misfit_of_length_ne given sized) (fits _)

end Field

/-! ## Joining -/

theorem join_cons_eq_ok_iff {f : Field} {rest : List Field} {b : Bytes} :
    join (f :: rest) = .ok b ↔ ∃ c, f.chunk = .ok c ∧ ∃ d, join rest = .ok d ∧ c ++ d = b := by
  rw [join]
  simp only [Outcome.bind_eq_ok_iff, pure, Except.pure, Except.ok.injEq]

theorem join_cons_eq_error_iff {f : Field} {rest : List Field} {e : Failure} :
    join (f :: rest) = .error e ↔
      f.chunk = .error e ∨ (∃ c, f.chunk = .ok c) ∧ join rest = .error e := by
  rw [join]
  simp only [Outcome.bind_eq_error_iff]
  constructor
  · intro failed
    rcases failed with refused | ⟨c, first, behind | ⟨_, _, ⟨⟩⟩⟩
    · exact .inl refused
    · exact .inr ⟨⟨c, first⟩, behind⟩
  · intro failed
    rcases failed with refused | ⟨⟨c, first⟩, behind⟩
    · exact .inl refused
    · exact .inr ⟨c, first, .inl behind⟩

/-- Fields are joined exactly if each of them is a chunk. -/
theorem exists_join_iff {fields : List Field} :
    (∃ b, join fields = .ok b) ↔ ∀ f ∈ fields, ∃ c, f.chunk = .ok c := by
  induction fields with
  | nil => exact iff_of_true ⟨[], rfl⟩ (List.forall_mem_nil _)
  | cons f rest ih =>
    rw [List.forall_mem_cons, ← ih]
    simp only [join_cons_eq_ok_iff]
    constructor
    · intro ⟨_, c, first, d, behind, _⟩
      exact ⟨⟨c, first⟩, d, behind⟩
    · intro ⟨⟨c, first⟩, d, behind⟩
      exact ⟨c ++ d, c, first, d, behind, rfl⟩

/-- Joining fails as the first field does that is no chunk, whatever stands behind it. -/
theorem join_eq_error_iff {fields : List Field} {e : Failure} :
    join fields = .error e ↔
      ∃ before f after, fields = before ++ f :: after ∧ (∀ g ∈ before, ∃ c, g.chunk = .ok c) ∧
        f.chunk = .error e := by
  induction fields with
  | nil =>
    refine iff_of_false nofun fun ⟨before, f, after, split, _⟩ => ?_
    exact List.append_ne_nil_of_right_ne_nil before (List.cons_ne_nil f after) split.symm
  | cons f rest ih =>
    rw [join_cons_eq_error_iff, ih]
    -- The first refused field is the head, or it stands behind a head that is a chunk.
    constructor
    · intro failed
      rcases failed with refused | ⟨first, before, g, after, split, chunks, refused⟩
      · exact ⟨[], f, rest, rfl, List.forall_mem_nil _, refused⟩
      · exact ⟨f :: before, g, after, congrArg (f :: ·) split,
          List.forall_mem_cons.2 ⟨first, chunks⟩, refused⟩
    · intro ⟨before, g, after, split, chunks, refused⟩
      cases before with
      | nil =>
        cases split
        exact .inl refused
      | cons h before =>
        cases split
        obtain ⟨first, chunks⟩ := List.forall_mem_cons.1 chunks
        exact .inr ⟨first, before, g, after, rfl, chunks, refused⟩

/-- Of scalars and byte strings, the first one of a wrong length is named. -/
theorem join_eq_error_iff_misfit {fields : List Field}
    (given : ∀ f ∈ fields, ∃ b, f.content? = some b) {e : Failure} :
    join fields = .error e ↔
      ∃ before f after n, fields = before ++ f :: after ∧ (∀ g ∈ before, ∀ m, ¬g.Misfit m) ∧
        f.Misfit n ∧ e = .badValue (.chunkSize n) := by
  rw [join_eq_error_iff]
  constructor
  · intro ⟨before, f, after, divided, chunks, refused⟩
    subst divided
    obtain ⟨b, content⟩ := given f (List.mem_append_right before List.mem_cons_self)
    obtain ⟨n, misfit, named⟩ := (Field.chunk_eq_error_iff content).1 refused
    refine ⟨before, f, after, n, rfl, fun g listed => ?_, misfit, named⟩
    obtain ⟨c, content⟩ := given g (List.mem_append_left _ listed)
    exact (Field.exists_chunk_iff content).1 (chunks g listed)
  · intro ⟨before, f, after, n, divided, fits, misfit, named⟩
    subst divided named
    refine ⟨before, f, after, rfl, fun g listed => ?_, misfit.chunk⟩
    obtain ⟨c, content⟩ := given g (List.mem_append_left _ listed)
    exact (Field.exists_chunk_iff content).2 (fits g listed)

/-- Of scalars and byte strings, one of a wrong length is enough for joining to fail. -/
theorem exists_join_eq_badValue_iff {fields : List Field}
    (given : ∀ f ∈ fields, ∃ b, f.content? = some b) :
    (∃ v, join fields = .error (.badValue v)) ↔ ∃ f ∈ fields, ∃ n, f.Misfit n := by
  constructor
  · intro ⟨v, refused⟩
    obtain ⟨before, f, after, n, rfl, -, misfit, -⟩ := (join_eq_error_iff_misfit given).1 refused
    exact ⟨f, List.mem_append_right before List.mem_cons_self, n, misfit⟩
  · intro ⟨f, listed, n, misfit⟩
    rcases outcome : join fields with e | b
    · obtain ⟨-, -, -, m, -, -, -, rfl⟩ := (join_eq_error_iff_misfit given).1 outcome
      exact ⟨.chunkSize m, rfl⟩
    -- A result would need every field to be a chunk, the misfit too.
    · obtain ⟨c, taken⟩ := exists_join_iff.1 ⟨b, outcome⟩ f listed
      rw [misfit.chunk] at taken
      cases taken

/-- Words are joined as the fields that hold their bytes. -/
theorem join_words (words : List Word) :
    join (words.map fun w => .payload (.bytes (Word.toBytes w))) = .ok (concat words) := by
  apply join_eq_ok
  rw [List.forall₂_map_left_iff, List.forall₂_same]
  exact fun w _ => Field.chunk_bytes w

/-! ## Taking apart -/

/-- A byte string of whole chunks is taken apart into these. -/
theorem split_of_length {data : Payload} {b : Bytes} (given : data.content? = some b) {n : Nat}
    (sized : b.length = 32 * n) : split data n = .ok (List.ofFn fun i : Fin n => chunk b i) := by
  have taken : exactly (size * n) data = .ok b := exactly_of_content given sized
  have listed : (List.range n).map (chunk b) = List.ofFn fun i : Fin n => chunk b i :=
    List.ext_getElem (by simp) (by simp)
  rw [split, taken, ← listed]
  rfl

/-- Words one after the other are taken apart. -/
theorem split_concat {data : Payload} {words : List Word}
    (given : data.content? = some (concat words)) : split data words.length = .ok words := by
  rw [split_of_length given (length_concat words)]
  refine congrArg Except.ok (List.ext_getElem List.length_ofFn fun i _ inside => ?_)
  rw [List.getElem_ofFn]
  exact chunk_concat inside

/-- A byte string of any other length is refused, with the length that was expected and its own; if the
length that was expected has too many digits, telling it fails. -/
theorem split_of_length_ne {data : Payload} {b : Bytes} (given : data.content? = some b)
    {count : Int} (unsized : (b.length : Int) ≠ 32 * count) :
    split data count = .error (if Decimal.isShort (32 * count)
      then .malformed s!"expected {32 * count} bytes, got {b.length}"
        (.record [("expected", .int (32 * count)), ("actual", .int b.length)])
      else .badValue .tooManyDigits) := by
  have refused : exactly (size * count) data = _ := exactly_of_content_ne given unsized
  rw [split, refused, Failure.showing_int]
  rfl

/-! ## There and back -/

/-- The chunks of a byte string are joined to it. -/
theorem join_split {data : Payload} {b : Bytes} (given : data.content? = some b) {n : Nat}
    (sized : b.length = 32 * n) :
    ∃ words, split data n = .ok words ∧ words.length = n ∧
      join (words.map fun w => .payload (.bytes (Word.toBytes w))) = .ok b := by
  refine ⟨_, split_of_length given sized, List.length_ofFn, ?_⟩
  rw [join_words, concat_chunk sized]

/-- The word of a field that has the bytes of one. -/
def Field.word (f : Field) : Word := Word.ofBytes (f.content?.getD [])

theorem Field.content?_eq_word {f : Field} (whole : ∃ b, f.content? = some b ∧ b.length = 32) :
    f.content? = some (Word.toBytes f.word) := by
  obtain ⟨b, content, sized⟩ := whole
  rw [word, content, Option.getD_some, Word.toBytes_ofBytes sized]

/-- What scalars and byte strings of 32 bytes are joined to is taken apart into their bytes. -/
theorem split_join {fields : List Field}
    (whole : ∀ f ∈ fields, ∃ b, f.content? = some b ∧ b.length = 32) :
    ∃ joined, join fields = .ok joined ∧ ∀ data : Payload, data.content? = some joined →
      ∃ words, split data fields.length = .ok words ∧
        words.map (fun w => some (Word.toBytes w)) = fields.map Field.content? := by
  have content (f : Field) (listed : f ∈ fields) : f.content? = some (Word.toBytes f.word) :=
    Field.content?_eq_word (whole f listed)
  refine ⟨concat (fields.map Field.word), join_eq_ok ?_, fun data given =>
    ⟨fields.map Field.word, ?_, ?_⟩⟩
  · rw [List.forall₂_map_right_iff, List.forall₂_same]
    exact fun f listed => Field.chunk_of_length (content f listed) (Word.length_toBytes f.word)
  · rw [← List.length_map (f := Field.word)]
    exact split_concat given
  · rw [List.map_map]
    exact List.map_congr_left fun f listed => (content f listed).symm

/-- Scalars and byte strings of 32 bytes, however many, are joined, and what they are joined to is
taken apart into their bytes; a byte string of as many chunks is taken apart, and its chunks are
joined to it. For a count that its length does not agree with, be it negative, a byte string is
refused as malformed, with both lengths as details, unless the length that the count asks for has too
many digits to be told: then it is refused as a bad value. Scalars and byte strings of any length are
refused as a bad value exactly if one of the byte strings is no chunk, and then the length of the
first such one is named. -/
theorem split_join_outcome (n : Nat) :
    (∀ fields : List Field, fields.length = n →
      (∀ f ∈ fields, ∃ b, f.content? = some b ∧ b.length = 32) →
      ∃ joined, join fields = .ok joined ∧ ∀ data : Payload, data.content? = some joined →
        ∃ words, split data n = .ok words ∧
          words.map (fun w => some (Word.toBytes w)) = fields.map Field.content?) ∧
    (∀ (data : Payload) (b : Bytes), data.content? = some b → b.length = 32 * n →
      ∃ words, split data n = .ok words ∧ words.length = n ∧
        join (words.map fun w => .payload (.bytes (Word.toBytes w))) = .ok b) ∧
    (∀ (data : Payload) (b : Bytes) (count : Int), data.content? = some b →
      (b.length : Int) ≠ 32 * count →
      (Decimal.isShort (32 * count) →
        ∃ e, split data count = .error (.library e) ∧ e.kind = .deserialization ∧
          e.code = .deserialization ∧
          e.details = some (.record [("expected", .int (32 * count)), ("actual", .int b.length)])) ∧
      (¬Decimal.isShort (32 * count) → split data count = .error (.badValue .tooManyDigits))) ∧
    ∀ fields : List Field, (∀ f ∈ fields, ∃ b, f.content? = some b) →
      ((∃ v, join fields = .error (.badValue v)) ↔ ∃ f ∈ fields, ∃ m, f.Misfit m) ∧
      ∀ before f after m, fields = before ++ f :: after → (∀ g ∈ before, ∀ l, ¬g.Misfit l) →
        f.Misfit m → ∃ v, join fields = .error (.badValue v) ∧
          v.message = .ofString s!"field must be 32 bytes, got {m}" := by
  refine ⟨fun fields counted whole => ?_, fun data b given sized => join_split given sized,
    fun data b count given unsized => ⟨fun short => ?_, fun long => ?_⟩,
    fun fields given => ⟨exists_join_eq_badValue_iff given,
      fun before f after m divided fits misfit => ?_⟩⟩
  · rw [← counted]
    exact split_join whole
  · have refused := split_of_length_ne given unsized
    rw [if_pos short] at refused
    exact ⟨_, refused, rfl, rfl, rfl⟩
  · rw [split_of_length_ne given unsized, if_neg long]
  · have named : join fields = .error (.badValue (.chunkSize m)) :=
      (join_eq_error_iff_misfit given).2 ⟨before, f, after, m, divided, fits, misfit, rfl⟩
    exact ⟨.chunkSize m, named, rfl⟩

/-- The greatest scalar and a view of bytes are joined, and are found again in a buffer of what they
are joined to. No byte string has a negative number of chunks. Of two byte strings behind a scalar,
one a byte too short and one a byte too long, the first is named. -/
theorem split_join_outcome_of_two :
    let greatest : Scalar := .ofNat (Scalar.order - 1)
    let sevens (m : Nat) : Bytes := List.replicate m 7
    (∃ joined, join [.scalar greatest, .payload (.view (sevens 32))] = .ok joined ∧
      ∃ words, split (.buffer joined) 2 = .ok words ∧
        words.map Word.toBytes = [greatest.toBytes, sevens 32]) ∧
    (∃ words, split (.view (sevens 64)) 2 = .ok words ∧
      join (words.map fun w => .payload (.bytes (Word.toBytes w))) = .ok (sevens 64)) ∧
    (∃ e, split (.bytes (sevens 32)) (-1) = .error (.library e) ∧
      e.details = some (.record [("expected", .int (-32)), ("actual", .int 32)])) ∧
    ∃ v, join [.scalar greatest, .payload (.buffer (sevens 31)), .payload (.bytes (sevens 33))] =
      .error (.badValue v) ∧ v.message = .ofString "field must be 32 bytes, got 31" := by
  intro greatest sevens
  have short : (Field.payload (.buffer (sevens 31))).Misfit 31 :=
    .of_content (b := sevens 31) rfl (by decide)
  obtain ⟨apart, together, refused, named⟩ := split_join_outcome 2
  refine ⟨?_, ?_, ?_, ?_⟩
  · obtain ⟨joined, run, back⟩ := apart [.scalar greatest, .payload (.view (sevens 32))] rfl
      (List.forall_mem_cons.2 ⟨⟨_, rfl, Word.length_toBytes _⟩,
        List.forall_mem_cons.2 ⟨⟨_, rfl, List.length_replicate⟩, List.forall_mem_nil _⟩⟩)
    obtain ⟨words, taken, same⟩ := back (.buffer joined) rfl
    have shown : (words.map Word.toBytes).map some = [greatest.toBytes, sevens 32].map some := by
      rw [List.map_map]
      exact same
    exact ⟨joined, run, words, taken, List.map_injective_iff.2 (Option.some_injective _) shown⟩
  · obtain ⟨words, taken, -, run⟩ :=
      together (.view (sevens 64)) (sevens 64) rfl List.length_replicate
    exact ⟨words, taken, run⟩
  · obtain ⟨told, -⟩ := refused (.bytes (sevens 32)) (sevens 32) (-1) rfl (by decide)
    obtain ⟨e, failed, -, -, details⟩ := told (by decide +kernel)
    exact ⟨e, failed, details⟩
  · have given : ∀ f ∈ [.scalar greatest, .payload (.buffer (sevens 31)),
        .payload (.bytes (sevens 33))], ∃ b, Field.content? f = some b := by
      simp [Field.content?, Payload.content?]
    refine (named _ given).2 [.scalar greatest] _ [.payload (.bytes (sevens 33))] 31 rfl ?_ short
    intro g listed l misfit
    rw [List.mem_singleton] at listed
    subst listed
    cases misfit

/-- No bytes are not the chunks of a count that asks for a number of bytes with 4301 digits. Taking them
apart fails, but not as malformed. -/
theorem split_of_unshown_count :
    let count : Int := (4 * 10 ^ 4298 : Nat)
    (([] : Bytes).length : Int) ≠ 32 * count ∧
      split (.bytes []) count = .error (.badValue .tooManyDigits) := by
  intro count
  have unsized : (([] : Bytes).length : Int) ≠ 32 * count := by decide +kernel
  have long : ¬Decimal.isShort (32 * count) := by decide +kernel
  refine ⟨unsized, ?_⟩
  rw [split_of_length_ne rfl unsized, if_neg long]

end Chunks

end AmountProofs
