import AmountProofs.Point
import AmountProofs.Proofs.ByteStrings

/-!
Points as they are written out.

A reader of points asks a suite one thing only, which words are valid. If it calls neither word of
the neutral element valid (`Suite.Separates`), then what is read is written as it was, and an element
that is written is read back; nothing is needed of the curve's operations.
-/

namespace AmountProofs

variable {S : Suite}

/-- The valid words are neither the one that stores the neutral element nor the one that it is
written as. -/
structure Suite.Separates (S : Suite) : Prop where
  neutralWord : S.isValid Suite.neutralWord = false
  neutralWire : S.isValid Suite.neutralWire = false

/-! ## Byte strings in any shape -/

namespace Payload

/-- A byte string has a size and gives its bytes. -/
theorem size_of_content {p : Payload} {b : Bytes} (given : p.content? = some b) :
    p.size = .ok b.length := by
  cases p <;> cases given <;> rfl

theorem toBytes_of_content {p : Payload} {b : Bytes} (given : p.content? = some b) :
    p.toBytes = .ok b := by
  cases p <;> cases given <;> rfl

theorem content?_bytes (b : Bytes) : (bytes b).content? = some b := rfl

theorem content?_slice {p : Payload} {b : Bytes} (given : p.content? = some b) (first last : Nat) :
    (p.slice first last).content? = some ((b.take last).drop first) := by
  cases p <;> cases given <;> rfl

theorem content?_of_owned {p : Payload} {b : Bytes} (owned : p.owned? = some b) :
    p.content? = some b := by
  cases p <;> cases owned <;> rfl

/-- The bytes of a list are as many as its items, if they are bytes. -/
theorem length_of_itemBytes {fault : BadValue} {items : List (Option Int)} {b : Bytes}
    (given : itemBytes fault items = .ok b) : b.length = items.length := by
  induction items generalizing b with
  | nil =>
    cases given
    rfl
  | cons item rest ih =>
    cases item with
    | none => cases given
    | some n =>
      unfold itemBytes at given
      split at given
      · cases tail : itemBytes fault rest with
        | error e =>
          rw [tail] at given
          cases given
        | ok bytes =>
          rw [tail] at given
          cases given
          exact congrArg Nat.succ (ih tail)
      · cases given

/-- A payload that can be copied has as many parts as bytes. -/
theorem size_of_toBytes {p : Payload} {b : Bytes} (copied : p.toBytes = .ok b) :
    p.size = .ok b.length := by
  cases p with
  | bytes c | buffer c | view c =>
    cases copied
    rfl
  | list items => exact congrArg Except.ok (length_of_itemBytes copied).symm
  | text _ | number _ | absent => cases copied

end Payload

namespace Point

/-! ## Words that stand for points -/

/-- A stored point that is the neutral element or that the suite calls valid. -/
def IsElement (p : Point S) : Prop := p = .neutral ∨ S.isValid p.word = true

/-- Thirty-two bytes that stand for a point: all zero, or an encoding that the suite calls valid. -/
def IsWritten (S : Suite) (b : Bytes) : Prop :=
  b = List.replicate 32 0 ∨ b.length = 32 ∧ S.isValid (Word.ofBytes b) = true

/-- What is read is an element. -/
theorem isElement_of_ofWire? {w : Word} {p : Point S} (found : ofWire? w = some p) :
    p.IsElement := by
  unfold ofWire? at found
  split at found
  · cases found
    exact .inl rfl
  · split at found
    · rename_i valid
      cases found
      exact .inr valid
    · cases found

theorem not_isNeutral_of_isValid (apart : S.Separates) {p : Point S}
    (valid : S.isValid p.word = true) : ¬p.isNeutral = true := by
  intro stored
  rw [isNeutral, beq_iff_eq] at stored
  rw [stored, apart.neutralWord] at valid
  cases valid

/-- What is read is written as it was read. -/
theorem wire_of_ofWire? (apart : S.Separates) {w : Word} {p : Point S}
    (found : ofWire? w = some p) : p.wire = w := by
  unfold ofWire? at found
  split at found
  · rename_i neutral
    cases found
    exact neutral.symm
  · split at found
    · rename_i valid
      cases found
      exact if_neg (not_isNeutral_of_isValid apart valid)
    · cases found

/-- An element that is written is read back. -/
theorem ofWire?_wire (apart : S.Separates) {p : Point S} (element : p.IsElement) :
    ofWire? p.wire = some p := by
  rcases element with rfl | valid
  · rfl
  · have other : p.word ≠ Suite.neutralWire := by
      intro written
      rw [written, apart.neutralWire] at valid
      cases valid
    rw [wire, if_neg (not_isNeutral_of_isValid apart valid), ofWire?, if_neg other, if_pos valid]

theorem ofBytes_eq_neutralWire_iff {b : Bytes} (sized : b.length = 32) :
    Word.ofBytes b = Suite.neutralWire ↔ b = List.replicate 32 0 := by
  have zeros : Word.toBytes Suite.neutralWire = List.replicate 32 0 := by decide
  constructor
  · intro neutral
    rw [← Word.toBytes_ofBytes sized, neutral, zeros]
  · rintro rfl
    rw [← zeros, Word.ofBytes_toBytes]

/-- Thirty-two bytes are read as a point exactly if they stand for one. -/
theorem exists_ofWire?_iff {b : Bytes} (sized : b.length = 32) :
    (∃ p : Point S, ofWire? (Word.ofBytes b) = some p) ↔ IsWritten S b := by
  rw [IsWritten, ← ofBytes_eq_neutralWire_iff sized, ofWire?]
  by_cases neutral : Word.ofBytes b = Suite.neutralWire
  · rw [if_pos neutral]
    exact iff_of_true ⟨_, rfl⟩ (.inl neutral)
  · rw [if_neg neutral]
    by_cases valid : S.isValid (Word.ofBytes b) = true
    · rw [if_pos valid]
      exact iff_of_true ⟨_, rfl⟩ (.inr ⟨sized, valid⟩)
    · rw [if_neg valid]
      refine iff_of_false (fun ⟨_, found⟩ => nomatch found) ?_
      rintro (zero | ⟨-, other⟩)
      · exact neutral zero
      · exact valid other

theorem IsWritten.length_eq {b : Bytes} (written : IsWritten S b) : b.length = 32 := by
  rcases written with rfl | ⟨sized, -⟩
  · exact List.length_replicate
  · exact sized

/-! ## Reading -/

/-- Thirty-two bytes are read as the word that they spell. -/
theorem ofPayload_of_content {p : Payload} {b : Bytes} (given : p.content? = some b)
    (sized : b.length = 32) : (ofPayload p : Except Failure (Point S)) = ofWire (Word.ofBytes b) := by
  rw [ofPayload, Payload.size_of_content given, Payload.toBytes_of_content given, sized]
  rfl

/-- Any other number of bytes is refused. -/
theorem ofPayload_of_content_ne {p : Payload} {b : Bytes} (given : p.content? = some b)
    (sized : b.length ≠ 32) :
    (ofPayload p : Except Failure (Point S)) =
      .error (.malformed s!"point must be 32 bytes, got {b.length}" .null) := by
  simp only [ofPayload, Payload.size_of_content given, bind, Except.bind, if_pos sized]
  rfl

theorem ofWire_eq_ok_iff {w : Word} {p : Point S} : ofWire w = .ok p ↔ ofWire? w = some p := by
  rw [ofWire]
  cases ofWire? w with
  | none => exact iff_of_false nofun nofun
  | some q => exact ⟨fun same => congrArg some (Except.ok.inj same),
      fun same => congrArg Except.ok (Option.some.inj same)⟩

/-- Trying to read bytes as a point never fails: bytes of another size, and those that stand for no point,
give none. -/
theorem tryOfPayload_of_content {p : Payload} {b : Bytes} (given : p.content? = some b) :
    (tryOfPayload p : Except Failure (Option (Point S))) =
      .ok (if b.length = 32 then ofWire? (Word.ofBytes b) else none) := by
  by_cases sized : b.length = 32
  · rw [tryOfPayload, ofPayload_of_content given sized, if_pos sized, ofWire]
    cases ofWire? (Word.ofBytes b) with
    | none => rfl
    | some q => rfl
  · rw [tryOfPayload, ofPayload_of_content_ne given sized, if_neg sized]
    rfl

/-- A payload is read as a point exactly if its size is right and its bytes stand for the point. -/
theorem ofPayload_eq_ok_iff {source : Payload} {p : Point S} :
    ofPayload source = .ok p ↔ source.size = .ok 32 ∧
      ∃ b, source.toBytes = .ok b ∧ ofWire? (Word.ofBytes b) = some p := by
  unfold ofPayload
  rcases source.size with e | size
  · exact iff_of_false nofun nofun
  · by_cases sized : size = 32
    · subst sized
      rcases source.toBytes with e | b
      · exact iff_of_false nofun nofun
      · simp [bind, Except.bind, ofWire_eq_ok_iff]
    · simp only [bind, Except.bind, ne_eq, sized, not_false_eq_true, if_true]
      refine iff_of_false nofun ?_
      rintro ⟨same, -⟩
      exact sized (Except.ok.inj same)

theorem eq_of_ofWire_eq_error {w : Word} {e : Failure}
    (failed : (ofWire w : Except Failure (Point S)) = .error e) :
    e = .malformed "invalid point encoding" .null := by
  rw [ofWire] at failed
  cases found : (ofWire? w : Option (Point S)) with
  | none =>
    rw [found] at failed
    exact (Except.error.inj failed).symm
  | some q =>
    rw [found] at failed
    cases failed

end Point

end AmountProofs
