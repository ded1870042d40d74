import AmountProofs.Proofs.JsonAtoms
import AmountProofs.Proofs.JsonNames

/-!
JSON that was written is read as the value that it was written from.

A value is `Json.Plain` within a depth if it is nested no deeper, its texts have UTF-8 forms, its objects
hold a name once, and there are no floating point numbers in it. Its integers must be short enough to be
read, too. The reader's fuel is enough if it is twice the length of what was written
(`Json.Reader.ReadsBack`). The induction is on the value, and inside
a list or an object on its parts; `Json.parse_pretty` is what comes of it for a whole text.
-/

namespace AmountProofs

namespace Json

open Writer (escaped quoted unitEscape hexChar newline prettyItems prettyMembers)

/-- Values that are read back as they were written if their integers are, with the depth that they are
nested to at most. -/
inductive Plain : Nat → Json → Prop
  | null (depth : Nat) : Plain depth .null
  | bool (depth : Nat) (b : Bool) : Plain depth (.bool b)
  | int (depth : Nat) (n : Int) : Plain depth (.int n)
  | text {depth : Nat} {t : Text} (encodable : t.Encodable) : Plain depth (.text t)
  | list {depth : Nat} {items : List Json} (each : ∀ x ∈ items, Plain depth x) :
    Plain (depth + 1) (.list items)
  | object {depth : Nat} {members : List (Text × Json)} (distinct : (members.map Prod.fst).Nodup)
      (names : ∀ m ∈ members, Text.Encodable m.1) (each : ∀ m ∈ members, Plain depth m.2) :
    Plain (depth + 1) (.object members)

namespace Reader

/-! ## White space and heads -/

theorem skipSpace_of_solid {c : CodePoint} (solid : isSpace c = false) (t : Text) :
    skipSpace (c :: t) = c :: t :=
  List.dropWhile_cons_of_neg (Bool.not_eq_true _ ▸ solid)

/-- An integer starts with a digit or a sign, and so like no other value. -/
theorem exists_head_toString (n : Int) :
    ∃ c tail, points (toString n).toList = c :: tail ∧ isSpace c = false ∧ c.isChar ']' = false ∧
      c.isChar '"' = false ∧ c.isChar '[' = false ∧ c.isChar '\x7b' = false := by
  cases n with
  | ofNat n =>
    obtain ⟨c, tail, split, digit⟩ := exists_head_toDigits n
    have digit := isDigit_iff.1 digit
    have other (n : Nat) (outside : n < 48 ∨ 57 < n) : (c.val == n) = false :=
      beq_false_of_ne (by omega)
    refine ⟨c, tail, ?_, ?_, other 93 (by decide), other 34 (by decide), other 91 (by decide),
      other 123 (by decide)⟩
    · rw [Int.ofNat_eq_natCast, toList_toString_ofNat, split]
    · simp only [isSpace, other 32 (by decide), other 9 (by decide), other 10 (by decide),
        other 13 (by decide), Bool.or_self]
  | negSucc n =>
    rw [toList_toString_negSucc]
    exact ⟨45, points (Nat.toDigits 10 (n + 1)), rfl, by decide⟩

section Parts

variable {depth fuel k : Nat} {rest : Text}

/-- Reading of a word or a number, which no quote or bracket opens. -/
theorem value_eq_atom {c : CodePoint} {tail : Text}
    (other : c.isChar '"' = false ∧ c.isChar '[' = false ∧ c.isChar '\x7b' = false) :
    Reader.value (fuel + 1) depth (c :: tail) = atom (c :: tail) := by
  obtain ⟨quote, bracket, brace⟩ := other
  simp only [Reader.value, quote, bracket, brace, Bool.false_eq_true, if_false]

theorem stops_nil : Stops [] := by
  rintro c ⟨⟩

end Parts

end Reader

/-- The digits of an integer are not read if there are too many of them. -/
theorem parse_toString_of_long {n : Int} (long : Decimal.isShort n = false) (nesting : Nat) :
    parse (Text.ofString (toString n)) nesting = .error (.tooManyDigits (Decimal.digitCount n)) := by
  obtain ⟨c, tail, split, solid, -, other⟩ := Reader.exists_head_toString n
  have found : Reader.atom? (points (toString n).toList) = some (.int n, []) := by
    have read := Reader.atom?_int n Reader.stops_nil
    rwa [List.append_nil] at read
  have written : Text.ofString (toString n) = c :: tail := split
  have refused : Reader.atom (c :: tail) = .error (.tooManyDigits (Decimal.digitCount n)) := by
    rw [← split, Reader.atom, found]
    exact if_neg (Bool.not_eq_true _ ▸ long)
  rw [parse, written, Reader.skipSpace_of_solid solid, Reader.value_eq_atom other, refused]
  rfl

/-! ## The bytes of what was written -/

/-- All characters are ASCII. -/
def Ascii (cs : List Char) : Prop := ∀ c ∈ cs, c.toNat < 0x80

instance (cs : List Char) : Decidable (Ascii cs) :=
  decidable_of_iff (cs.all fun c => c.toNat < 0x80) (by simp [Ascii])

theorem ascii_cons {c : Char} {cs : List Char} : Ascii (c :: cs) ↔ c.toNat < 0x80 ∧ Ascii cs :=
  List.forall_mem_cons

theorem ascii_toString (n : Int) : Ascii (toString n).toList := by
  have digits (n : Nat) : Ascii (Nat.toDigits 10 n) := fun c mem => by
    have digit : c.isDigit := Nat.isDigit_of_mem_toDigits (by decide) (by decide) mem
    exact Nat.lt_of_le_of_lt (Reader.toNat_of_isDigit digit).2 (by decide)
  cases n with
  | ofNat n =>
    rw [Int.ofNat_eq_natCast, Reader.toList_toString_ofNat]
    exact digits n
  | negSucc n =>
    rw [Reader.toList_toString_negSucc]
    exact ascii_cons.2 ⟨by decide, digits (n + 1)⟩

theorem utf8?_points {cs : List Char} (ascii : Ascii cs) :
    (points cs).utf8? = some (cs.map fun c => UInt8.ofNat c.toNat) := by
  have value (c : Char) (mem : c ∈ cs) : (CodePoint.ofChar c).val = c.toNat :=
    Nat.mod_eq_of_lt (Nat.lt_trans (ascii c mem) (by decide))
  refine Text.utf8?_eq_some_iff.2 ⟨fun d mem => ?_, ?_⟩
  · obtain ⟨c, inside, rfl⟩ := List.mem_map.1 mem
    have bound := ascii c inside
    rw [CodePoint.isSurrogate, value c inside, Bool.and_eq_false_iff]
    exact .inl (decide_eq_false (by omega))
  · rw [points, List.flatMap_map, List.map_eq_flatMap]
    refine List.flatMap_congr fun c mem => ?_
    rw [CodePoint.utf8, value c mem, if_pos (ascii c mem)]

end Json

end AmountProofs
