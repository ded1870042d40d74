import AmountProofs.Text
import Mathlib.Algebra.Group.Nat.Defs
import Mathlib.Tactic.SplitIfs

/-!
UTF-8 reads what it writes, and nothing else.

A text has a UTF-8 form exactly if no unpaired surrogate stands in it (`Text.Encodable`). The reader
takes one code point after the other from the front; a byte string is read as a text exactly if it is
the form of this text (`Text.ofUtf8?_eq_some_iff`), so a byte string that no text is written as is
refused.
-/

namespace AmountProofs

namespace Text

/-- No unpaired surrogate stands in a text. -/
def Encodable (t : Text) : Prop := ∀ c ∈ t, c.isSurrogate = false

theorem utf8?_eq_some_iff {t : Text} {b : Bytes} :
    t.utf8? = some b ↔ t.Encodable ∧ t.flatMap CodePoint.utf8 = b := by
  have encodable : t.Encodable ↔ ¬t.any CodePoint.isSurrogate = true := by
    simp only [Encodable, List.any_eq_true, not_exists, not_and, Bool.not_eq_true]
  rw [utf8?, encodable]
  split_ifs with unpaired <;> simp [unpaired]

theorem continuation?_eq_some_iff {b : UInt8} {x : Nat} :
    continuation? b = some x ↔ b.toNat = 0x80 + x ∧ x < 64 := by
  have low : (0x80 : UInt8).toNat = 0x80 := rfl
  have high : (0xC0 : UInt8).toNat = 0xC0 := rfl
  simp only [continuation?, UInt8.le_iff_toNat_le, UInt8.lt_iff_toNat_lt, low, high]
  split_ifs with inside
  · rw [Option.some.injEq]
    omega
  · refine iff_of_false nofun ?_
    omega

theorem wellFormed?_eq_some_iff {least value : Nat} {c : CodePoint} :
    wellFormed? least value = some c ↔ c.val = value ∧ least ≤ value ∧ c.isSurrogate = false := by
  unfold wellFormed?
  split_ifs with bound formed
  · rw [Option.some.injEq]
    constructor
    · rintro rfl
      exact ⟨rfl, formed⟩
    · rintro ⟨rfl, -⟩
      rfl
  · refine iff_of_false nofun ?_
    rintro ⟨rfl, least_le, free⟩
    exact formed ⟨least_le, free⟩
  · refine iff_of_false nofun ?_
    rintro ⟨rfl, -⟩
    exact bound c.isLt

/-! ## The reader by the leading byte -/

section LeadingByte

variable {a : UInt8}

theorem ofUtf8?_of_one (one : a.toNat < 0x80) (rest : Bytes) :
    ofUtf8? (a :: rest) = do
      let c ← wellFormed? 0 a.toNat
      let later ← ofUtf8? rest
      return c :: later := by
  rw [ofUtf8?.eq_def]
  exact if_pos (UInt8.lt_iff_toNat_lt.2 one)

theorem ofUtf8?_of_two (more : 0x80 ≤ a.toNat) (two : a.toNat < 0xE0) (rest : Bytes) :
    ofUtf8? (a :: rest) = match rest with
      | b :: rest => do
        let x ← continuation? b
        let c ← wellFormed? 0x80 ((a.toNat - 0xC0) * 64 + x)
        if a.toNat < 0xC2 then none
        else do
          let later ← ofUtf8? rest
          return c :: later
      | _ => none := by
  rw [ofUtf8?.eq_def]
  simp only [UInt8.lt_iff_toNat_lt]
  exact (if_neg (Nat.not_lt.2 more)).trans (if_pos two)

theorem ofUtf8?_of_three (more : 0xE0 ≤ a.toNat) (three : a.toNat < 0xF0) (rest : Bytes) :
    ofUtf8? (a :: rest) = match rest with
      | b :: d :: rest => do
        let x ← continuation? b
        let y ← continuation? d
        let c ← wellFormed? 0x800 ((a.toNat - 0xE0) * 4096 + x * 64 + y)
        let later ← ofUtf8? rest
        return c :: later
      | _ => none := by
  rw [ofUtf8?.eq_def]
  simp only [UInt8.lt_iff_toNat_lt]
  exact (if_neg (Nat.not_lt.2 (Nat.le_trans (by decide) more))).trans
    ((if_neg (Nat.not_lt.2 more)).trans (if_pos three))

theorem ofUtf8?_of_four (more : 0xF0 ≤ a.toNat) (rest : Bytes) :
    ofUtf8? (a :: rest) = match rest with
      | b :: d :: e :: rest => do
        let x ← continuation? b
        let y ← continuation? d
        let z ← continuation? e
        let c ← wellFormed? 0x10000 ((a.toNat - 0xF0) * 262144 + x * 4096 + y * 64 + z)
        let later ← ofUtf8? rest
        return c :: later
      | _ => none := by
  rw [ofUtf8?.eq_def]
  simp only [UInt8.lt_iff_toNat_lt]
  exact (if_neg (Nat.not_lt.2 (Nat.le_trans (by decide) more))).trans
    ((if_neg (Nat.not_lt.2 (Nat.le_trans (by decide) more))).trans (if_neg (Nat.not_lt.2 more)))

end LeadingByte

/-! ## The four forms of a code point -/

section Forms

variable {c : CodePoint} {a b d e : UInt8} {x y z : Nat}

theorem ofNat_eq_of_eq_toNat {n : Nat} (same : n = a.toNat) : UInt8.ofNat n = a := by
  rw [same, UInt8.ofNat_toNat]

theorem utf8_eq_one (value : c.val = a.toNat) (one : a.toNat < 0x80) : c.utf8 = [a] := by
  rw [CodePoint.utf8, if_pos (by omega), ofNat_eq_of_eq_toNat value]

theorem utf8_eq_two (more : 0xC2 ≤ a.toNat) (two : a.toNat < 0xE0) (second : b.toNat = 0x80 + x)
    (small : x < 64) (value : c.val = (a.toNat - 0xC0) * 64 + x) : c.utf8 = [a, b] := by
  simp only [CodePoint.utf8, Nat.reducePow, Nat.pow_eq]
  rw [if_neg (by omega), if_pos (by omega), ofNat_eq_of_eq_toNat (a := a) (by omega),
    ofNat_eq_of_eq_toNat (a := b) (by omega)]

theorem utf8_eq_three (more : 0xE0 ≤ a.toNat) (three : a.toNat < 0xF0) (second : b.toNat = 0x80 + x)
    (small : x < 64) (third : d.toNat = 0x80 + y) (small' : y < 64)
    (value : c.val = (a.toNat - 0xE0) * 4096 + x * 64 + y) (least : 0x800 ≤ c.val) :
    c.utf8 = [a, b, d] := by
  simp only [CodePoint.utf8, Nat.reducePow, Nat.pow_eq]
  rw [if_neg (by omega), if_neg (by omega), if_pos (by omega), ofNat_eq_of_eq_toNat (a := a) (by omega),
    ofNat_eq_of_eq_toNat (a := b) (by omega), ofNat_eq_of_eq_toNat (a := d) (by omega)]

theorem utf8_eq_four (more : 0xF0 ≤ a.toNat) (second : b.toNat = 0x80 + x) (small : x < 64)
    (third : d.toNat = 0x80 + y) (small' : y < 64) (fourth : e.toNat = 0x80 + z) (small'' : z < 64)
    (value : c.val = (a.toNat - 0xF0) * 262144 + x * 4096 + y * 64 + z) (least : 0x10000 ≤ c.val) :
    c.utf8 = [a, b, d, e] := by
  simp only [CodePoint.utf8, Nat.reducePow, Nat.pow_eq]
  rw [if_neg (by omega), if_neg (by omega), if_neg (by omega), ofNat_eq_of_eq_toNat (a := a) (by omega),
    ofNat_eq_of_eq_toNat (a := b) (by omega), ofNat_eq_of_eq_toNat (a := d) (by omega),
    ofNat_eq_of_eq_toNat (a := e) (by omega)]

end Forms

/-- What is read starts with the code point whose bytes stand in front. -/
theorem exists_utf8_of_ofUtf8? {rest : Bytes} {a : UInt8} {t : Text}
    (read : ofUtf8? (a :: rest) = some t) :
    ∃ c tail later, t = c :: later ∧ c.isSurrogate = false ∧ a :: rest = c.utf8 ++ tail ∧
      ofUtf8? tail = some later := by
  rcases Nat.lt_or_ge a.toNat 0x80 with one | more
  · rw [ofUtf8?_of_one one] at read
    simp only [bind, Option.bind_eq_some_iff, wellFormed?_eq_some_iff] at read
    obtain ⟨c, ⟨value, -, free⟩, later, read, made⟩ := read
    cases made
    exact ⟨c, rest, later, rfl, free, by rw [utf8_eq_one value one]; rfl, read⟩
  · rcases Nat.lt_or_ge a.toNat 0xE0 with two | more
    · rw [ofUtf8?_of_two more two] at read
      split at read
      · rename_i b tail
        simp only [Option.bind_eq_bind, Option.bind_eq_some_iff, continuation?_eq_some_iff,
          wellFormed?_eq_some_iff] at read
        obtain ⟨x, ⟨second, small⟩, c, ⟨value, least, free⟩, read⟩ := read
        split_ifs at read with short
        obtain ⟨later, readTail, made⟩ := Option.bind_eq_some_iff.1 read
        cases made
        exact ⟨c, tail, later, rfl, free,
          by rw [utf8_eq_two (Nat.not_lt.1 short) two second small value]; rfl, readTail⟩
      · cases read
    · rcases Nat.lt_or_ge a.toNat 0xF0 with three | more
      · rw [ofUtf8?_of_three more three] at read
        split at read
        · rename_i b d tail
          simp only [bind, Option.bind_eq_some_iff, continuation?_eq_some_iff,
            wellFormed?_eq_some_iff] at read
          obtain ⟨x, ⟨second, small⟩, y, ⟨third, small'⟩, c, ⟨value, least, free⟩, later, read, made⟩ :=
            read
          cases made
          rw [← value] at least
          exact ⟨c, tail, later, rfl, free,
            by rw [utf8_eq_three more three second small third small' value least]; rfl, read⟩
        · cases read
      · rw [ofUtf8?_of_four more] at read
        split at read
        · rename_i b d e tail
          simp only [bind, Option.bind_eq_some_iff, continuation?_eq_some_iff,
            wellFormed?_eq_some_iff] at read
          obtain ⟨x, ⟨second, small⟩, y, ⟨third, small'⟩, z, ⟨fourth, small''⟩, c,
            ⟨value, least, free⟩, later, read, made⟩ := read
          cases made
          rw [← value] at least
          exact ⟨c, tail, later, rfl, free,
            by rw [utf8_eq_four more second small third small' fourth small'' value least]; rfl, read⟩
        · cases read

theorem toNat_ofNat_of_lt {n : Nat} (bound : n < 256) : (UInt8.ofNat n).toNat = n := by
  rw [UInt8.toNat_ofNat', Nat.mod_eq_of_lt bound]

theorem continuation?_ofNat {x : Nat} (small : x < 64) :
    continuation? (UInt8.ofNat (0x80 + x)) = some x :=
  continuation?_eq_some_iff.2 ⟨toNat_ofNat_of_lt (by omega), small⟩

/-- The bytes of a code point are read as it, whatever follows. -/
theorem ofUtf8?_utf8_append {c : CodePoint} (free : c.isSurrogate = false) (rest : Bytes) :
    ofUtf8? (c.utf8 ++ rest) = (ofUtf8? rest).map (c :: ·) := by
  have bound := c.isLt
  have found (least value : Nat) (same : c.val = value) (least_le : least ≤ value) :
      wellFormed? least value = some c :=
    wellFormed?_eq_some_iff.2 ⟨same, least_le, free⟩
  have last : c.val % 64 < 64 := Nat.mod_lt _ (by decide)
  have middle : c.val / 64 % 64 < 64 := Nat.mod_lt _ (by decide)
  have first : c.val / 4096 % 64 < 64 := Nat.mod_lt _ (by decide)
  simp only [CodePoint.utf8, Nat.reducePow, Nat.pow_eq, Nat.div_one]
  -- The steps of the reader are undone one by one: undone together, they are checked by computing
  -- with the place values of the bytes.
  split_ifs with one two three
  · have lead := toNat_ofNat_of_lt (n := c.val) (by omega)
    rw [List.cons_append, List.nil_append, ofUtf8?_of_one (by omega), lead,
      found 0 _ rfl (Nat.zero_le _)]
    cases ofUtf8? rest <;> rfl
  · have lead := toNat_ofNat_of_lt (n := 0xC0 + c.val / 64) (by omega)
    simp only [List.cons_append, List.nil_append]
    rw [ofUtf8?_of_two (by omega) (by omega), lead]
    simp only [Option.bind_eq_bind]
    rw [continuation?_ofNat last, Option.bind_some, found 0x80 _ (by omega) (by omega), Option.bind_some,
      if_neg (by omega)]
    cases ofUtf8? rest <;> rfl
  · have lead := toNat_ofNat_of_lt (n := 0xE0 + c.val / 4096) (by omega)
    simp only [List.cons_append, List.nil_append]
    rw [ofUtf8?_of_three (by omega) (by omega), lead]
    simp only [Option.bind_eq_bind]
    rw [continuation?_ofNat middle, Option.bind_some, continuation?_ofNat last, Option.bind_some,
      found 0x800 _ (by omega) (by omega), Option.bind_some]
    cases ofUtf8? rest <;> rfl
  · have lead := toNat_ofNat_of_lt (n := 0xF0 + c.val / 262144) (by omega)
    simp only [List.cons_append, List.nil_append]
    rw [ofUtf8?_of_four (by omega), lead]
    simp only [Option.bind_eq_bind]
    rw [continuation?_ofNat first, Option.bind_some, continuation?_ofNat middle, Option.bind_some,
      continuation?_ofNat last, Option.bind_some, found 0x10000 _ (by omega) (by omega),
      Option.bind_some]
    cases ofUtf8? rest <;> rfl

/-! ## Whole texts -/

/-- A text is read from its own form. -/
theorem ofUtf8?_flatMap_utf8 {t : Text} (encodable : t.Encodable) :
    ofUtf8? (t.flatMap CodePoint.utf8) = some t := by
  induction t with
  | nil => rfl
  | cons c t ih =>
    rw [List.flatMap_cons, ofUtf8?_utf8_append (encodable c List.mem_cons_self),
      ih fun d mem => encodable d (List.mem_cons_of_mem c mem)]
    rfl

/-- The text that is read has the bytes that it is read from as its form. -/
theorem utf8?_of_ofUtf8? {t : Text} {b : Bytes} (read : ofUtf8? b = some t) : t.utf8? = some b := by
  rw [utf8?_eq_some_iff]
  induction t generalizing b with
  | nil =>
    cases b with
    | nil => exact ⟨nofun, rfl⟩
    | cons a rest =>
      obtain ⟨_, _, _, made, -⟩ := exists_utf8_of_ofUtf8? read
      cases made
  | cons c t ih =>
    cases b with
    | nil =>
      rw [ofUtf8?] at read
      cases read
    | cons a rest =>
      obtain ⟨_, tail, _, made, free, split, read⟩ := exists_utf8_of_ofUtf8? read
      cases made
      obtain ⟨encodable, form⟩ := ih read
      refine ⟨List.forall_mem_cons.2 ⟨free, encodable⟩, ?_⟩
      rw [List.flatMap_cons, form, split]

/-- A byte string is read as a text exactly if it is the form of this text. -/
theorem ofUtf8?_eq_some_iff {t : Text} {b : Bytes} : ofUtf8? b = some t ↔ t.utf8? = some b := by
  refine ⟨utf8?_of_ofUtf8?, fun form => ?_⟩
  obtain ⟨encodable, rfl⟩ := utf8?_eq_some_iff.1 form
  exact ofUtf8?_flatMap_utf8 encodable

/-- What no text is written as is read as no text. -/
theorem ofUtf8?_eq_none_iff {b : Bytes} : ofUtf8? b = none ↔ ∀ t : Text, t.utf8? ≠ some b := by
  simp only [Option.eq_none_iff_forall_ne_some, ne_eq, ofUtf8?_eq_some_iff]

end Text

end AmountProofs
