import AmountProofs.Proofs.Base64Text
import Mathlib.Data.Set.Card

/-!
The texts that a value is read from.

The last digit of a text may have bits that belong to no byte, and complete groups may be followed by
padding; the reader looks at neither. So a byte string is read from more texts than the one that is
written for it: from sixteen, four or infinitely many, as its length modulo three says
(`Base64.encard_spells`). The written one is told from the others by its form alone, which is
`Base64.Tidy`. With the wire formats this says which texts a value is read from, how many they are,
and which one is written for it again (`Wire.Format.readText_variants`).
-/

namespace AmountProofs

namespace Base64

/-! ## Digits of a byte string -/

/-- The digits of a byte string. The bits of the last digit that belong to no byte are taken from a
further byte. -/
def digits (spare : UInt8) : Bytes → List Digit
  | [] => []
  | [a] => [firstDigit a, secondDigit a spare]
  | [a, b] => [firstDigit a, secondDigit a b, thirdDigit b spare]
  | a :: b :: c :: rest =>
    firstDigit a :: secondDigit a b :: thirdDigit b c :: fourthDigit c :: digits spare rest

/-- The number of digits of so many bytes. -/
def digitCount (size : Nat) : Nat := (4 * size + 2) / 3

theorem digitCount_cons (a b c : UInt8) (rest : Bytes) :
    digitCount (a :: b :: c :: rest).length = digitCount rest.length + 4 := by
  simp only [digitCount, List.length_cons]
  omega

@[simp] theorem length_digits (spare : UInt8) (b : Bytes) :
    (digits spare b).length = digitCount b.length := by
  induction b using digits.induct with
  | case1 => rfl
  | case2 a => simp [digits, digitCount]
  | case3 a b => simp [digits, digitCount]
  | case4 a b c rest ih =>
    rw [digitCount_cons, ← ih]
    rfl

@[simp] theorem regroup_digits (spare : UInt8) (b : Bytes) : regroup (digits spare b) = b := by
  induction b using digits.induct with
  | case1 => rfl
  | case2 a => rw [digits, regroup, ofNat_first]
  | case3 a b => rw [digits, regroup, ofNat_first, ofNat_second]
  | case4 a b c rest ih => rw [digits, regroup, ofNat_first, ofNat_second, ofNat_third, ih]

theorem firstDigit_ofNat (a b : Digit) :
    firstDigit (UInt8.ofNat (a.val * 4 + b.val / 16)) = a := by
  apply Fin.ext
  simp only [firstDigit, UInt8.toNat_ofNat', Fin.ofNat]
  omega

theorem secondDigit_ofNat (a b : Digit) {low : Nat} (small : low < 16) :
    secondDigit (UInt8.ofNat (a.val * 4 + b.val / 16)) (UInt8.ofNat (b.val * 16 + low)) = b := by
  apply Fin.ext
  simp only [secondDigit, UInt8.toNat_ofNat', Fin.ofNat]
  omega

theorem thirdDigit_ofNat (b c : Digit) {low : Nat} (small : low < 64) :
    thirdDigit (UInt8.ofNat (b.val * 16 + c.val / 4)) (UInt8.ofNat (c.val * 64 + low)) = c := by
  apply Fin.ext
  simp only [thirdDigit, UInt8.toNat_ofNat', Fin.ofNat]
  omega

theorem fourthDigit_ofNat (c d : Digit) :
    fourthDigit (UInt8.ofNat (c.val * 64 + d.val)) = d := by
  apply Fin.ext
  simp only [fourthDigit, UInt8.toNat_ofNat', Fin.ofNat]
  omega

/-- Digits are those of the bytes that they spell, unless one is left over alone. -/
theorem exists_digits_regroup {ds : List Digit} (grouped : ds.length % 4 ≠ 1) :
    ∃ spare, digits spare (regroup ds) = ds := by
  induction ds using regroup.induct with
  | case1 a b c d rest ih =>
    have middle : c.val / 4 < 16 := by omega
    have last : d.val < 64 := d.isLt
    rcases ih (by simp only [List.length_cons] at grouped; omega) with ⟨spare, same⟩
    refine ⟨spare, ?_⟩
    rw [regroup, digits, same, firstDigit_ofNat, secondDigit_ofNat a b middle,
      thirdDigit_ofNat b c last, fourthDigit_ofNat]
  | case2 a b c =>
    have middle : c.val / 4 < 16 := by omega
    refine ⟨UInt8.ofNat (c.val * 64 + 0), ?_⟩
    rw [regroup, digits, firstDigit_ofNat, secondDigit_ofNat a b middle,
      thirdDigit_ofNat b c (by decide)]
  | case3 a b =>
    refine ⟨UInt8.ofNat (b.val * 16 + 0), ?_⟩
    rw [regroup, digits, firstDigit_ofNat, secondDigit_ofNat a b (by decide)]
  | case4 ds four three two =>
    rcases ds with _ | ⟨a, _ | ⟨b, _ | ⟨c, _ | ⟨d, rest⟩⟩⟩⟩
    · exact ⟨0, rfl⟩
    · exact absurd rfl grouped
    · exact absurd rfl (two a b)
    · exact absurd rfl (three a b c)
    · exact absurd rfl (four a b c d rest)

/-! ## Bits that belong to no byte -/

/-- How many values the bits of the last digit take that belong to no byte: four bits after two
digits, two bits after three, none after a complete group. -/
def leeway (count : Nat) : Nat :=
  if count % 4 = 2 then 16 else if count % 4 = 3 then 4 else 1

theorem leeway_add_four (count : Nat) : leeway (count + 4) = leeway count := by
  simp only [leeway, Nat.add_mod_right]

theorem leeway_digitCount (size : Nat) :
    leeway (digitCount size) = if size % 3 = 1 then 16 else if size % 3 = 2 then 4 else 1 := by
  unfold leeway digitCount
  split_ifs <;> omega

/-- Of a further byte, the last digit holds as many of the highest bits as it has room for. -/
theorem digits_eq_iff {x y : UInt8} {b : Bytes} :
    digits x b = digits y b ↔
      x.toNat * leeway (digitCount b.length) / 256 =
        y.toNat * leeway (digitCount b.length) / 256 := by
  have left := x.toNat_lt
  have right := y.toNat_lt
  induction b using digits.induct with
  | case1 =>
    have room : leeway (digitCount ([] : Bytes).length) = 1 := leeway_digitCount 0
    rw [room]
    exact iff_of_true rfl (by omega)
  | case2 a =>
    have room : leeway (digitCount [a].length) = 16 := leeway_digitCount 1
    rw [room]
    simp only [digits, secondDigit, Fin.ext_iff, Fin.ofNat, List.cons.injEq, true_and, and_true]
    omega
  | case3 a b =>
    have room : leeway (digitCount [a, b].length) = 4 := leeway_digitCount 2
    rw [room]
    simp only [digits, thirdDigit, Fin.ext_iff, Fin.ofNat, List.cons.injEq, true_and, and_true]
    omega
  | case4 a b c rest ih =>
    rw [digitCount_cons, leeway_add_four]
    simpa only [digits, List.cons.injEq, true_and] using ih

/-! ## Texts of a byte string -/

/-- The text of a byte string with given bits in the room of its last digit, and with a number of
padding signs. -/
def spelling (spare : UInt8) (pads : Nat) (b : Bytes) : Text :=
  (digits spare b).map sign ++ List.replicate pads pad

/-- The number of padding signs that a number of digits lacks. -/
def lacking (count : Nat) : Nat := (4 - count % 4) % 4

theorem lacking_add_four (count : Nat) : lacking (count + 4) = lacking count := by
  simp only [lacking, Nat.add_mod_right]

theorem sign_injective : Function.Injective sign := by
  intro d e same
  have read := congrArg digit? same
  rw [digit?_sign, digit?_sign] at read
  exact Option.some.inj read

/-- The digits of a text and the number of its padding signs are told by it. -/
theorem map_sign_append_inj {ds es : List Digit} {m n : Nat}
    (same : ds.map sign ++ List.replicate m pad = es.map sign ++ List.replicate n pad) :
    ds = es ∧ m = n := by
  induction ds generalizing es with
  | nil =>
    cases es with
    | nil => exact ⟨rfl, by simpa using congrArg List.length same⟩
    | cons e es =>
      cases m with
      | zero => cases same
      | succ m => exact absurd (List.cons.inj same).1.symm (sign_ne_pad e)
  | cons d ds ih =>
    cases es with
    | nil =>
      cases n with
      | zero => cases same
      | succ n => exact absurd (List.cons.inj same).1 (sign_ne_pad d)
    | cons e es =>
      rcases List.cons.inj same with ⟨head, tail⟩
      rcases ih tail with ⟨rfl, rfl⟩
      exact ⟨by rw [sign_injective head], rfl⟩

/-- A byte string is spelled by its texts with any bits in the room of the last digit and any padding
that fills up the last group. -/
theorem spells_iff {t : Text} {b : Bytes} :
    Spells t b ↔ ∃ spare pads, t = spelling spare pads b ∧ Fills (digitCount b.length) pads := by
  constructor
  · intro spelled
    rcases spelled with ⟨ds, pads, rfl, fills, rfl⟩
    have grouped : ds.length % 4 ≠ 1 := by
      unfold Fills at fills
      omega
    rcases exists_digits_regroup grouped with ⟨spare, same⟩
    refine ⟨spare, pads, by rw [spelling, same], ?_⟩
    rwa [← length_digits spare, same]
  · intro varied
    rcases varied with ⟨spare, pads, rfl, fills⟩
    exact ⟨digits spare b, pads, rfl, by rwa [length_digits], regroup_digits spare b⟩

/-- What is written has no bits in the room of the last digit and as much padding as is lacking. -/
theorem encode_eq_spelling (b : Bytes) :
    encode b = spelling 0 (lacking (digitCount b.length)) b := by
  induction b using digits.induct with
  | case1 => rfl
  | case2 a => simp [encode, spelling, digits, lacking, digitCount]
  | case3 a b => simp [encode, spelling, digits, lacking, digitCount]
  | case4 a b c rest ih =>
    rw [encode, ih, digitCount_cons, lacking_add_four]
    rfl

theorem spelling_eq_iff {x y : UInt8} {m n : Nat} {b : Bytes} :
    spelling x m b = spelling y n b ↔
      x.toNat * leeway (digitCount b.length) / 256 =
        y.toNat * leeway (digitCount b.length) / 256 ∧ m = n := by
  rw [← digits_eq_iff]
  constructor
  · exact map_sign_append_inj
  · rintro ⟨same, rfl⟩
    rw [spelling, spelling, same]

/-! ## How many texts there are -/

/-- The number of texts that so many bytes are read from. -/
def variety (size : Nat) : ℕ∞ := if size % 3 = 0 then ⊤ else if size % 3 = 1 then 16 else 4

theorem variety_eq_leeway {size : Nat} (partly : size % 3 ≠ 0) :
    variety size = leeway (digitCount size) := by
  rw [variety, if_neg partly, leeway_digitCount]
  by_cases one : size % 3 = 1
  · rw [if_pos one, if_pos one]
    rfl
  · have two : size % 3 = 2 := by omega
    rw [if_neg one, if_neg one, if_pos two]
    rfl

/-- A last group that is not complete takes just the padding that it lacks. -/
theorem fills_iff_of_partly {size pads : Nat} (partly : size % 3 ≠ 0) :
    Fills (digitCount size) pads ↔ pads = lacking (digitCount size) := by
  unfold Fills lacking digitCount
  omega

/-- Complete groups take any padding. -/
theorem fills_of_complete {size : Nat} (complete : size % 3 = 0) (positive : 0 < size)
    (pads : Nat) : Fills (digitCount size) pads := by
  unfold Fills digitCount
  omega

/-- Every value that the room of the last digit can take is taken for some further byte. -/
theorem exists_spare {count : Nat} (i : Fin (leeway count)) :
    ∃ spare : UInt8, spare.toNat * leeway count / 256 = i.val := by
  refine ⟨UInt8.ofNat (i.val * (256 / leeway count)), ?_⟩
  have bound := i.isLt
  simp only [UInt8.toNat_ofNat']
  revert bound
  generalize i.val = v
  unfold leeway
  split_ifs <;> omega

theorem spare_lt (spare : UInt8) (count : Nat) :
    spare.toNat * leeway count / 256 < leeway count := by
  have byte := spare.toNat_lt
  unfold leeway
  split_ifs <;> omega

/-- The number of texts of a byte string hangs on its length alone. -/
theorem encard_spells {b : Bytes} (positive : 0 < b.length) :
    {t | Spells t b}.encard = variety b.length := by
  by_cases complete : b.length % 3 = 0
  · rw [variety, if_pos complete, Set.encard_eq_top_iff]
    apply Set.infinite_of_injective_forall_mem (f := fun pads => spelling 0 pads b)
    · exact fun m n same => (spelling_eq_iff.1 same).2
    · exact fun pads => spells_iff.2 ⟨0, pads, rfl, fills_of_complete complete positive pads⟩
  · choose spare holds using fun i : Fin (leeway (digitCount b.length)) => exists_spare i
    let text (i : Fin (leeway (digitCount b.length))) : Text :=
      spelling (spare i) (lacking (digitCount b.length)) b
    have separate : Function.Injective text := by
      intro i j same
      have value := (spelling_eq_iff.1 same).1
      rw [holds, holds] at value
      exact Fin.ext value
    have all : {t | Spells t b} = Set.range text := by
      ext t
      rw [Set.mem_ofPred_eq, spells_iff, Set.mem_range]
      constructor
      · intro varied
        rcases varied with ⟨x, pads, rfl, fills⟩
        refine ⟨⟨_, spare_lt x _⟩, spelling_eq_iff.2 ⟨holds _, ?_⟩⟩
        exact ((fills_iff_of_partly complete).1 fills).symm
      · intro listed
        rcases listed with ⟨i, rfl⟩
        exact ⟨spare i, _, rfl, (fills_iff_of_partly complete).2 rfl⟩
    rw [all, ← Set.image_univ, separate.encard_image, Set.encard_univ,
      ENat.card_eq_coe_fintype_card, Fintype.card_fin, variety_eq_leeway complete]

/-! ## The written text -/

/-- A text with no more padding than the last group lacks, whose last digit has no bits that belong
to no byte. -/
def Tidy (t : Text) : Prop :=
  ∃ ds : List Digit, t = ds.map sign ++ List.replicate (lacking ds.length) pad ∧
    ∀ d ∈ ds.getLast?, d.val % leeway ds.length = 0

/-- What the room of the last digit holds. -/
theorem exists_getLast?_digits {b : Bytes} (nonempty : b ≠ []) (spare : UInt8) :
    ∃ d, (digits spare b).getLast? = some d ∧
      d.val % leeway (digitCount b.length) =
        spare.toNat * leeway (digitCount b.length) / 256 := by
  have byte := spare.toNat_lt
  induction b using digits.induct with
  | case1 => exact absurd rfl nonempty
  | case2 a =>
    have room : leeway (digitCount [a].length) = 16 := leeway_digitCount 1
    refine ⟨secondDigit a spare, rfl, ?_⟩
    rw [room]
    simp only [secondDigit, Fin.ofNat]
    omega
  | case3 a b =>
    have room : leeway (digitCount [a, b].length) = 4 := leeway_digitCount 2
    refine ⟨thirdDigit b spare, rfl, ?_⟩
    rw [room]
    simp only [thirdDigit, Fin.ofNat]
    omega
  | case4 a b c rest ih =>
    rw [digitCount_cons, leeway_add_four]
    by_cases ended : rest = []
    · subst ended
      have room : leeway (digitCount ([] : Bytes).length) = 1 := leeway_digitCount 0
      refine ⟨fourthDigit c, rfl, ?_⟩
      rw [room]
      omega
    · rcases ih ended with ⟨d, last, held⟩
      refine ⟨d, ?_, held⟩
      simp [digits, List.getLast?_cons, last]

/-- Of the texts that a byte string is read from, the tidy one is written. -/
theorem tidy_iff {t : Text} {b : Bytes} (spelled : Spells t b) : Tidy t ↔ t = encode b := by
  rw [encode_eq_spelling]
  constructor
  · intro tidy
    rcases tidy with ⟨ds, form, clean⟩
    rcases spells_iff.1 spelled with ⟨spare, pads, rfl, -⟩
    rcases map_sign_append_inj form with ⟨rfl, rfl⟩
    rw [length_digits] at clean ⊢
    refine spelling_eq_iff.2 ⟨?_, rfl⟩
    by_cases empty : b = []
    · subst empty
      have room : leeway (digitCount ([] : Bytes).length) = 1 := leeway_digitCount 0
      have byte := spare.toNat_lt
      rw [room, Nat.mul_one, Nat.div_eq_of_lt byte]
      rfl
    · rcases exists_getLast?_digits empty spare with ⟨d, last, held⟩
      rw [← held, clean d last]
      simp
  · intro written
    subst written
    refine ⟨digits 0 b, by rw [length_digits]; rfl, fun d last => ?_⟩
    by_cases empty : b = []
    · subst empty
      cases last
    · rcases exists_getLast?_digits empty 0 with ⟨e, found, held⟩
      rw [found] at last
      cases last
      rw [length_digits, held]
      simp

end Base64

/-! ## Values as text -/

namespace Wire.Format

variable {S : Suite}

/-- The number of bytes of a value. -/
def size : Format → Nat
  | secretKey | publicKey | opening | commitment | handle => 32
  | ciphertext => 64
  | proof k => 32 * k.chunks
  | statement k => 32 * k.points
  | bundle k => 32 * k.points + 32 * k.chunks

theorem Accepts.length_eq {f : Format} {b : Bytes} (accepted : f.Accepts S b) :
    b.length = f.size := by
  cases f with
  | secretKey | opening => exact Chunks.IsScalar.sized accepted
  | publicKey | commitment | handle | ciphertext | statement k =>
    exact Chunks.ArePoints.sized accepted
  | proof k => exact Proof.WellFormed.sized accepted
  | bundle k => exact Bundle.WellFormed.length_eq accepted

theorem size_pos (f : Format) : 0 < f.size := by
  cases f with
  | secretKey | publicKey | opening | commitment | handle | ciphertext => decide
  | proof k | statement k | bundle k => cases k <;> decide

/-- A text is read as a value exactly if it spells the bytes of the value. -/
theorem readText_eq_ok_iff (apart : S.Separates) {f : Format} {v : f.Value S} {b : Bytes}
    (read : f.read S (.bytes b) = .ok v) {t : Text} :
    f.readText S t = .ok v ↔ Base64.Spells t b := by
  have format := canonical apart f
  constructor
  · intro decoded
    unfold readText at decoded
    rcases digits : Base64.decode t with fault | c
    · rw [digits] at decoded
      cases decoded
    · rw [digits] at decoded
      -- A value tells its bytes, so both byte strings are the same.
      have first := (format.of_read (Payload.content?_bytes b) read).2.1
      have second := (format.of_read (Payload.content?_bytes c) decoded).2.1
      rw [Except.ok.inj (first.symm.trans second)]
      exact Base64.decode_eq_ok_iff.1 digits
  · intro spelled
    rw [readText_of_spells spelled, read]

/-- A value that was read from a text is read from all texts that differ from the written one in the
room of the last digit or in the padding behind complete groups, and from no other. By the length of
the format, these are four, sixteen or infinitely many texts. Of all of them just the tidy one is
written for the value. -/
theorem readText_variants (apart : S.Separates) {f : Format} {t : Text} {v : f.Value S}
    (decoded : f.readText S t = .ok v) :
    ∃ b, f.write v = .ok b ∧ b.length = f.size ∧
      (∀ u, f.readText S u = .ok v ↔
        ∃ spare pads, u = Base64.spelling spare pads b ∧
          Base64.Fills (Base64.digitCount f.size) pads) ∧
      {u | f.readText S u = .ok v}.encard = Base64.variety f.size ∧
      ∀ u, f.writeText v = .ok u ↔ f.readText S u = .ok v ∧ Base64.Tidy u := by
  have read : ∃ b, f.read S (.bytes b) = .ok v := by
    unfold readText at decoded
    split at decoded
    · exact ⟨_, decoded⟩
    · cases decoded
  rcases read with ⟨b, read⟩
  have accepted := (canonical apart f).of_read (Payload.content?_bytes b) read
  have sized := accepted.1.length_eq
  refine ⟨b, accepted.2.1, sized, fun u => ?_, ?_, fun u => ?_⟩
  · rw [readText_eq_ok_iff apart read, Base64.spells_iff, sized]
  · simp only [readText_eq_ok_iff apart read]
    rw [Base64.encard_spells (sized ▸ f.size_pos), sized]
  · rw [readText_eq_ok_iff apart read, writeText, accepted.2.1]
    constructor
    · intro written
      cases written
      have spelled := Base64.spells_encode b
      exact ⟨spelled, (Base64.tidy_iff spelled).2 rfl⟩
    · intro given
      rw [(Base64.tidy_iff given.1).1 given.2]
      rfl

open Base64 in
/-- A proof of zeros is read from a text with a padding sign too many, and the neutral key from a text
whose last digit is one; neither text is written for what was read. -/
theorem readText_variants_of_zeros :
    let zeros (n : Nat) : Text := List.replicate n (sign 0)
    (∃ v, (proof .zeroCiphertext).readText Suite.standard (zeros 128 ++ [pad]) = .ok v ∧
      (proof .zeroCiphertext).writeText v = .ok (zeros 128) ∧
      {u | (proof .zeroCiphertext).readText Suite.standard u = .ok v}.encard = ⊤) ∧
    publicKey.readText Suite.standard (zeros 42 ++ [sign 1, pad]) = .ok ⟨.neutral⟩ ∧
    publicKey.writeText (⟨.neutral⟩ : PublicKey Suite.standard) = .ok (zeros 43 ++ [pad]) ∧
    {u | publicKey.readText Suite.standard u = .ok ⟨.neutral⟩}.encard = 4 := by
  intro zeros
  have apart := Suite.standardReading.separates
  have spelled : Spells (zeros 128 ++ [pad]) (List.replicate 96 0) :=
    spells_iff.2 ⟨0, 1, by decide, .inl ⟨by decide, by decide⟩⟩
  have formed : Proof.WellFormed Suite.standard .zeroCiphertext (List.replicate 96 0) :=
    ⟨rfl, fun i => .inl (by fin_cases i <;> rfl), by decide⟩
  have surplus : (proof .zeroCiphertext).readText Suite.standard (zeros 128 ++ [pad]) =
      .ok (Proof.ofChunks .zeroCiphertext (List.replicate 96 0)) := by
    rw [readText_of_spells spelled]
    exact Proof.ofPayload_of_wellFormed rfl formed
  have loose : publicKey.readText Suite.standard (zeros 42 ++ [sign 1, pad]) = .ok ⟨.neutral⟩ := rfl
  rcases readText_variants apart surplus with ⟨-, -, -, -, many, written⟩
  rcases readText_variants apart loose with ⟨-, -, -, -, four, -⟩
  have plain : Spells (zeros 128) (List.replicate 96 0) := by
    exact spells_iff.2 ⟨0, 0, by decide, .inl ⟨by decide, by decide⟩⟩
  refine ⟨⟨_, surplus, (written _).2 ⟨?_, ?_⟩, many⟩, loose, rfl, four⟩
  · rw [readText_of_spells plain]
    exact Proof.ofPayload_of_wellFormed rfl formed
  · rw [tidy_iff plain]
    decide

end Wire.Format

end AmountProofs
