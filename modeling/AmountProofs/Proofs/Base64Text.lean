import AmountProofs.Proofs.Outcomes
import AmountProofs.Proofs.WireFormats
import Mathlib.Tactic.SplitIfs

/-!
Values as Base64 text.

`Base64.Spells` says which texts are read and as what: the signs of some digits, and behind them
padding signs that fill up the last group. The reader gives a byte string exactly for these texts
(`Base64.decode_eq_ok_iff`), and what the writer makes is one of them (`Base64.spells_encode`). With
the wire formats it follows what becomes of any text that is read as a value, and that a value that
was read once is written as a text and read back as the same one (`Wire.Format.readText_outcome`).
-/

namespace AmountProofs

namespace Base64

/-! ## Signs -/

theorem val_sign (d : Digit) :
    (sign d).val = if d.val < 26 then 65 + d.val else if d.val < 52 then 71 + d.val
      else if d.val < 62 then d.val - 4 else if d.val = 62 then 43 else 47 := by
  revert d
  decide

theorem digit?_sign (d : Digit) : digit? (sign d) = some d := by
  revert d
  decide

theorem sign_ne_pad (d : Digit) : sign d ≠ pad := by
  revert d
  decide

theorem sign_lt (d : Digit) : (sign d).val < 128 := by
  revert d
  decide

/-- A character is read as a digit exactly if it is the sign of this digit. -/
theorem digit?_eq_some_iff {c : CodePoint} {d : Digit} : digit? c = some d ↔ c = sign d := by
  refine ⟨fun read => Fin.ext ?_, fun same => same ▸ digit?_sign d⟩
  rw [val_sign]
  unfold digit? at read
  split_ifs at read with upper lower decimal plus slash <;> cases read
  · simp only [Fin.ofNat]
    split_ifs <;> omega
  · simp only [Fin.ofNat]
    split_ifs <;> omega
  · simp only [Fin.ofNat]
    split_ifs <;> omega
  · exact plus
  · exact slash

/-! ## Texts that are read -/

/-- A number of padding signs fills up the last group of digits: two or three digits take as many
signs as are missing. Behind complete groups any number is passed over, if there is a group at all. -/
def Fills (count pads : Nat) : Prop :=
  count % 4 = 0 ∧ (count = 0 → pads = 0) ∨ 2 ≤ count % 4 ∧ count % 4 + pads = 4

/-- A text is made of the signs of digits that give a byte string, and of padding that fills up their
last group. -/
def Spells (t : Text) (b : Bytes) : Prop :=
  ∃ (ds : List Digit) (pads : Nat),
    t = ds.map sign ++ List.replicate pads pad ∧ Fills ds.length pads ∧ regroup ds = b

theorem completes_iff {count pads : Nat} :
    completes count pads = true ↔ 2 ≤ count % 4 ∧ 4 ≤ count % 4 + pads := by
  rw [completes, Bool.and_eq_true, decide_eq_true_iff, decide_eq_true_iff]

/-- The end of a text is the end of the digits if the last group is complete. -/
theorem scan_nil_eq_ok_iff {count : Nat} {padded : Bool} {pads : Nat} {ds : List Digit} :
    scan count padded pads [] = .ok ds ↔ ds = [] ∧ count % 4 = 0 := by
  unfold scan
  split_ifs with complete lone
  · exact ⟨fun same => ⟨(Except.ok.inj same).symm, complete⟩, fun given => given.1 ▸ rfl⟩
  · exact iff_of_false nofun fun given => complete given.2
  · exact iff_of_false nofun fun given => complete given.2

/-- Once a padding sign has come, only such signs are read, as many as the last group takes. -/
theorem scan_padded_eq_ok_iff {count pads : Nat} {t : Text} {ds : List Digit}
    (early : count % 4 < 2 → pads = 0) (incomplete : count % 4 + pads < 4) :
    scan count true pads t = .ok ds ↔
      ds = [] ∧ ∃ n, t = List.replicate n pad ∧
        (count % 4 = 0 ∨ 2 ≤ count % 4 ∧ count % 4 + (pads + n) = 4) := by
  induction t generalizing pads with
  | nil =>
    rw [scan_nil_eq_ok_iff]
    refine and_congr_right fun _ => ⟨fun complete => ⟨0, rfl, .inl complete⟩, ?_⟩
    rintro ⟨n, empty, complete | ⟨-, sum⟩⟩
    · exact complete
    · cases n with
      | zero => omega
      | succ n => cases empty
  | cons c rest ih =>
    unfold scan
    by_cases sign : c = pad
    · subst sign
      rw [if_pos rfl]
      by_cases full : completes count (pads + 1) = true
      · -- The group is complete with this sign, and the text has to end behind it.
        rw [if_pos full]
        rw [completes_iff] at full
        cases rest with
        | nil =>
          refine ⟨fun same => ⟨(Except.ok.inj same).symm, 1, rfl, .inr ⟨full.1, by omega⟩⟩, ?_⟩
          rintro ⟨rfl, -⟩
          rfl
        | cons d rest =>
          refine iff_of_false nofun ?_
          rintro ⟨-, n, same, complete⟩
          have length := congrArg List.length same
          rw [List.length_replicate, List.length_cons, List.length_cons] at length
          omega
      · rw [if_neg full]
        rw [completes_iff] at full
        rw [ih (by split_ifs <;> omega) (by split_ifs <;> omega)]
        refine and_congr_right fun _ => ⟨?_, ?_⟩
        · rintro ⟨n, rfl, complete⟩
          refine ⟨n + 1, rfl, ?_⟩
          split_ifs at complete <;> omega
        · rintro ⟨n, same, complete⟩
          cases n with
          | zero => cases same
          | succ n =>
            refine ⟨n, (List.cons.inj same).2, ?_⟩
            split_ifs <;> omega
    · rw [if_neg sign]
      refine iff_of_false (by cases digit? c <;> nofun) ?_
      rintro ⟨-, n, same, -⟩
      cases n with
      | zero => cases same
      | succ n => exact sign (List.cons.inj same).1

/-- Digits are read up to the first padding sign. -/
theorem scan_eq_ok_iff {count : Nat} {t : Text} {ds : List Digit} :
    scan count false 0 t = .ok ds ↔
      ∃ n, t = ds.map sign ++ List.replicate n pad ∧
        ((count + ds.length) % 4 = 0 ∨
          2 ≤ (count + ds.length) % 4 ∧ (count + ds.length) % 4 + n = 4) := by
  induction t generalizing count ds with
  | nil =>
    rw [scan_nil_eq_ok_iff]
    constructor
    · rintro ⟨rfl, complete⟩
      exact ⟨0, rfl, .inl complete⟩
    · rintro ⟨n, same, complete⟩
      obtain ⟨noDigits, noPads⟩ := List.append_eq_nil_iff.1 same.symm
      rw [List.map_eq_nil_iff] at noDigits
      rw [List.replicate_eq_nil_iff] at noPads
      subst noDigits noPads
      rw [List.length_nil] at complete
      exact ⟨rfl, by omega⟩
  | cons c rest ih =>
    by_cases padding : c = pad
    · -- No digit follows, so the rest is read as the padded one is.
      subst padding
      have first : scan count false 0 (pad :: rest) = scan count true 0 (pad :: rest) := by
        simp only [scan, if_pos]
      rw [first, scan_padded_eq_ok_iff (fun _ => rfl) (by omega)]
      constructor
      · rintro ⟨rfl, n, same, complete⟩
        exact ⟨n, same, by simpa using complete⟩
      · rintro ⟨n, same, complete⟩
        cases ds with
        | nil => exact ⟨rfl, n, same, by simpa using complete⟩
        | cons d ds => exact absurd (List.cons.inj same).1.symm (sign_ne_pad d)
    · unfold scan
      rw [if_neg padding]
      cases read : digit? c with
      | none =>
        refine iff_of_false nofun ?_
        rintro ⟨n, same, -⟩
        cases ds with
        | nil =>
          cases n with
          | zero => cases same
          | succ n => exact padding (List.cons.inj same).1
        | cons d ds =>
          rw [(List.cons.inj same).1, digit?_sign] at read
          cases read
      | some d =>
        rw [digit?_eq_some_iff] at read
        subst read
        have tail (ds : List Digit) : scan (count + 1) false 0 rest = .ok ds ↔ _ := ih
        constructor
        · intro scanned
          cases run : scan (count + 1) false 0 rest with
          | error e =>
            rw [run] at scanned
            cases scanned
          | ok later =>
            rw [run] at scanned
            cases scanned
            obtain ⟨n, rfl, complete⟩ := (tail later).1 run
            exact ⟨n, rfl, by rw [List.length_cons]; omega⟩
        · rintro ⟨n, same, complete⟩
          cases ds with
          | nil =>
            cases n with
            | zero => cases same
            | succ n => exact absurd (List.cons.inj same).1 (sign_ne_pad d)
          | cons d' ds =>
            obtain ⟨head, rest_eq⟩ := List.cons.inj same
            have digit : d = d' := Option.some.inj (by rw [← digit?_sign, head, digit?_sign])
            have run := (tail ds).2 ⟨n, rest_eq, by rw [List.length_cons] at complete; omega⟩
            rw [run, digit]
            rfl

/-- A text is read as a byte string exactly if it spells it. -/
theorem decode_eq_ok_iff {t : Text} {b : Bytes} : decode t = .ok b ↔ Spells t b := by
  constructor
  · intro decoded
    unfold decode at decoded
    split_ifs at decoded with foreign leading
    rcases run : scan 0 false 0 t with e | ds
    · rw [run] at decoded
      cases decoded
    · rw [run] at decoded
      cases decoded
      obtain ⟨n, rfl, complete⟩ := scan_eq_ok_iff.1 run
      rw [Nat.zero_add] at complete
      refine ⟨ds, n, rfl, ?_, rfl⟩
      rcases complete with complete | missing
      · refine .inl ⟨complete, fun none => ?_⟩
        cases List.eq_nil_of_length_eq_zero none
        cases n with
        | zero => rfl
        | succ n => exact absurd rfl leading
      · exact .inr missing
  · rintro ⟨ds, n, rfl, fills, rfl⟩
    have complete : (0 + ds.length) % 4 = 0 ∨
        2 ≤ (0 + ds.length) % 4 ∧ (0 + ds.length) % 4 + n = 4 := by
      rw [Nat.zero_add]
      exact fills.imp_left And.left
    have ascii : ¬(ds.map sign ++ List.replicate n pad).any (fun c => 128 ≤ c.val) = true := by
      simp only [List.any_eq_true, List.mem_append, List.mem_map, List.mem_replicate, not_exists]
      rintro c ⟨⟨d, -, rfl⟩ | ⟨-, rfl⟩, foreign⟩
      · exact absurd (sign_lt d) (Nat.not_lt.2 (of_decide_eq_true foreign))
      · exact absurd foreign (by decide)
    have led : ¬(ds.map sign ++ List.replicate n pad).head? = some pad := by
      cases ds with
      | nil =>
        rcases fills with ⟨-, none⟩ | ⟨two, -⟩
        · cases none rfl
          nofun
        · exact absurd two (by decide)
      | cons d ds => exact fun same => sign_ne_pad d (Option.some.inj same)
    rw [decode, if_neg ascii, if_neg led, scan_eq_ok_iff.2 ⟨n, rfl, complete⟩]
    rfl

/-! ## Texts that are written -/

/-- The first two digits of a group hold its first byte. -/
theorem ofNat_first (a b : UInt8) :
    UInt8.ofNat ((firstDigit a).val * 4 + (secondDigit a b).val / 16) = a := by
  have byte := a.toNat_lt
  have next := b.toNat_lt
  apply UInt8.toNat_inj.1
  simp only [UInt8.toNat_ofNat', firstDigit, secondDigit, Fin.ofNat]
  omega

theorem ofNat_second (a b c : UInt8) :
    UInt8.ofNat ((secondDigit a b).val * 16 + (thirdDigit b c).val / 4) = b := by
  have byte := b.toNat_lt
  have next := c.toNat_lt
  apply UInt8.toNat_inj.1
  simp only [UInt8.toNat_ofNat', secondDigit, thirdDigit, Fin.ofNat]
  omega

theorem ofNat_third (b c : UInt8) :
    UInt8.ofNat ((thirdDigit b c).val * 64 + (fourthDigit c).val) = c := by
  have byte := c.toNat_lt
  apply UInt8.toNat_inj.1
  simp only [UInt8.toNat_ofNat', thirdDigit, fourthDigit, Fin.ofNat]
  omega

/-- What is written for a byte string spells it. -/
theorem spells_encode (b : Bytes) : Spells (encode b) b := by
  induction b using encode.induct with
  | case1 => exact ⟨[], 0, rfl, .inl ⟨rfl, fun _ => rfl⟩, rfl⟩
  | case2 a =>
    refine ⟨[firstDigit a, secondDigit a 0], 2, rfl, .inr ⟨Nat.le_refl 2, rfl⟩, ?_⟩
    rw [regroup, ofNat_first]
  | case3 a b =>
    refine ⟨[firstDigit a, secondDigit a b, thirdDigit b 0], 1, rfl,
      .inr ⟨Nat.le_succ 2, rfl⟩, ?_⟩
    rw [regroup, ofNat_first, ofNat_second]
  | case4 a b c rest ih =>
    obtain ⟨ds, pads, written, fills, digits⟩ := ih
    refine ⟨firstDigit a :: secondDigit a b :: thirdDigit b c :: fourthDigit c :: ds, pads, ?_, ?_, ?_⟩
    · rw [encode, written]
      rfl
    · simp only [Fills, List.length_cons] at fills ⊢
      omega
    · rw [regroup, ofNat_first, ofNat_second, ofNat_third, digits]

theorem decode_encode (b : Bytes) : decode (encode b) = .ok b :=
  decode_eq_ok_iff.2 (spells_encode b)

end Base64

/-! ## Readers and the bytes of what they are given -/

variable {S : Suite} {k : ProofKind}

open Outcome

/-- What is read as a named point from any payload is read from thirty-two bytes. -/
theorem Point.exists_bytes_of_ofNamed {role : String} {data : Payload} {p : Point S}
    (decoded : ofNamed role data = .ok p) :
    ∃ b, b.length = 32 ∧ ofNamed role (.bytes b) = .ok p := by
  simp only [ofNamed, bind_eq_ok_iff, guard_eq_ok_iff] at decoded
  obtain ⟨-, -, -, read⟩ := decoded
  obtain ⟨size, b, copied, found⟩ := ofPayload_eq_ok_iff.1 read
  have sized : b.length = 32 := Except.ok.inj ((Payload.size_of_toBytes copied).symm.trans size)
  exact ⟨b, sized, (ofNamed_of_content role rfl sized).trans (ofWire_eq_ok_iff.2 found)⟩

theorem Scalar.exists_bytes_of_ofNamed {role short : String} {data : Payload} {s : Scalar}
    (decoded : ofNamed role short data = .ok s) :
    ∃ b, ofNamed role short (.bytes b) = .ok s := by
  have copied : ∃ b, data.toBytes = .ok b := by
    simp only [ofNamed, ofCanonical, bind_eq_ok_iff, guard_eq_ok_iff] at decoded
    obtain ⟨size, measured, sized, found, read, -⟩ := decoded
    obtain ⟨_, again, read⟩ := read
    rw [measured] at again
    cases again
    rw [if_neg sized] at read
    obtain ⟨b, copied, -⟩ := bind_eq_ok_iff.1 read
    exact ⟨b, copied⟩
  obtain ⟨b, copied⟩ := copied
  refine ⟨b, ?_⟩
  rw [← decoded]
  simp only [ofNamed, ofCanonical, Payload.size_of_toBytes copied, copied]
  rfl

/-- The two halves of a ciphertext are read from thirty-two bytes each. -/
theorem Ciphertext.exists_bytes_of_ofPayload {data : Payload} {c : Ciphertext S}
    (decoded : ofPayload data = .ok c) : ∃ b, (ofPayload (.bytes b) : Except Failure _) = .ok c := by
  simp only [ofPayload, Commitment.ofPayload, Handle.ofPayload, bind_eq_ok_iff, guard_eq_ok_iff, pure,
    Except.pure, Except.ok.injEq] at decoded
  obtain ⟨-, -, -, _, ⟨commitment, first, rfl⟩, _, ⟨handle, second, rfl⟩, rfl⟩ := decoded
  obtain ⟨b, sized, readFirst⟩ := Point.exists_bytes_of_ofNamed first
  obtain ⟨b', sized', readSecond⟩ := Point.exists_bytes_of_ofNamed second
  refine ⟨b ++ b', ?_⟩
  have whole : (b ++ b').length = 64 := by rw [List.length_append, sized, sized']
  have half : (b ++ b').take 32 = b := List.take_left' sized
  have other : (b ++ b').drop 32 = b' := List.drop_left' sized
  simp only [ofPayload, Commitment.ofPayload, Handle.ofPayload, Payload.size, Payload.slice, whole,
    half, List.take_of_length_le whole.le, List.drop_zero, other, readFirst, readSecond]
  rfl

theorem Statement.exists_bytes_of_ofPayload {data : Payload} {s : Statement S k}
    (decoded : ofPayload k data = .ok s) : ∃ b, ofPayload k (.bytes b) = .ok s := by
  have copied : ∃ b, data.toBytes = .ok b := by
    simp only [ofPayload, bind_eq_ok_iff, guard_eq_ok_iff] at decoded
    obtain ⟨-, -, -, b, copied, -⟩ := decoded
    exact ⟨b, copied⟩
  obtain ⟨b, copied⟩ := copied
  refine ⟨b, ?_⟩
  rw [← decoded]
  simp only [ofPayload, Payload.size_of_toBytes copied, copied]
  rfl

theorem Bundle.exists_bytes_of_ofPayload {data : Payload} {v : Bundle S k}
    (decoded : ofPayload k data = .ok v) : ∃ b, ofPayload k (.bytes b) = .ok v := by
  have copied : ∃ b, data.toBytes = .ok b := by
    simp only [ofPayload, within, mapError_eq_ok_iff, bind_eq_ok_iff, guard_eq_ok_iff] at decoded
    obtain ⟨-, -, -, b, copied, -⟩ := decoded
    exact ⟨b, copied⟩
  obtain ⟨b, copied⟩ := copied
  refine ⟨b, ?_⟩
  rw [← decoded]
  simp only [ofPayload, Payload.size_of_toBytes copied, copied]
  rfl

namespace Wire.Format

/-- A value that is read from any payload is read from a byte string. -/
theorem exists_bytes_of_read {f : Format} {data : Payload} {v : f.Value S}
    (decoded : f.read S data = .ok v) : ∃ b, f.read S (.bytes b) = .ok v := by
  cases f with
  | secretKey | opening =>
    obtain ⟨s, read, made⟩ := bind_eq_ok_iff.1 decoded
    obtain ⟨b, read⟩ := Scalar.exists_bytes_of_ofNamed read
    exact ⟨b, bind_eq_ok_iff.2 ⟨s, read, made⟩⟩
  | publicKey | commitment | handle =>
    obtain ⟨p, read, made⟩ := bind_eq_ok_iff.1 decoded
    obtain ⟨b, -, read⟩ := Point.exists_bytes_of_ofNamed read
    exact ⟨b, bind_eq_ok_iff.2 ⟨p, read, made⟩⟩
  | ciphertext => exact Ciphertext.exists_bytes_of_ofPayload decoded
  | proof k =>
    obtain ⟨b, -, formed, rfl⟩ := Proof.exists_wellFormed_of_ofPayload decoded
    exact ⟨b, Proof.ofPayload_of_wellFormed rfl formed⟩
  | statement k => exact Statement.exists_bytes_of_ofPayload decoded
  | bundle k => exact Bundle.exists_bytes_of_ofPayload decoded

/-! ## Values as text -/

theorem readText_of_spells {f : Format} {t : Text} {b : Bytes} (spelled : Base64.Spells t b) :
    f.readText S t = f.read S (.bytes b) := by
  rw [readText, Base64.decode_eq_ok_iff.2 spelled]

theorem misread_of_not_spells {f : Format} {t : Text} (unspelled : ∀ b, ¬Base64.Spells t b) :
    ∃ e, f.readText S t = .error e ∧ e.Misread .deserialization := by
  rw [readText]
  rcases decoded : Base64.decode t with fault | b
  · exact ⟨_, rfl, Failure.misread_malformed _ _⟩
  · exact absurd (Base64.decode_eq_ok_iff.1 decoded) (unspelled b)

/-- A value that was read is written as a text that spells its bytes and is read back from it, and so
is no other. A text is read as a value exactly if it spells the bytes of one, and these are written
for the value; any other text is malformed: as text, or, if it spells bytes, as a value. -/
theorem readText_outcome (apart : S.Separates) (f : Format) :
    (∀ (data : Payload) (v : f.Value S), f.read S data = .ok v →
      ∃ b t, f.write v = .ok b ∧ f.writeText v = .ok t ∧ Base64.Spells t b ∧
        f.readText S t = .ok v) ∧
    ∀ t : Text,
      (∃ b v, Base64.Spells t b ∧ f.readText S t = .ok v ∧ f.write v = .ok b) ∨
      (∃ b e, Base64.Spells t b ∧ ¬f.Accepts S b ∧ f.readText S t = .error e ∧
        e.Misread f.errorKind) ∨
      (∀ b, ¬Base64.Spells t b) ∧
        ∃ e, f.readText S t = .error e ∧ e.Misread .deserialization := by
  have format := canonical apart f
  refine ⟨fun data v decoded => ?_, fun t => ?_⟩
  · obtain ⟨b, read⟩ := exists_bytes_of_read decoded
    have written := (format.of_read rfl read).2.1
    refine ⟨b, Base64.encode b, written, ?_, Base64.spells_encode b, ?_⟩
    · rw [writeText, written]
      rfl
    · rw [readText_of_spells (Base64.spells_encode b), read]
  · by_cases spelled : ∃ b, Base64.Spells t b
    · obtain ⟨b, spelled⟩ := spelled
      rw [readText_of_spells spelled]
      by_cases accepted : f.Accepts S b
      · obtain ⟨v, read, written, -⟩ := format.of_accepts (Payload.content?_bytes b) accepted
        exact .inl ⟨b, v, spelled, read, written⟩
      · obtain ⟨e, failed, misread⟩ := format.misread (Payload.content?_bytes b) accepted
        exact .inr (.inl ⟨b, e, spelled, accepted, failed, misread⟩)
    · push Not at spelled
      exact .inr (.inr ⟨spelled, misread_of_not_spells spelled⟩)

/-- The neutral key, read from a view, has a text. The text of ten bytes is no proof and is rejected
as one, and a text that goes on behind its padding spells nothing. -/
theorem readText_outcome_of_neutralKey :
    (∃ b t, publicKey.write (⟨.neutral⟩ : PublicKey Suite.standard) = .ok b ∧
      publicKey.writeText (⟨.neutral⟩ : PublicKey Suite.standard) = .ok t ∧ Base64.Spells t b ∧
        publicKey.readText Suite.standard t = .ok ⟨.neutral⟩) ∧
    (∃ e, (proof .zeroCiphertext).readText Suite.standard (Text.ofString "AAAAAAAAAAAAAA==") =
      .error e ∧ e.Misread (.rejection .zeroCiphertext)) ∧
    ∃ e, (proof .zeroCiphertext).readText Suite.standard (Text.ofString "AAA=A") = .error e ∧
      e.Misread .deserialization := by
  have apart := Suite.standardReading.separates
  have key : publicKey.read Suite.standard (.view (List.replicate 32 0)) = .ok ⟨.neutral⟩ := rfl
  have short : Base64.decode (Text.ofString "AAAAAAAAAAAAAA==") = .ok (List.replicate 10 0) := rfl
  have broken : Base64.decode (Text.ofString "AAA=A") = .error .excessData := rfl
  refine ⟨(readText_outcome apart publicKey).1 _ _ key, ?_, ?_⟩
  · rcases (readText_outcome apart (proof .zeroCiphertext)).2 (Text.ofString "AAAAAAAAAAAAAA==") with
      ⟨b, v, spelled, read, -⟩ | ⟨-, e, -, -, failed⟩ | ⟨unspelled, -⟩
    · rw [← Base64.decode_eq_ok_iff, short] at spelled
      cases spelled
      rw [readText, short] at read
      obtain ⟨b, given, formed, -⟩ := Proof.exists_wellFormed_of_ofPayload read
      cases given
      exact absurd formed.sized (by decide)
    · exact ⟨e, failed⟩
    · exact absurd (Base64.decode_eq_ok_iff.1 short) (unspelled _)
  · have unspelled (b : Bytes) : ¬Base64.Spells (Text.ofString "AAA=A") b := by
      rw [← Base64.decode_eq_ok_iff, broken]
      nofun
    rcases (readText_outcome apart (proof .zeroCiphertext)).2 (Text.ofString "AAA=A") with
      ⟨b, -, spelled, -⟩ | ⟨b, -, spelled, -⟩ | ⟨-, failed⟩
    · exact absurd spelled (unspelled b)
    · exact absurd spelled (unspelled b)
    · exact failed

end Wire.Format

end AmountProofs
