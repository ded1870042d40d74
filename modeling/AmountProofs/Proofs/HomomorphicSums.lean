import AmountProofs.Proofs.OpenedAmounts
import AmountProofs.Proofs.StandardReading

/-!
Sums and differences of encrypted amounts.

A combination is built from encrypted amounts and the encryption of nothing by sums and differences,
nested in any way. Its ciphertext is that of the signed sums of the amounts and the openings, which
are integers and may well be negative (`Combination.encrypted_eq_ok`), and so is what its
commitments add up to. Decrypted, it is the sum of the amounts times the generator of amounts, which
shows that sum modulo the order of the group and no more (`Combination.decrypt_beq_iff`).
-/

namespace AmountProofs

variable {S : Suite} {E : Type} [AddCommGroup E] [Module Residue E]

/-! ## Combinations -/

/-- Sums and differences of leaves, nested in any way. -/
inductive Combination (α : Type)
  | leaf (a : α)
  | add (x y : Combination α)
  | sub (x y : Combination α)

namespace Combination

variable {α β G H : Type}

/-- Evaluates a combination with operations that may refuse, operands from left to right. -/
def evaluate (value : α → Except Failure β) (plus minus : β → β → Except Failure β) :
    Combination α → Except Failure β
  | leaf a => value a
  | add x y => do
    let u ← x.evaluate value plus minus
    let v ← y.evaluate value plus minus
    plus u v
  | sub x y => do
    let u ← x.evaluate value plus minus
    let v ← y.evaluate value plus minus
    minus u v

/-- The signed sum of what the leaves stand for. -/
def total [Add G] [Sub G] (value : α → G) : Combination α → G
  | leaf a => value a
  | add x y => x.total value + y.total value
  | sub x y => x.total value - y.total value

/-- Where the leaves are stored values and the operations store the sums and differences, a
combination is not refused and stores its total. -/
theorem evaluate_eq_ok [Add G] [Sub G] (store : G → β) (stored : α → G)
    {value : α → Except Failure β} {plus minus : β → β → Except Failure β}
    (leaves : ∀ a, value a = .ok (store (stored a)))
    (sums : ∀ g h, plus (store g) (store h) = .ok (store (g + h)))
    (differences : ∀ g h, minus (store g) (store h) = .ok (store (g - h)))
    (x : Combination α) :
    x.evaluate value plus minus = .ok (store (x.total stored)) := by
  induction x with
  | leaf a => exact leaves a
  | add x y left right =>
    rw [evaluate, left, right]
    exact sums _ _
  | sub x y left right =>
    rw [evaluate, left, right]
    exact differences _ _

/-- A map that respects sums and differences takes a total to the total of the images. -/
theorem map_total [Add G] [Sub G] [Add H] [Sub H] (f : G → H)
    (sums : ∀ g h, f (g + h) = f g + f h) (differences : ∀ g h, f (g - h) = f g - f h)
    (value : α → G) (x : Combination α) :
    f (x.total value) = x.total fun a => f (value a) := by
  induction x with
  | leaf a => rfl
  | add x y left right => rw [total, sums, left, right, total]
  | sub x y left right => rw [total, differences, left, right, total]

end Combination

/-! ## What is combined -/

/-- A leaf of a sum of ciphertexts: nothing, or an amount with its opening. -/
inductive Summand
  | nothing
  | encrypted (o : Opened)

namespace Summand

def amount : Summand → Int
  | nothing => 0
  | encrypted o => o.amount

def opening : Summand → Opening
  | nothing => ⟨.zero⟩
  | encrypted o => o.opening

/-- The amount and the opening of a leaf, as integers. -/
def opened (a : Summand) : Int × Int := (a.amount, a.opening.scalar.toNat)

/-- The ciphertext of a leaf under a key. -/
def ciphertext (key : PublicKey S) : Summand → Except Failure (Ciphertext S)
  | nothing => .ok .zero
  | encrypted o => key.encryptWith o.amount o.opening

/-- The commitment in the ciphertext of a leaf. -/
def commitment (key : PublicKey S) (a : Summand) : Except Failure (Commitment S) := do
  let c ← a.ciphertext key
  return c.commitment

theorem isCanonical_opening (a : Summand) : a.opening.scalar.isCanonical = true := by
  cases a with
  | nothing => decide
  | encrypted o => exact o.reduced

theorem ciphertext_eq_ok (R : S.Reading E) (key : E) (a : Summand) :
    a.ciphertext ⟨R.point key⟩ = .ok (R.ciphertext key a.opened.1 a.opened.2) := by
  cases a with
  | nothing => exact congrArg Except.ok (R.ciphertext_zero key).symm
  | encrypted o => exact R.encryptWith_eq_ok key o.low o.high o.reduced

theorem commitment_eq_ok (R : S.Reading E) (key : E) (a : Summand) :
    a.commitment ⟨R.point key⟩ = .ok (R.commitment a.opened.1 a.opened.2) := by
  rw [commitment, a.ciphertext_eq_ok]
  rfl

end Summand

namespace Combination

/-- The ciphertext that a combination adds up to. -/
def encrypted (key : PublicKey S) (x : Combination Summand) : Except Failure (Ciphertext S) :=
  x.evaluate (Summand.ciphertext key) Ciphertext.add Ciphertext.sub

/-- The commitment that the commitments of the leaves add up to. -/
def committed (key : PublicKey S) (x : Combination Summand) : Except Failure (Commitment S) :=
  x.evaluate (Summand.commitment key) Commitment.add Commitment.sub

/-- The signed sum of the amounts. -/
def amount (x : Combination Summand) : Int := x.total Summand.amount

/-- The signed sum of the openings, as integers. -/
def randomness (x : Combination Summand) : Int := x.total fun a => a.opening.scalar.toNat

/-- The openings, added and subtracted as openings are. -/
def opening (x : Combination Summand) : Opening := x.total Summand.opening

variable (x y : Combination Summand)

/-- Amounts and openings are summed side by side. -/
theorem total_opened : x.total Summand.opened = (x.amount, x.randomness) :=
  Prod.ext (map_total Prod.fst (fun _ _ => rfl) (fun _ _ => rfl) _ x)
    (map_total Prod.snd (fun _ _ => rfl) (fun _ _ => rfl) _ x)

theorem isCanonical_opening : x.opening.scalar.isCanonical = true := by
  cases x with
  | leaf a => exact a.isCanonical_opening
  | add x y => exact Scalar.isCanonical_add _ _
  | sub x y => exact Scalar.isCanonical_sub _ _

/-- The openings add up to the reduced scalar of their signed sum. -/
theorem opening_eq : x.opening = ⟨.ofInt x.randomness⟩ := by
  have integers : (x.randomness : Residue) =
      x.total fun a => ((a.opening.scalar.toNat : Int) : Residue) :=
    map_total (fun n : Int => (n : Residue)) Int.cast_add Int.cast_sub _ x
  have scalars : x.opening.scalar.value = x.total fun a => a.opening.scalar.value :=
    map_total (fun r : Opening => r.scalar.value) (fun _ _ => Scalar.value_add _ _)
      (fun _ _ => Scalar.value_sub _ _) _ x
  apply congrArg Opening.mk
  apply Scalar.eq_of_value_eq x.isCanonical_opening (Scalar.isCanonical_ofInt x.randomness)
  simp only [Scalar.value_ofInt, integers, Scalar.cast_toNat, scalars]

variable (R : S.Reading E) (key : E)

theorem encrypted_eq_ok :
    x.encrypted ⟨R.point key⟩ = .ok (R.ciphertext key x.amount x.randomness) := by
  rw [encrypted, evaluate_eq_ok (fun m : Int × Int => R.ciphertext key m.1 m.2) Summand.opened
    (Summand.ciphertext_eq_ok R key) (fun _ _ => R.ciphertext_add key _ _ _ _)
    (fun _ _ => R.ciphertext_sub key _ _ _ _), total_opened]

theorem committed_eq_ok :
    x.committed ⟨R.point key⟩ = .ok (R.commitment x.amount x.randomness) := by
  rw [committed, evaluate_eq_ok (fun m : Int × Int => R.commitment m.1 m.2) Summand.opened
    (Summand.commitment_eq_ok R key) (fun _ _ => R.commitment_add _ _ _ _)
    (fun _ _ => R.commitment_sub _ _ _ _), total_opened]

/-- Where the sum of the amounts is in range modulo the order, it is committed to like any other
amount, with the sum of the openings. -/
theorem create_eq_ok (room : x.amount % Scalar.order < 2 ^ 64) :
    Commitment.create (x.amount % Scalar.order) x.opening =
      .ok (R.commitment x.amount x.randomness) := by
  have low : 0 ≤ x.amount % Scalar.order := Int.emod_nonneg _ (by decide)
  have amounts : ((x.amount % Scalar.order : Int) : Residue) = x.amount :=
    ZMod.intCast_mod x.amount Scalar.order
  have openings : ((x.opening.scalar.toNat : Int) : Residue) = x.randomness := by
    rw [Scalar.cast_toNat, opening_eq, Scalar.value_ofInt]
  rw [R.create_eq_ok low room x.isCanonical_opening, Suite.Reading.commitment,
    Suite.Reading.commitment, amounts, openings]

/-! ## Decryption -/

/-- A secret other than zero has a public key, and no combination of ciphertexts under it is refused
or fails to decrypt. The ciphertext is that of the signed sums of amounts and openings, its
commitment is what the commitments add up to, and a sum in range could have been committed to
directly. Two combinations decrypt alike exactly if their amounts are congruent modulo the order. -/
theorem decrypt_encrypted (R : S.Reading E) {s : SecretKey}
    (canonical : s.scalar.isCanonical = true) (nonzero : s.scalar.isZero = false) :
    ∃ key : PublicKey S, PublicKey.ofSecret s = .ok key ∧
      ∀ x y : Combination Summand, ∃ c d p q,
        x.encrypted key = .ok c ∧ y.encrypted key = .ok d ∧
        s.decrypt c = .ok p ∧ s.decrypt d = .ok q ∧
        c.commitment.point =
          R.point ((x.amount : Residue) • R.base + (x.randomness : Residue) • R.blinding) ∧
        c.handle.point = R.point ((x.randomness : Residue) • R.read key.point) ∧
        p = R.point ((x.amount : Residue) • R.base) ∧
        x.committed key = .ok c.commitment ∧
        x.opening = ⟨.ofInt x.randomness⟩ ∧
        (x.amount % Scalar.order < 2 ^ 64 →
          Commitment.create (x.amount % Scalar.order) x.opening = .ok c.commitment) ∧
        ((p == q) = true ↔ x.amount ≡ y.amount [ZMOD Scalar.order]) ∧
        (0 ≤ x.amount → x.amount < 2 ^ 64 → 0 ≤ y.amount → y.amount < 2 ^ 64 →
          ((p == q) = true ↔ x.amount = y.amount)) := by
  have matching := SecretKey.smul_inv_smul R canonical nonzero
  refine ⟨_, PublicKey.ofSecret_eq_ok R nonzero, fun x y => ?_⟩
  refine ⟨_, _, _, _, x.encrypted_eq_ok R _, y.encrypted_eq_ok R _,
    R.decrypt_ciphertext canonical matching _ _, R.decrypt_ciphertext canonical matching _ _,
    rfl, ?_, rfl, x.committed_eq_ok R _, x.opening_eq, x.create_eq_ok R, ?_, ?_⟩
  · rw [R.read_point]
    rfl
  · rw [beq_iff_eq, R.point_smul_base_eq_iff]
  · intro lowLeft highLeft lowRight highRight
    rw [beq_iff_eq, R.point_smul_base_eq_iff, ← ZMod.intCast_eq_intCast_iff,
      Scalar.cast_inj_of_lt lowLeft highLeft lowRight highRight]

/-- Five less seven and nothing are encrypted under the key of the secret three, and decrypt
differently. -/
theorem decrypt_encrypted_of_five_less_seven :
    let s : SecretKey := ⟨.ofNat 3⟩
    let r : Opening := ⟨.ofNat 4⟩
    ∃ key c p q, PublicKey.ofSecret (S := Suite.standard) s = .ok key ∧
      (do
        let five ← key.encryptWith 5 r
        let seven ← key.encryptWith 7 r
        five.sub seven) = .ok c ∧
      s.decrypt c = .ok p ∧ s.decrypt .zero = .ok q ∧ (p == q) = false := by
  intro s r
  have reduced : r.scalar.isCanonical = true := Scalar.isCanonical_ofNat 4
  let five : Combination Summand := .leaf (.encrypted ⟨5, r, by decide, by decide, reduced⟩)
  let seven : Combination Summand := .leaf (.encrypted ⟨7, r, by decide, by decide, reduced⟩)
  obtain ⟨key, keyed, combined⟩ := decrypt_encrypted Suite.standardReading
    (Scalar.isCanonical_ofNat 3 : s.scalar.isCanonical = true) (by decide)
  obtain ⟨c, d, p, q, first, second, left, right, -, -, -, -, -, -, alike, -⟩ :=
    combined (five.sub seven) (.leaf .nothing)
  obtain rfl : Ciphertext.zero = d := Except.ok.inj second
  refine ⟨key, c, p, q, keyed, first, left, right, ?_⟩
  have apart : ¬(5 - 7 ≡ 0 [ZMOD Scalar.order]) := by decide
  rw [Bool.eq_false_iff, Ne, alike]
  exact apart

end Combination

end AmountProofs
