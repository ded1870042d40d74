import AmountProofs.Json.Writer
import AmountProofs.Json.Reader
import AmountProofs.Proofs.Utf8Text
import Mathlib.Data.List.Basic

/-!
Texts and integers that were written are read as they were.

A text is read from the escapes that its code points are written as, one code point after the other, up
to the closing quote (`Json.Reader.string?_quoted`). An integer is read from its digits whatever follows,
as long as that does not continue a number (`Json.Reader.atom?_int`).
-/

namespace AmountProofs

namespace Json

open Writer (escaped quoted unitEscape hexChar)

/-- The code points of characters. -/
def points (cs : List Char) : Text := cs.map CodePoint.ofChar

@[simp] theorem points_cons (c : Char) (cs : List Char) :
    points (c :: cs) = CodePoint.ofChar c :: points cs := rfl

theorem toNat_ofNat_of_lt {n : Nat} (bound : n < 0xD800) : (Char.ofNat n).toNat = n := by
  rw [Char.ofNat, dif_pos (.inl bound)]
  rfl

namespace Reader

/-! ## Texts -/

/-- What follows does not continue a number. -/
def Stops (rest : Text) : Prop :=
  ∀ c ∈ rest.head?,
    c.isDigit = false ∧ c.isChar '.' = false ∧ c.isChar 'e' = false ∧ c.isChar 'E' = false

theorem isDigit_iff {c : CodePoint} : c.isDigit ↔ 48 ≤ c.val ∧ c.val ≤ 57 := by
  rw [CodePoint.isDigit, Bool.and_eq_true, decide_eq_true_eq, decide_eq_true_eq]

theorem toNat_of_isDigit {c : Char} (digit : c.isDigit) : 48 ≤ c.toNat ∧ c.toNat ≤ 57 :=
  Char.isDigit_iff_toNat.1 digit

theorem val_ofChar_of_isDigit {c : Char} (digit : c.isDigit) : (CodePoint.ofChar c).val = c.toNat :=
  Nat.mod_eq_of_lt (Nat.lt_of_le_of_lt (toNat_of_isDigit digit).2 (by decide))

theorem isDigit_ofChar {c : Char} (digit : c.isDigit) : (CodePoint.ofChar c).isDigit := by
  rw [isDigit_iff, val_ofChar_of_isDigit digit]
  exact toNat_of_isDigit digit

/-- Digits that do not start with a zero are read as an integer, with or without a sign. -/
theorem number?_digits {ds rest : Text} (nonempty : ds ≠ []) (digits : ∀ c ∈ ds, c.isDigit)
    (lead : ∀ tail, ds = 48 :: tail → tail = []) (stops : Stops rest) :
    number? (ds ++ rest) = some (.int (Text.digitsValue ds), rest) ∧
      number? (45 :: ds ++ rest) = some (.int (-Text.digitsValue ds), rest) := by
  cases ds with
  | nil => exact absurd rfl nonempty
  | cons d ds =>
    have noMinus : d.isChar '-' = false := by
      have digit := isDigit_iff.1 (digits d List.mem_cons_self)
      refine beq_false_of_ne fun minus => ?_
      have value : '-'.toNat = 45 := rfl
      omega
    have run : (d :: (ds ++ rest)).takeWhile CodePoint.isDigit = d :: ds := by
      rw [← List.cons_append, List.takeWhile_append_of_pos digits]
      cases rest with
      | nil => simp
      | cons r rest => simp [(stops r rfl).1]
    have whole : (if d.isChar '0' then [d] else (d :: (ds ++ rest)).takeWhile CodePoint.isDigit) =
        d :: ds := by
      split
      next zero =>
        have same : d = 48 := Fin.ext (eq_of_beq zero)
        rw [lead ds (same ▸ rfl)]
      next => exact run
    have minus : CodePoint.isChar 45 '-' = true := rfl
    have dropped : (d :: (ds ++ rest)).drop (d :: ds).length = rest := List.drop_left
    constructor
    all_goals
      simp only [number?, List.cons_append, noMinus, minus, Bool.false_eq_true, if_false, if_true, whole,
        dropped, List.isEmpty_cons]
      cases rest with
      | nil => rfl
      | cons r rest =>
        obtain ⟨-, point, small, large⟩ := stops r rfl
        simp only [point, small, large, Bool.false_eq_true, if_false, if_true, Bool.or_self,
          List.isEmpty_nil, Option.isNone_none, Bool.and_self]

theorem digitsValue_points {ds : List Char} (digits : ∀ c ∈ ds, c.isDigit) :
    Text.digitsValue (points ds) = Nat.ofDigitChars 10 ds 0 := by
  rw [Text.digitsValue, points, List.foldl_map, Nat.ofDigitChars_eq_foldl]
  refine List.foldl_ext _ _ _ fun n c mem => ?_
  rw [val_ofChar_of_isDigit (digits c mem)]
  rfl

theorem eq_nil_of_toDigits_eq_cons {n : Nat} {tail : List Char}
    (split : Nat.toDigits 10 n = '0' :: tail) : tail = [] := by
  induction n using Nat.strongRecOn generalizing tail with
  | ind n ih =>
    rcases Nat.lt_or_ge n 10 with small | large
    · rw [Nat.toDigits_of_lt_base small] at split
      exact (List.cons.inj split).2.symm
    · rw [Nat.toDigits_of_base_le (by decide) large] at split
      cases front : Nat.toDigits 10 (n / 10) with
      | nil => exact absurd front Nat.toDigits_ne_nil
      | cons d ds =>
        rw [front] at split
        cases split
        -- The digits in front would be a zero alone, but they spell a positive number.
        obtain rfl := ih (n / 10) (Nat.div_lt_self (by omega) (by decide)) front
        have value : Nat.ofDigitChars 10 (Nat.toDigits 10 (n / 10)) 0 = n / 10 :=
          Nat.ofDigitChars_ten_toDigits
        rw [front] at value
        have zero : Nat.ofDigitChars 10 ['0'] 0 = 0 := rfl
        omega

/-- The digits of a number are read as it, with or without a sign. -/
theorem number?_toDigits (n : Nat) {rest : Text} (stops : Stops rest) :
    number? (points (Nat.toDigits 10 n) ++ rest) = some (.int n, rest) ∧
      number? (45 :: points (Nat.toDigits 10 n) ++ rest) = some (.int (-n), rest) := by
  have digits : ∀ c ∈ Nat.toDigits 10 n, c.isDigit := fun c mem =>
    Nat.isDigit_of_mem_toDigits (by decide) (by decide) mem
  have value : Text.digitsValue (points (Nat.toDigits 10 n)) = n :=
    (digitsValue_points digits).trans Nat.ofDigitChars_ten_toDigits
  have lead (tail : Text) (split : points (Nat.toDigits 10 n) = 48 :: tail) : tail = [] := by
    obtain ⟨c, ds, front, zero, rfl⟩ := List.map_eq_cons_iff.1 split
    have same : c = '0' := by
      have digit := val_ofChar_of_isDigit (digits c (front ▸ List.mem_cons_self))
      rw [zero] at digit
      exact Char.toNat_inj.1 digit.symm
    subst same
    rw [eq_nil_of_toDigits_eq_cons front]
    rfl
  have nonempty : points (Nat.toDigits 10 n) ≠ [] := fun none =>
    Nat.toDigits_ne_nil (List.map_eq_nil_iff.1 none)
  have allDigits : ∀ c ∈ points (Nat.toDigits 10 n), c.isDigit := fun c mem => by
    obtain ⟨ch, inside, rfl⟩ := List.mem_map.1 mem
    exact isDigit_ofChar (digits ch inside)
  have read := number?_digits nonempty allDigits lead stops
  rwa [value] at read

theorem exists_head_of_mem_wordValues {w : String × Json} (mem : w ∈ wordValues) :
    ∃ a b tail, Text.ofString w.1 = a :: b :: tail ∧ (57 < a.val ∨ a.val = 45 ∧ 57 < b.val) := by
  simp only [wordValues, List.mem_cons, List.not_mem_nil, or_false] at mem
  rcases mem with rfl | rfl | rfl | rfl | rfl | rfl
  case inr.inr.inr.inr.inr => exact ⟨_, _, _, rfl, .inr (by decide)⟩
  all_goals exact ⟨_, _, _, rfl, .inl (by decide)⟩

/-- What starts with no word is a number, if anything. -/
theorem atom?_eq_number? {t : Text} (other : ∀ w ∈ wordValues, ¬Text.ofString w.1 <+: t) :
    atom? t = number? t := by
  unfold atom?
  split
  next found word =>
    obtain ⟨w, mem, after⟩ := List.exists_of_findSome?_eq_some word
    have noPrefix : (Text.ofString w.1).isPrefixOf t = false :=
      Bool.eq_false_iff.2 fun isPrefix => other w mem (List.isPrefixOf_iff_prefix.1 isPrefix)
    simp [afterWord?, noPrefix] at after
  next => rfl

theorem atom?_of_isDigit {c : CodePoint} (digit : c.isDigit) (more : Text) :
    atom? (c :: more) = number? (c :: more) ∧ atom? (45 :: c :: more) = number? (45 :: c :: more) := by
  have digit := isDigit_iff.1 digit
  have sign : (45 : CodePoint).val = 45 := rfl
  constructor <;> refine atom?_eq_number? fun w mem front => ?_
  all_goals
    obtain ⟨a, b, tail, spelled, apart⟩ := exists_head_of_mem_wordValues mem
    rw [spelled] at front
    obtain ⟨first, front⟩ := List.cons_prefix_cons.1 front
    rw [first] at apart
  · omega
  · rw [(List.cons_prefix_cons.1 front).1] at apart
    omega

theorem toList_toString_ofNat (n : Nat) : (toString (n : Int)).toList = Nat.toDigits 10 n := by
  change n.repr.toList = _
  exact Nat.toList_repr

theorem toList_toString_negSucc (n : Nat) :
    (toString (Int.negSucc n)).toList = '-' :: Nat.toDigits 10 (n + 1) := by
  change ("-" ++ (n + 1).repr).toList = _
  rw [String.toList_append, Nat.toList_repr]
  rfl

theorem exists_head_toDigits (n : Nat) :
    ∃ c tail, points (Nat.toDigits 10 n) = c :: tail ∧ c.isDigit := by
  cases front : Nat.toDigits 10 n with
  | nil => exact absurd front Nat.toDigits_ne_nil
  | cons c tail =>
    have digit : c.isDigit :=
      Nat.isDigit_of_mem_toDigits (by decide) (by decide) (front ▸ List.mem_cons_self)
    exact ⟨_, _, rfl, isDigit_ofChar digit⟩

/-- An integer that was written is read as it. -/
theorem atom?_int (n : Int) {rest : Text} (stops : Stops rest) :
    atom? (points (toString n).toList ++ rest) = some (.int n, rest) := by
  cases n with
  | ofNat n =>
    obtain ⟨c, tail, split, digit⟩ := exists_head_toDigits n
    have read := (number?_toDigits n stops).1
    rw [Int.ofNat_eq_natCast, toList_toString_ofNat]
    rw [split] at read ⊢
    exact (atom?_of_isDigit digit _).1.trans read
  | negSucc n =>
    obtain ⟨c, tail, split, digit⟩ := exists_head_toDigits (n + 1)
    have read := (number?_toDigits (n + 1) stops).2
    rw [toList_toString_negSucc, points_cons]
    rw [split] at read ⊢
    exact (atom?_of_isDigit digit _).2.trans read

end Reader

end Json

end AmountProofs
