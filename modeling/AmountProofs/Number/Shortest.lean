import AmountProofs.Number.Binary64

/-!
The text of a floating point number: the fewest decimal digits that read back to it.

`Binary64.shortest` looks for the coarsest decimal grid with a point in the interval of values that
round to the number, and `Binary64.text` lays the digits out, positionally while the decimal point
stands near them and with an exponent otherwise.
-/

namespace AmountProofs

namespace Binary64

/-- A decimal number `digits * 10 ^ exponent`. -/
structure Decimal where
  digits : Nat
  exponent : Int
  deriving DecidableEq, Repr

/-- `10 ^ e` as a fraction of natural numbers. -/
def powerOfTen (e : Int) : Nat × Nat := (Nat.pow 10 e.toNat, Nat.pow 10 (-e).toNat)

/-- The position of the leading digit of `num / den`: the largest `k` with `10 ^ k ≤ num / den`. -/
def leadingPosition (num den : Nat) : Int :=
  let guess : Int := (num.log2 : Int) - (den.log2 : Int)
  -- `log10 2` is close to `30103 / 100000`, so the guess is off by one at most.
  let estimate := guess * 30103 / 100000 + 1
  let reaches (k : Int) : Bool :=
    let (up, down) := powerOfTen k
    den * up ≤ num * down
  if reaches estimate then estimate
  else if reaches (estimate - 1) then estimate - 1
  else estimate - 2

/-- The multiple of `10 ^ exponent` that rounds to `m * 2 ^ e` and lies nearest to it, if any.
The values that round to the number reach half a unit to both sides, a quarter below a power of
two, and their ends belong to them if the significand is even. -/
def onGrid? (m : Nat) (e exponent : Int) : Option Nat :=
  let (up, down) := powerOfTwo e
  let (tens, tenths) := powerOfTen exponent
  -- In units of `1 / (4 * down * tenths)`: the value is `4 * m * x`, a grid point is `4 * c * y`.
  let x := up * tenths
  let y := tens * down
  let below := if m = Nat.pow 2 52 ∧ minExponent < e then 1 else 2
  let low := (4 * m - below) * x
  let high := (4 * m + 2) * x
  let inside (c : Nat) : Bool :=
    if m % 2 = 0 then low ≤ 4 * c * y && 4 * c * y ≤ high
    else low < 4 * c * y && 4 * c * y < high
  let floor := m * x / y
  let rest := m * x % y
  match inside floor && floor != 0, inside (floor + 1) with
  | true, true =>
    if 2 * rest < y then some floor
    else if y < 2 * rest then some (floor + 1)
    else some (floor + floor % 2)
  | true, false => some floor
  | false, true => some (floor + 1)
  | false, false => none

/-- The fewest digits that read back to `m * 2 ^ e`; 17 always do. -/
def shortest (m : Nat) (e : Int) : Decimal :=
  let (up, down) := powerOfTwo e
  let leading := leadingPosition (m * up) down
  let grids : List Int := (List.range 18).map fun (n : Nat) => leading - (n : Int)
  match grids.findSome? fun s => (onGrid? m e s).map fun c => (⟨c, s⟩ : Decimal) with
  | some d => d
  | none => ⟨m, e⟩

/-- The decimal digits of a number without the zeros at its end, and how many were dropped. -/
def trimmed (digits : Nat) : List Char × Nat :=
  let all := (Nat.toDigits 10 digits).reverse
  let zeros := (all.takeWhile (· == '0')).length
  ((all.drop zeros).reverse, zeros)

/-- Positions of the decimal point, counted from the first digit, that are written out. -/
def positional (point : Int) : Bool := -3 ≤ point && point ≤ 16

/-- Lays out digits whose decimal point stands `point` places after the first one's left edge:
positionally with at least one digit on both sides of the point, or with one digit before the
point and a signed exponent of at least two digits. -/
def layout (digits : List Char) (point : Int) : List Char :=
  if positional point then
    if point ≤ 0 then
      '0' :: '.' :: (List.replicate (-point).toNat '0' ++ digits)
    else
      let before := point.toNat
      if digits.length ≤ before then
        digits ++ List.replicate (before - digits.length) '0' ++ ['.', '0']
      else digits.take before ++ '.' :: digits.drop before
  else
    let exponent := point - 1
    let size := Nat.toDigits 10 exponent.natAbs
    let padded := if size.length < 2 then '0' :: size else size
    let sign := if exponent < 0 then '-' else '+'
    let fraction := digits.drop 1
    digits.take 1 ++ (if fraction.isEmpty then [] else '.' :: fraction) ++ 'e' :: sign :: padded

/-- The text of a number: the fewest digits that read back, `inf` or `nan`. -/
def text : Binary64 → String
  | .nan => "nan"
  | .infinite negative => if negative then "-inf" else "inf"
  | .finite negative m e =>
    let sign := if negative then ['-'] else []
    if m = 0 then String.ofList (sign ++ ['0', '.', '0'])
    else
      let d := shortest m e
      let (digits, zeros) := trimmed d.digits
      String.ofList (sign ++ layout digits (digits.length + zeros + d.exponent))

end Binary64

end AmountProofs
