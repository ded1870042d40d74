import AmountProofs.Number.Binary64

/-!
Natural numbers written out in digits: in a base, with a fixed number of places, with an
exponent, or in the shorter of the last two.

A number has no fraction of its own here, so places behind the point are zeros; rounding happens only
where fewer digits are wanted than the number has, to nearest and a half to the even neighbour.
-/

namespace AmountProofs.Digits

/-- The digits of a number in a base, the letters in lower case. -/
def inBase (base n : Nat) : List Char := Nat.toDigits base n

/-- Digits with zeros before them, up to a count. -/
def atLeast (count : Nat) (ds : List Char) : List Char :=
  List.replicate (count - ds.length) '0' ++ ds

/-- The part behind the point; if it is empty, the point stays only if it is kept. -/
def fraction (keepPoint : Bool) (ds : List Char) : List Char :=
  if ds.isEmpty && !keepPoint then [] else '.' :: ds

/-- A number with a fixed number of places behind the point. -/
def fixed (places : Nat) (keepPoint : Bool) (n : Nat) : List Char :=
  inBase 10 n ++ fraction keepPoint (List.replicate places '0')

/-- The leading digits of a number, rounded to a count of one or more, and the exponent of ten
that the first of them stands for. -/
def leading (count n : Nat) : List Char × Nat :=
  let ds := inBase 10 n
  if ds.length ≤ count then (ds ++ List.replicate (count - ds.length) '0', ds.length - 1)
  else
    let rounded := Binary64.roundDiv n (Nat.pow 10 (ds.length - count))
    if rounded = Nat.pow 10 count then ('1' :: List.replicate (count - 1) '0', ds.length)
    else (inBase 10 rounded, ds.length - 1)

/-- An exponent of ten, in at least two digits. -/
def exponent (e : Nat) : List Char := 'e' :: '+' :: atLeast 2 (inBase 10 e)

/-- One digit, a number of places, and an exponent. -/
def scientific (places : Nat) (keepPoint : Bool) (n : Nat) : List Char :=
  let (ds, e) := leading (places + 1) n
  ds.take 1 ++ fraction keepPoint (ds.drop 1) ++ exponent e

/-- Digits without the zeros at their end. -/
def withoutZeros (ds : List Char) : List Char := (ds.reverse.dropWhile (· == '0')).reverse

/-- A number in a count of leading digits, with an exponent if it has more digits than that. Zeros at
the end of the fraction are dropped unless the point is kept. -/
def general (count : Nat) (keepPoint : Bool) (n : Nat) : List Char :=
  let count := max 1 count
  let (ds, e) := leading count n
  let places (ds : List Char) : List Char :=
    fraction keepPoint (if keepPoint then ds else withoutZeros ds)
  if e < count then ds.take (e + 1) ++ places (ds.drop (e + 1))
  else ds.take 1 ++ places (ds.drop 1) ++ exponent e

/-- The value of the floating point number nearest to a number, unless that is infinite. -/
def floating? (n : Nat) : Option Nat :=
  (Binary64.ofRatio false n 1).ratio?.map fun (p, q) => p.toNat / q

end AmountProofs.Digits
