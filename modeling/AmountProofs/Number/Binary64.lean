/-!
Binary floating point numbers of 64 bits as exact values, and the rounding of a ratio to them.

A finite number is a significand times a power of two. `Binary64.ofRatio` rounds to nearest, a
half going to the even significand, and is where every decimal text becomes a number.
-/

namespace AmountProofs

/-- A 64-bit binary floating point number; `finite s m e` stands for `± m * 2 ^ e`. -/
inductive Binary64
  | nan
  | infinite (negative : Bool)
  | finite (negative : Bool) (significand : Nat) (exponent : Int)
  deriving DecidableEq, Repr

namespace Binary64

def minExponent : Int := -1074

def maxExponent : Int := 971

/-- Zero, of either sign. -/
def zero (negative : Bool) : Binary64 := .finite negative 0 minExponent

/-- `2 ^ e` as a fraction of natural numbers. -/
def powerOfTwo (e : Int) : Nat × Nat := (Nat.pow 2 e.toNat, Nat.pow 2 (-e).toNat)

/-- The quotient rounded to the nearest integer, a half to the even one. -/
def roundDiv (num den : Nat) : Nat :=
  let q := num / den
  let r := num % den
  if 2 * r < den then q
  else if den < 2 * r then q + 1
  else q + q % 2

/-- The exponent at which `num / den` has a significand of 53 bits, but never below the smallest. -/
def exponentOf (num den : Nat) : Int :=
  let guess : Int := (num.log2 : Int) - (den.log2 : Int) - 52
  let (up, down) := powerOfTwo guess
  let exact := if num * down < den * up * Nat.pow 2 52 then guess - 1 else guess
  max exact minExponent

/-- The number nearest to `num / den`; past the largest finite number it is infinite. -/
def ofRatio (negative : Bool) (num den : Nat) : Binary64 :=
  if num = 0 then zero negative
  else
    let e := exponentOf num den
    let (up, down) := powerOfTwo e
    let m := roundDiv (num * down) (den * up)
    let (m, e) := if m = Nat.pow 2 53 then (Nat.pow 2 52, e + 1) else (m, e)
    if maxExponent < e then .infinite negative else .finite negative m e

/-- The number nearest to `digits * 10 ^ exponent`, where `digits` has `count` decimal digits. -/
def ofDecimal (negative : Bool) (digits count : Nat) (exponent : Int) : Binary64 :=
  if digits = 0 then zero negative
  else if 310 < exponent + count then .infinite negative
  else if exponent + count < -330 then zero negative
  else ofRatio negative (digits * Nat.pow 10 exponent.toNat) (Nat.pow 10 (-exponent).toNat)

/-- The exact value of a finite number as a fraction with a positive denominator. -/
def ratio? : Binary64 → Option (Int × Nat)
  | .finite negative m e =>
    let (up, down) := powerOfTwo e
    some (if negative then -(m * up : Nat) else (m * up : Nat), down)
  | _ => none

/-- Numerical equality: the zeros are equal, and not-a-number equals nothing. -/
def same (a b : Binary64) : Bool :=
  match a, b with
  | .infinite s, .infinite t => s == t
  | a, b =>
    match a.ratio?, b.ratio? with
    | some (p, q), some (r, s) => p * s == r * q
    | _, _ => false

def sameInt (a : Binary64) (n : Int) : Bool :=
  match a.ratio? with
  | some (p, q) => p == n * q
  | none => false

/-- The number nearest to an integral multiple. -/
def times (a : Binary64) (k : Nat) : Binary64 :=
  match a with
  | .finite negative m e =>
    let (up, down) := powerOfTwo e
    ofRatio negative (m * up * k) down
  | other => other

end Binary64

end AmountProofs
