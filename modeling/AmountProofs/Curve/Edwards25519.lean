import AmountProofs.Scalar

/-!
The twisted Edwards curve `-x² + y² = 1 + d x² y²` over the integers modulo `2 ^ 255 - 19`.

A point is encoded by its `y` in the low 255 bits of a word and the parity of its `x` in the top
bit. Two readings of an encoding are used: addition takes any word whose `y` lies on the curve, and
multiplication only the canonical encoding of a point of prime order (`isValid`), whose multiple
must not be the neutral element.

Inside, points are kept in extended coordinates, in which one formula adds all pairs.
-/

namespace AmountProofs.Edwards25519

/-- The prime of the field. -/
def prime : Nat := Nat.pow 2 255 - 19

/-- The coefficient of the curve. -/
def d : Nat := 37095705934669439343138083508754565189542113879843219016388785533085940283555

/-- A square root of minus one. -/
def sqrtMinusOne : Nat :=
  19681161376707505956807079304988542015446066515923890162744021073123829784752

@[inline] def mul (a b : Nat) : Nat := a * b % prime

@[inline] def add (a b : Nat) : Nat := (a + b) % prime

/-- Difference in the field, of reduced elements. -/
@[inline] def sub (a b : Nat) : Nat := (a + (prime - b)) % prime

def pow (a e : Nat) : Nat := Scalar.powMod prime a e

/-- A point in extended coordinates: `x = X / Z`, `y = Y / Z`, `T = X * Y / Z`. -/
structure Extended where
  X : Nat
  Y : Nat
  Z : Nat
  T : Nat
  deriving DecidableEq, Repr

namespace Extended

/-- The neutral element, `x = 0` and `y = 1`. -/
def neutral : Extended := ⟨0, 1, 1, 0⟩

def isNeutral (p : Extended) : Bool := p.X == 0 && p.Y == p.Z

/-- The point with the opposite `x`. -/
def neg (p : Extended) : Extended := ⟨sub 0 p.X, p.Y, p.Z, sub 0 p.T⟩

/-- The sum of two points, by the formula without exceptions. -/
def sum (p q : Extended) : Extended :=
  let a := mul (sub p.Y p.X) (sub q.Y q.X)
  let b := mul (add p.Y p.X) (add q.Y q.X)
  let c := mul (mul (add d d) p.T) q.T
  let e := mul (add p.Z p.Z) q.Z
  let f := sub b a
  let g := sub e c
  let h := add e c
  let i := add b a
  ⟨mul f g, mul h i, mul g h, mul f i⟩

def double (p : Extended) : Extended :=
  let a := mul p.X p.X
  let b := mul p.Y p.Y
  let c := mul 2 (mul p.Z p.Z)
  let h := add a b
  let s := add p.X p.Y
  let e := sub h (mul s s)
  let g := sub a b
  let f := add c g
  ⟨mul e f, mul g h, mul f g, mul e h⟩

/-- The multiple of a point by a natural number, doubling for each binary digit. -/
def times (n : Nat) (p : Extended) : Extended :=
  if n = 0 then neutral
  else
    let half := double (times (n / 2) p)
    if n % 2 = 1 then sum half p else half
termination_by n

/-- The canonical encoding of a point. -/
def encode (p : Extended) : Word :=
  let inverse := pow p.Z (prime - 2)
  let x := mul p.X inverse
  let y := mul p.Y inverse
  BitVec.ofNat 256 (y + x % 2 * Nat.pow 2 255)

end Extended

/-- A root of `u / v` or of `-u / v`, if one of them has a root. -/
def rootOfRatio (u v : Nat) : Nat :=
  let v3 := mul (mul v v) v
  mul (mul u v3) (pow (mul u (mul (mul v3 v3) v)) ((prime - 5) / 8))

/-- An `x` for which `(x, y)` lies on the curve: a root of `(y² - 1) / (d y² + 1)`, if it has one. -/
def xOf? (y : Nat) : Option Nat :=
  let yy := mul y y
  let u := sub yy 1
  let v := add (mul d yy) 1
  let root := rootOfRatio u v
  let check := mul v (mul root root)
  if check = u then some root
  else if check = sub 0 u then some (mul root sqrtMinusOne)
  else none

/-- The point with the `y` and the parity of `x` that a word gives, with `y` taken modulo the prime;
`none` if no point of the curve has that `y`. -/
def decode? (w : Word) : Option Extended :=
  let y := w.toNat % Nat.pow 2 255 % prime
  let parity := w.toNat / Nat.pow 2 255
  (xOf? y).map fun x =>
    let x := if x % 2 = parity then x else sub 0 x
    ⟨x, y, 1, mul x y⟩

/-- Whether a word writes `y` reduced. -/
def isCanonical (w : Word) : Bool := w.toNat % Nat.pow 2 255 < prime

/-- Whether a point other than the neutral element has prime order. -/
def hasPrimeOrder (p : Extended) : Bool := !p.isNeutral && (p.times Scalar.order).isNeutral

/-- The point of prime order that a word encodes canonically, if it does. -/
def decodeValid? (w : Word) : Option Extended :=
  if isCanonical w then (decode? w).filter hasPrimeOrder else none

/-- Whether a word is the canonical encoding of a point of prime order. -/
def isValid (w : Word) : Bool := (decodeValid? w).isSome

def addEncoded (v w : Word) : Option Word := do
  let p ← decode? v
  let q ← decode? w
  return (p.sum q).encode

def subEncoded (v w : Word) : Option Word := do
  let p ← decode? v
  let q ← decode? w
  return (p.sum q.neg).encode

/-- The encoding of a multiple of a valid point, which must not be the neutral element. -/
def mulEncoded (s : Scalar) (w : Word) : Option Word := do
  let p ← decodeValid? w
  let q := p.times s.toNat
  if q.isNeutral then none else return q.encode

/-- The encoding of the base point, whose `y` is four fifths. -/
def basePoint : Word :=
  BitVec.ofNat 256 46316835694926478169428394003475163141307993866256225615783033603165251855960

end AmountProofs.Edwards25519
