import AmountProofs.Curve.Edwards25519
import Mathlib.NumberTheory.LucasPrimality
import Mathlib.Tactic.NormNum.Prime

/-!
The two moduli are prime: the order of the group, which scalars are reduced by, and the prime of
the curve's field.

Both proofs are trees of Lucas tests. A number `n` is prime if some `a` has order `n - 1` modulo
`n`, and that is checked at the prime factors of `n - 1`, whose own tests are the subtrees. The
powers are evaluated by `Scalar.powMod`, the function that inverts scalars.
-/

namespace AmountProofs

/-! ## Powers by squaring -/

/-- Squaring computes powers modulo any number. -/
theorem Scalar.powMod_eq (modulus base exponent : Nat) :
    Scalar.powMod modulus base exponent = base ^ exponent % modulus := by
  fun_induction Scalar.powMod modulus base exponent with
  | case1 base => rw [pow_zero]
  | case2 base exponent positive half odd ih =>
    have split : exponent = exponent / 2 * 2 + 1 := by omega
    have square : half = base ^ (exponent / 2 * 2) % modulus := by
      rw [show half = _ from ih, ← Nat.pow_mod, ← pow_two, ← pow_mul, mul_comm]
    rw [square, Nat.mul_mod_mod, mul_comm, ← pow_succ, ← split]
  | case3 base exponent positive half even ih =>
    have split : exponent = exponent / 2 * 2 := by omega
    have square : half = base ^ (exponent / 2 * 2) % modulus := by
      rw [show half = _ from ih, ← Nat.pow_mod, ← pow_two, ← pow_mul, mul_comm]
    rw [square, ← split]

/-! ## Lucas's test -/

namespace Lucas

/-- Whether `a` has order `n - 1` modulo `n`, where the factors of `n - 1` are given. -/
def test (n a : Nat) (factors : List Nat.Primes) : Bool :=
  2 ≤ n && (factors.map (·.val)).prod == n - 1 && Scalar.powMod n a (n - 1) == 1
    && factors.all fun q => Scalar.powMod n a ((n - 1) / q.val) != 1

private theorem natCast_pow_eq_one {n a e : Nat} (large : 2 ≤ n) :
    ((a : ZMod n) ^ e = 1) ↔ Scalar.powMod n a e = 1 := by
  rw [Scalar.powMod_eq, ← Nat.cast_pow, ← Nat.cast_one, ZMod.natCast_eq_natCast_iff',
    Nat.mod_eq_of_lt large]

/-- A number that passes the test is prime. -/
theorem prime_of_test {n a : Nat} {factors : List Nat.Primes} (passes : test n a factors = true) :
    n.Prime := by
  simp only [test, Bool.and_eq_true, decide_eq_true_eq, beq_iff_eq, List.all_eq_true, bne_iff_ne]
    at passes
  obtain ⟨⟨⟨large, product⟩, full⟩, proper⟩ := passes
  refine lucas_primality n a ((natCast_pow_eq_one large).2 full) fun q prime divides => ?_
  rw [← product, Prime.dvd_prod_iff prime.prime] at divides
  obtain ⟨_, member, divides⟩ := divides
  obtain ⟨r, listed, rfl⟩ := List.mem_map.1 member
  rw [(Nat.prime_dvd_prime_iff_eq prime r.property).1 divides, Ne, natCast_pow_eq_one large]
  exact proper r listed

/-- A small prime. -/
private def small (n : Nat) (prime : n.Prime := by norm_num) : Nat.Primes := ⟨n, prime⟩

/-- A prime by Lucas's test. -/
private def node (n a : Nat) (factors : List Nat.Primes)
    (passes : test n a factors = true := by decide +kernel) : Nat.Primes :=
  ⟨n, prime_of_test passes⟩

/-- The tests for the order of the group. -/
private def orderTree : Nat.Primes :=
  node 7237005577332262213973186563042994240857116359379907606001950938285454250989 2
    [small 2, small 2, small 3, small 11,
     node 198211423230930754013084525763697 5
       [small 2, small 2, small 2, small 2, small 3, small 23,
        node 58964693 2 [small 2, small 2, small 14741173],
        node 3044861653679985063343 5
          [small 2, small 3, small 11, small 30703, small 82163, small 132667, small 137849]],
     node 276602624281642239937218680557139826668747 2
       [small 2, small 7,
        node 19757330305831588566944191468367130476339 2
          [small 2, small 269,
           node 213441916511 13
             [small 2, small 5, small 73,
              node 292386187 2
                [small 2, small 3, small 3, small 3, small 3, small 307, small 5879]],
           node 172054593956031949258510691 2
             [small 2, small 5, small 1361, small 2851,
              node 4434155615661930479 17
                [small 2, small 41, small 43,
                 node 1257559732178653 2
                   [small 2, small 2, small 3, small 7, small 23, small 531581,
                    small 1224481]]]]]]

/-- The tests for the prime of the field. -/
private def fieldTree : Nat.Primes :=
  node 57896044618658097711785492504343953926634992332820282019728792003956564819949 2
    [small 2, small 2, small 3, small 65147,
     node 74058212732561358302231226437062788676166966415465897661863160754340907 2
       [small 2, small 3, small 353, small 57467, small 132049, small 1923133,
        node 31757755568855353 10
          [small 2, small 2, small 2, small 3, small 31, small 107, small 223, small 4153,
           small 430751],
        node 75445702479781427272750846543864801 7
          [small 2, small 2, small 2, small 2, small 2, small 3, small 3, small 5, small 5,
           small 75707,
           node 72106336199 7
             [small 2, small 13, node 2773320623 5 [small 2, small 2437, small 569003]],
           node 1919519569386763 2
             [small 2, small 3, small 7, small 19, small 47, small 47, small 127,
              small 8574133]]]]

end Lucas

/-- The order of the group is prime. -/
theorem Scalar.order_prime : Nat.Prime Scalar.order := Lucas.orderTree.property

/-- The modulus of the curve's field is prime. -/
theorem Edwards25519.prime_prime : Nat.Prime Edwards25519.prime := Lucas.fieldTree.property

end AmountProofs
