/-!
How many decimal digits an integer may have.

Turning an integer into its decimal digits and back takes time that grows with the square of their
number, so neither is done beyond a fixed number of digits. A sign is no digit.
-/

namespace AmountProofs.Decimal

/-- The most digits that an integer is written or read with. -/
def maxDigits : Nat := 4300

/-- Whether an integer is written and read. Proofs compare its size with the limit and never compute the
limit, so the definition stays closed. -/
@[irreducible]
def isShort (n : Int) : Bool := n.natAbs < Nat.pow 10 maxDigits

/-- The number of an integer's digits. -/
def digitCount (n : Int) : Nat := (Nat.toDigits 10 n.natAbs).length

/-- What is said of an integer with too many digits. -/
def limitText : String := s!"Exceeds the limit ({maxDigits} digits) for integer string conversion"

/-- What is said of the way out. -/
def raiseText : String := "use sys.set_int_max_str_digits() to increase the limit"

end AmountProofs.Decimal
