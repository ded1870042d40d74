import AmountProofs.Text

/-!
Sets of code points, given as closed ranges in rising order and searched by halving.
-/

namespace AmountProofs.CodePoint

/-- Whether a value lies in one of the ranges between two positions of a table; the distance of the
positions bounds the `fuel` that is needed. -/
def inRangesBetween (table : Array (Nat × Nat)) (value : Nat) : (fuel low high : Nat) → Bool
  | 0, _, _ => false
  | fuel + 1, low, high =>
    if low < high then
      let middle := (low + high) / 2
      let (first, last) := table.getD middle (0, 0)
      if value < first then inRangesBetween table value fuel low middle
      else if last < value then inRangesBetween table value fuel (middle + 1) high
      else true
    else false

/-- Whether a code point lies in one of the ranges of a table. -/
def inRanges (table : Array (Nat × Nat)) (c : CodePoint) : Bool :=
  inRangesBetween table c.val (table.size + 1) 0 table.size

end AmountProofs.CodePoint
