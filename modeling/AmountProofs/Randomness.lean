import AmountProofs.Scalar

/-!
Randomness as a supply of 64-byte blocks.

A random scalar takes blocks until one is not a multiple of the group's order, so it is never zero
and no block is used twice. When the blocks run out, all of them have been handed out.
-/

namespace AmountProofs

/-- The blocks of randomness that are still to be handed out. -/
abbrev Tape := List (Vector UInt8 64)

namespace Tape

/-- The scalar of the first block that gives one other than zero, and the blocks behind it. -/
def next? : Tape → Option (Scalar × Tape)
  | [] => none
  | block :: rest =>
    let s := Scalar.ofWide block
    if s.isZero then next? rest else some (s, rest)

/-- Draws a scalar other than zero. -/
def scalar : Attempt Tape Scalar := do
  match next? (← get) with
  | some (s, rest) =>
    set rest
    return s
  | none =>
    set ([] : Tape)
    throw .tapeExhausted

end Tape

end AmountProofs
