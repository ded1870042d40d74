import AmountProofs.Json.Display
import AmountProofs.Number.Digits

/-!
References to fields inside a layout, such as `%(name)s` or `%(levelname)-8s`.

A reference carries flags, a least width and a precision before the letter that tells how the field
is written: as text (`s`), quoted (`r`, `a`), as an integer (`d`, `i`, `u`, `o`, `x`, `X`), as a
floating point number (`e`, `f`, `g` and their capitals) or as a single character (`c`).
`Reference.read?` reads one, and `Reference.write` writes a field as it asks for, if that is possible.
-/

namespace AmountProofs.Log

open CodePoint (isChar isDigit)

inductive Field
  | text (t : Text)
  | number (n : Int)
  /-- A value of another type, with its text. -/
  | other (shown : Text)
  /-- A value that depends on the place and the time of the record; its text starts as given. -/
  | opening (shown : Text)
  deriving DecidableEq, Repr

/-- A reference: the name of a field, or none for all fields at once, and how they are written. -/
structure Reference where
  name : Option Text
  flags : Text
  width : Nat
  precision : Option Nat
  letter : CodePoint
  deriving DecidableEq, Repr

namespace Reference

/-- The most places that a reference is filled up to. -/
def maxRoom : Nat := Nat.pow 2 24

def maxPrecision : Nat := Nat.pow 2 31 - 1

def isFlag (c : CodePoint) : Bool :=
  isChar c '#' || isChar c '0' || isChar c '+' || isChar c ' ' || isChar c '-'

/-- Whether a code point is one of the letters for the size of a number, which change nothing. -/
def isSize (c : CodePoint) : Bool := isChar c 'h' || isChar c 'l' || isChar c 'L'

/-- The length of a name up to the parenthesis that closes it, where `depth` more are open. -/
def nameLength? : (depth : Nat) → Text → Option Nat
  | _, [] => none
  | depth, c :: rest =>
    if isChar c '(' then (nameLength? (depth + 1) rest).map (· + 1)
    else if isChar c ')' then
      match depth with
      | 0 => some 0
      | depth + 1 => (nameLength? depth rest).map (· + 1)
    else (nameLength? depth rest).map (· + 1)

/-- The name at the start of a reference, and what is behind it. -/
def readName? : Text → Option (Option Text × Text)
  | [] => none
  | c :: rest =>
    if isChar c '(' then
      (nameLength? 0 rest).map fun n => (some (rest.take n), rest.drop (n + 1))
    else some (none, c :: rest)

/-- The number at the start of a text, zero if there is none, and what is behind it. -/
def readCount (t : Text) : Nat × Text :=
  (Text.digitsValue (t.takeWhile isDigit), t.dropWhile isDigit)

def readPrecision : Text → Option Nat × Text
  | [] => (none, [])
  | c :: rest =>
    if isChar c '.' then
      let (n, rest) := readCount rest
      (some n, rest)
    else (none, c :: rest)

/-- The text behind a letter for the size of a number. -/
def skipSize : Text → Text
  | [] => []
  | c :: rest => if isSize c then rest else c :: rest

/-- The reference at the start of a text that follows a per cent sign, and what is behind it. A
reference that is cut short or asks for too much is none. -/
def read? (t : Text) : Option (Reference × Text) := do
  let (name, t) ← readName? t
  let flags := t.takeWhile isFlag
  let (width, t) := readCount (t.dropWhile isFlag)
  let (precision, t) := readPrecision t
  match skipSize t with
  | [] => none
  | letter :: rest =>
    if width ≤ maxRoom ∧ precision.getD 0 ≤ maxPrecision then
      some (⟨name, flags, width, precision, letter⟩, rest)
    else none

def has (r : Reference) (flag : Char) : Bool := r.flags.any (isChar · flag)

/-- Fills a text up to the width: behind it if it is flushed left, else before it. -/
def fill (r : Reference) (t : Text) : Text :=
  let blanks := List.replicate (r.width - t.length) (CodePoint.ofChar ' ')
  if r.has '-' then t ++ blanks else blanks ++ t

/-- A text cut at the precision and filled up. If only its beginning is known, the cut must fall
within that. -/
def writeText (r : Reference) (complete : Bool) (t : Text) : Option Text :=
  match r.precision with
  | some n => if complete || n ≤ t.length then some (r.fill (t.take n)) else none
  | none => if complete then some (r.fill t) else none

/-- The sign of a number: positive ones have none unless a flag asks for one. -/
def signOf (r : Reference) (n : Int) : List Char :=
  if n < 0 then ['-'] else if r.has '+' then ['+'] else if r.has ' ' then [' '] else []

/-- A number from its sign, the mark of its base and its digits. If zeros are asked for and the
number is not flushed left, they fill it up before the digits. -/
def writeNumber (r : Reference) (sign mark digits : List Char) : Text :=
  let digits :=
    if r.has '0' && !r.has '-' then Digits.atLeast (r.width - sign.length - mark.length) digits
    else digits
  r.fill ((sign ++ mark ++ digits).map CodePoint.ofChar)

/-- An integer in a base, with at least as many digits as the precision. The mark of the base is
written if a flag asks for it. -/
def writeInteger (r : Reference) (base : Nat) (mark : List Char) (case : Char → Char) (n : Int) :
    Option Text :=
  let count := r.precision.getD 1
  if maxRoom < count then none
  else
    let digits := Digits.atLeast count ((Digits.inBase base n.natAbs).map case)
    some (r.writeNumber (r.signOf n) (if r.has '#' then mark else []) digits)

/-- An integer as a floating point number, in a form that takes the precision, by default six. -/
def writeFloating (r : Reference) (form : Nat → Bool → Nat → List Char) (case : Char → Char)
    (n : Int) : Option Text := do
  let count := r.precision.getD 6
  if maxRoom < count then none
  else
    let value ← Digits.floating? n.natAbs
    return r.writeNumber (r.signOf n) [] ((form count (r.has '#') value).map case)

def writeCharacter (r : Reference) : Field → Option Text
  | .text [c] => some (r.fill [c])
  | .number n =>
    if h : 0 ≤ n ∧ n < 0x110000 then some (r.fill [⟨n.toNat, by omega⟩]) else none
  | _ => none

/-- A number in the way that a letter names. -/
def writeAsNumber (r : Reference) (n : Int) : Option Text :=
  let is (k : Char) : Bool := isChar r.letter k
  if is 'd' || is 'i' || is 'u' then r.writeInteger 10 [] id n
  else if is 'o' then r.writeInteger 8 ['0', 'o'] id n
  else if is 'x' then r.writeInteger 16 ['0', 'x'] id n
  else if is 'X' then r.writeInteger 16 ['0', 'X'] Char.toUpper n
  else if is 'f' || is 'F' then r.writeFloating Digits.fixed id n
  else if is 'e' then r.writeFloating Digits.scientific id n
  else if is 'E' then r.writeFloating Digits.scientific Char.toUpper n
  else if is 'g' then r.writeFloating Digits.general id n
  else if is 'G' then r.writeFloating Digits.general Char.toUpper n
  else none

/-- The text of a field, quoted or not if it is a text, and whether that is all of it. -/
def textOf (quoted : Bool) : Field → Bool × Text
  | .text t => (true, if quoted then Json.Display.quoted t else t)
  | .number n => (true, Text.ofString (toString n))
  | .other shown => (true, shown)
  | .opening shown => (false, shown)

/-- A field as a reference wants it written, unless its letter has no meaning for it. -/
def write (r : Reference) (f : Field) : Option Text :=
  if isChar r.letter 's' then
    let (complete, t) := textOf false f
    r.writeText complete t
  else if isChar r.letter 'r' then
    let (complete, t) := textOf true f
    r.writeText complete t
  else if isChar r.letter 'a' then
    let (complete, t) := textOf true f
    r.writeText complete (Json.Display.inAscii t)
  else if isChar r.letter 'c' then r.writeCharacter f
  else
    match f with
    | .number n => r.writeAsNumber n
    | _ => none

end Reference

end AmountProofs.Log
