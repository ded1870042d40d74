import AmountProofs.Bytes

/-!
Text as a sequence of code points, and its UTF-8 form.

Settings are read from files whose strings may name half of a surrogate pair, so a text is a list
of code points and not a `String`. Such a text exists and can be shown, but it has no UTF-8 form:
`Text.utf8?` is `none` exactly where an unpaired surrogate stands.
-/

namespace AmountProofs

/-- A Unicode code point; unpaired surrogates are included. -/
abbrev CodePoint := Fin 0x110000

/-- Named, so that numerals are the same terms in every module. -/
instance CodePoint.neZero : @NeZero Nat Zero.ofOfNat0 0x110000 := ⟨by decide⟩

/-- A sequence of code points. -/
abbrev Text := List CodePoint

namespace CodePoint

def ofChar (c : Char) : CodePoint := Fin.ofNat 0x110000 c.toNat

@[inline] def isChar (c : CodePoint) (k : Char) : Bool := c.val == k.toNat

/-- A decimal digit of ASCII. -/
def isDigit (c : CodePoint) : Bool := 48 ≤ c.val && c.val ≤ 57

/-- Surrogates stand for nothing on their own. -/
def isSurrogate (c : CodePoint) : Bool := 0xD800 ≤ c.val && c.val < 0xE000

/-- The code points past ASCII whose upper-case form has a letter of ASCII, with that form: letters
with a mark, and joined letters, become several. -/
def upperForms : List (Nat × List Nat) :=
  [(0xDF, [0x53, 0x53]), (0x131, [0x49]), (0x149, [0x2BC, 0x4E]), (0x17F, [0x53]),
   (0x1F0, [0x4A, 0x30C]), (0x1E96, [0x48, 0x331]), (0x1E97, [0x54, 0x308]), (0x1E98, [0x57, 0x30A]),
   (0x1E99, [0x59, 0x30A]), (0x1E9A, [0x41, 0x2BE]), (0xFB00, [0x46, 0x46]), (0xFB01, [0x46, 0x49]),
   (0xFB02, [0x46, 0x4C]), (0xFB03, [0x46, 0x46, 0x49]), (0xFB04, [0x46, 0x46, 0x4C]),
   (0xFB05, [0x53, 0x54]), (0xFB06, [0x53, 0x54])]

/-- The upper-case form, as far as it has letters of ASCII. Other code points are left as they are. -/
def upper (c : CodePoint) : List CodePoint :=
  if 97 ≤ c.val ∧ c.val ≤ 122 then [Fin.ofNat 0x110000 (c.val - 32)]
  else
    match upperForms.lookup c.val with
    | some form => form.map (Fin.ofNat 0x110000)
    | none => [c]

/-- The UTF-8 bytes of a code point that is no surrogate. -/
def utf8 (c : CodePoint) : Bytes :=
  let tail (shift : Nat) : UInt8 := UInt8.ofNat (0x80 + c.val / Nat.pow 2 shift % 64)
  if c.val < 0x80 then [UInt8.ofNat c.val]
  else if c.val < 0x800 then [UInt8.ofNat (0xC0 + c.val / Nat.pow 2 6), tail 0]
  else if c.val < 0x10000 then [UInt8.ofNat (0xE0 + c.val / Nat.pow 2 12), tail 6, tail 0]
  else [UInt8.ofNat (0xF0 + c.val / Nat.pow 2 18), tail 12, tail 6, tail 0]

end CodePoint

namespace Text

def ofString (s : String) : Text := s.toList.map CodePoint.ofChar

/-- A string with the same characters; an unpaired surrogate has none and becomes NUL. -/
def toString (t : Text) : String := String.ofList (t.map fun c => Char.ofNat c.val)

/-- The number that decimal digits spell. -/
def digitsValue (ds : Text) : Nat := ds.foldl (fun n d => 10 * n + (d.val - 48)) 0

/-- The text with its letters in upper case, as far as that gives letters of ASCII. -/
def upper (t : Text) : Text := t.flatMap CodePoint.upper

/-- The UTF-8 bytes of a text, if no unpaired surrogate stands in it. -/
def utf8? (t : Text) : Option Bytes :=
  if t.any CodePoint.isSurrogate then none else some (t.flatMap CodePoint.utf8)

/-- The six payload bits of a continuation byte. -/
def continuation? (b : UInt8) : Option Nat :=
  if 0x80 ≤ b ∧ b < 0xC0 then some (b.toNat - 0x80) else none

/-- A code point that needs exactly the number of bytes it was written with. -/
def wellFormed? (least value : Nat) : Option CodePoint :=
  if h : value < 0x110000 then
    if least ≤ value ∧ CodePoint.isSurrogate ⟨value, h⟩ = false then some ⟨value, h⟩ else none
  else none

/-- Reads UTF-8 strictly: overlong forms, surrogates and truncated sequences are refused. -/
def ofUtf8? : Bytes → Option Text
  | [] => some []
  | a :: rest =>
    if a < 0x80 then do
      let c ← wellFormed? 0 a.toNat
      return c :: (← ofUtf8? rest)
    else if a < 0xE0 then
      match rest with
      | b :: rest => do
        let x ← continuation? b
        let c ← wellFormed? 0x80 ((a.toNat - 0xC0) * Nat.pow 2 6 + x)
        if a < 0xC2 then none else return c :: (← ofUtf8? rest)
      | _ => none
    else if a < 0xF0 then
      match rest with
      | b :: d :: rest => do
        let x ← continuation? b
        let y ← continuation? d
        let c ← wellFormed? 0x800 ((a.toNat - 0xE0) * Nat.pow 2 12 + x * Nat.pow 2 6 + y)
        return c :: (← ofUtf8? rest)
      | _ => none
    else
      match rest with
      | b :: d :: e :: rest => do
        let x ← continuation? b
        let y ← continuation? d
        let z ← continuation? e
        let c ← wellFormed? 0x10000
          ((a.toNat - 0xF0) * Nat.pow 2 18 + x * Nat.pow 2 12 + y * Nat.pow 2 6 + z)
        return c :: (← ofUtf8? rest)
      | _ => none

end Text

end AmountProofs
