import AmountProofs.Json
import AmountProofs.Number.Shortest
import AmountProofs.Text.Printable

/-!
The text of a value inside a message.

A text that is the whole value is shown as it is; one inside a list or an object is quoted, with a
single quote unless the text holds single quotes and no double ones. Objects are shown as
`name: value` between braces, and the words are `None`, `True` and `False`.
-/

namespace AmountProofs.Json

namespace Display

private def hexDigits (width n : Nat) : Text :=
  let digits := (Nat.toDigits 16 n).map CodePoint.ofChar
  List.replicate (width - digits.length) 48 ++ digits

/-- A code point as a numeric escape, as short as its value allows. -/
def numericEscape (c : CodePoint) : Text :=
  if c.val < 0x100 then Text.ofString "\\x" ++ hexDigits 2 c.val
  else if c.val < 0x10000 then Text.ofString "\\u" ++ hexDigits 4 c.val
  else Text.ofString "\\U" ++ hexDigits 8 c.val

/-- A code point inside quotes. -/
def escaped (quote c : CodePoint) : Text :=
  if c = quote ∨ c = 92 then [92, c]
  else if c = 10 then Text.ofString "\\n"
  else if c = 13 then Text.ofString "\\r"
  else if c = 9 then Text.ofString "\\t"
  else if c.isPrintable then [c]
  else numericEscape c

/-- A text with numeric escapes for all that is not ASCII. -/
def inAscii (t : Text) : Text := t.flatMap fun c => if c.val < 0x80 then [c] else numericEscape c

def quoted (t : Text) : Text :=
  let quote : CodePoint := if t.contains 39 && !t.contains 34 then 34 else 39
  quote :: (t.flatMap (escaped quote) ++ [quote])

/-- A value without parts. -/
def atom : Json → Text
  | .null => Text.ofString "None"
  | .bool b => Text.ofString (if b then "True" else "False")
  | .int n => Text.ofString (toString n)
  | .float x => Text.ofString x.text
  | .text t => quoted t
  | .list _ => Text.ofString "[]"
  | .object _ => Text.ofString "\x7b\x7d"

mutual

/-- A value inside another one. -/
def nested : Json → Text
  | .list (x :: xs) => 91 :: nested x ++ nestedItems xs ++ [93]
  | .object ((name, v) :: rest) =>
    123 :: quoted name ++ 58 :: 32 :: nested v ++ nestedMembers rest ++ [125]
  | v => atom v

def nestedItems : List Json → Text
  | [] => []
  | x :: xs => 44 :: 32 :: nested x ++ nestedItems xs

def nestedMembers : List (Text × Json) → Text
  | [] => []
  | (name, v) :: rest => 44 :: 32 :: quoted name ++ 58 :: 32 :: nested v ++ nestedMembers rest

end

end Display

def display : Json → Text
  | .text t => t
  | v => Display.nested v

end AmountProofs.Json
