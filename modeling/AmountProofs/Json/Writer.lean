import AmountProofs.Json
import AmountProofs.Number.Shortest

/-!
Writing JSON.

Both forms use ASCII only: other characters are escaped, those beyond the first plane as a pair of
surrogates. `compact` writes one line; `pretty` puts every item on a line of its own, two blanks
deeper than its surroundings. Integers are written however many digits they have; who writes to a file
part by part stops in front of the first one that has too many (`Writer.stopped?`).
-/

namespace AmountProofs.Json

namespace Writer

def hexChar (n : Nat) : Char := if n < 10 then Char.ofNat (48 + n) else Char.ofNat (87 + n)

/-- A numeric escape of a 16-bit unit. -/
def unitEscape (u : Nat) : List Char :=
  ['\\', 'u', hexChar (u / 4096 % 16), hexChar (u / 256 % 16), hexChar (u / 16 % 16), hexChar (u % 16)]

def escaped (c : CodePoint) : List Char :=
  if c.val = 34 then ['\\', '"']
  else if c.val = 92 then ['\\', '\\']
  else if c.val = 10 then ['\\', 'n']
  else if c.val = 13 then ['\\', 'r']
  else if c.val = 9 then ['\\', 't']
  else if c.val = 12 then ['\\', 'f']
  else if c.val = 8 then ['\\', 'b']
  else if 32 ≤ c.val ∧ c.val < 127 then [Char.ofNat c.val]
  else if c.val < 0x10000 then unitEscape c.val
  else
    unitEscape (0xD800 + (c.val - 0x10000) / 0x400) ++ unitEscape (0xDC00 + (c.val - 0x10000) % 0x400)

def quoted (t : Text) : List Char := '"' :: (t.flatMap escaped ++ ['"'])

/-- A floating point number; the three that are no numbers in JSON are written as words. -/
def floatText : Binary64 → String
  | .nan => "NaN"
  | .infinite negative => if negative then "-Infinity" else "Infinity"
  | x => x.text

/-- A value without parts. -/
def atom : Json → List Char
  | .null => "null".toList
  | .bool b => (if b then "true" else "false").toList
  | .int n => (toString n).toList
  | .float x => (floatText x).toList
  | .text t => quoted t
  | .list _ => ['[', ']']
  | .object _ => ['\x7b', '\x7d']

/-- A line break and the indentation of a nesting depth. -/
def newline (depth : Nat) : List Char := '\n' :: List.replicate (2 * depth) ' '

mutual

/-- One line without blanks. -/
def compact : Json → List Char
  | .list (x :: xs) => '[' :: compact x ++ compactItems xs ++ [']']
  | .object ((name, v) :: rest) =>
    '\x7b' :: quoted name ++ ':' :: compact v ++ compactMembers rest ++ ['\x7d']
  | v => atom v

def compactItems : List Json → List Char
  | [] => []
  | x :: xs => ',' :: compact x ++ compactItems xs

def compactMembers : List (Text × Json) → List Char
  | [] => []
  | (name, v) :: rest => ',' :: quoted name ++ ':' :: compact v ++ compactMembers rest

end

mutual

/-- A value at a nesting depth, each of its parts on a line of its own. -/
def pretty (depth : Nat) : Json → List Char
  | .list (x :: xs) =>
    '[' :: newline (depth + 1) ++ pretty (depth + 1) x ++ prettyItems depth xs ++ newline depth ++ [']']
  | .object ((name, v) :: rest) =>
    '\x7b' :: newline (depth + 1) ++ quoted name ++ ':' :: ' ' :: pretty (depth + 1) v
      ++ prettyMembers depth rest ++ newline depth ++ ['\x7d']
  | v => atom v

def prettyItems (depth : Nat) : List Json → List Char
  | [] => []
  | x :: xs => ',' :: newline (depth + 1) ++ pretty (depth + 1) x ++ prettyItems depth xs

def prettyMembers (depth : Nat) : List (Text × Json) → List Char
  | [] => []
  | (name, v) :: rest =>
    ',' :: newline (depth + 1) ++ quoted name ++ ':' :: ' ' :: pretty (depth + 1) v
      ++ prettyMembers depth rest

end

mutual

/-- What has been written of a value, each of its parts on a line of its own, when an integer with too
many digits ends the writing; `none` if no integer does. -/
def stopped? (depth : Nat) : Json → Option (List Char)
  | .int n => if Decimal.isShort n then none else some []
  | .list items => stoppedItems? depth ('[' :: newline (depth + 1)) items
  | .object members => stoppedMembers? depth ('\x7b' :: newline (depth + 1)) members
  | _ => none

/-- The same for items behind a bracket or a comma, which are written together with an item that has
no parts. -/
def stoppedItems? (depth : Nat) (front : List Char) : List Json → Option (List Char)
  | [] => none
  | x :: xs =>
    match stopped? (depth + 1) x with
    | some t => some (if x.asInt?.isSome then [] else front ++ t)
    | none =>
      (stoppedItems? depth (',' :: newline (depth + 1)) xs).map (front ++ pretty (depth + 1) x ++ ·)

/-- The same for members behind a brace or a comma. -/
def stoppedMembers? (depth : Nat) (front : List Char) : List (Text × Json) → Option (List Char)
  | [] => none
  | (name, v) :: rest =>
    match stopped? (depth + 1) v with
    | some t => some (front ++ quoted name ++ ':' :: ' ' :: t)
    | none =>
      (stoppedMembers? depth (',' :: newline (depth + 1)) rest).map
        (front ++ quoted name ++ ':' :: ' ' :: pretty (depth + 1) v ++ ·)

end

end Writer

/-- The value on one line. -/
def compact (v : Json) : String := String.ofList (Writer.compact v)

/-- The value with one part a line, indented by two blanks a level. -/
def pretty (v : Json) : String := String.ofList (Writer.pretty 0 v)

end AmountProofs.Json
