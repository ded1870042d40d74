import AmountProofs.Text

/-!
Base64 text.

`Base64.encode` writes three bytes as four digits and pads the last group with signs. `Base64.decode`
reads such a text: `scan` checks its characters and collects the digits, and `regroup` turns digits
into bytes again. The reader refuses every foreign character, but it takes more padding signs than
needed behind a full group, and it drops the bits of the last digit that belong to no byte.
-/

namespace AmountProofs.Base64

/-- A digit of six bits. -/
abbrev Digit := Fin 64

/-- The padding sign. -/
def pad : CodePoint := CodePoint.ofChar '='

/-- The sign of a digit: upper-case letters, lower-case letters, decimal digits, plus, slash. -/
def sign (d : Digit) : CodePoint :=
  if d.val < 26 then Fin.ofNat 0x110000 (65 + d.val)
  else if d.val < 52 then Fin.ofNat 0x110000 (97 + (d.val - 26))
  else if d.val < 62 then Fin.ofNat 0x110000 (48 + (d.val - 52))
  else if d.val = 62 then CodePoint.ofChar '+'
  else CodePoint.ofChar '/'

def digit? (c : CodePoint) : Option Digit :=
  if 65 ≤ c.val ∧ c.val ≤ 90 then some (Fin.ofNat 64 (c.val - 65))
  else if 97 ≤ c.val ∧ c.val ≤ 122 then some (Fin.ofNat 64 (c.val - 97 + 26))
  else if 48 ≤ c.val ∧ c.val ≤ 57 then some (Fin.ofNat 64 (c.val - 48 + 52))
  else if c.val = 43 then some 62
  else if c.val = 47 then some 63
  else none

def firstDigit (a : UInt8) : Digit := Fin.ofNat 64 (a.toNat / 4)

def secondDigit (a b : UInt8) : Digit := Fin.ofNat 64 (a.toNat % 4 * 16 + b.toNat / 16)

def thirdDigit (b c : UInt8) : Digit := Fin.ofNat 64 (b.toNat % 16 * 4 + c.toNat / 64)

def fourthDigit (c : UInt8) : Digit := Fin.ofNat 64 c.toNat

def encode : Bytes → Text
  | [] => []
  | [a] => [sign (firstDigit a), sign (secondDigit a 0), pad, pad]
  | [a, b] => [sign (firstDigit a), sign (secondDigit a b), sign (thirdDigit b 0), pad]
  | a :: b :: c :: rest =>
    sign (firstDigit a) :: sign (secondDigit a b) :: sign (thirdDigit b c) :: sign (fourthDigit c)
      :: encode rest

/-- Why a text was not read. -/
inductive Fault
  | notAscii
  | leadingPadding
  | foreignCharacter
  | excessData
  | discontinuousPadding
  | loneDigit (count : Nat)
  | incorrectPadding
  deriving DecidableEq, Repr

def Fault.message : Fault → String
  | notAscii => "string argument should contain only ASCII characters"
  | leadingPadding => "Leading padding not allowed"
  | foreignCharacter => "Only base64 data is allowed"
  | excessData => "Excess data after padding"
  | discontinuousPadding => "Discontinuous padding not allowed"
  | loneDigit count =>
    "Invalid base64-encoded string: number of data characters (" ++ toString count
      ++ ") cannot be 1 more than a multiple of 4"
  | incorrectPadding => "Incorrect padding"

/-- Whether the digits so far and the padding signs behind them complete a group. -/
def completes (count pads : Nat) : Bool := 2 ≤ count % 4 && 4 ≤ count % 4 + pads

/-- The digits of a text that goes on after `count` digits. `padded` tells whether a padding sign
came before, `pads` counts the signs behind the digits of a group that has two or three. -/
def scan (count : Nat) (padded : Bool) (pads : Nat) : Text → Except Fault (List Digit)
  | [] =>
    if count % 4 = 0 then .ok []
    else if count % 4 = 1 then .error (.loneDigit count)
    else .error .incorrectPadding
  | c :: rest =>
    if c = pad then
      if completes count (pads + 1) then
        if rest.isEmpty then .ok [] else .error .excessData
      else scan count true (if 2 ≤ count % 4 then pads + 1 else pads) rest
    else
      match digit? c with
      | none => .error .foreignCharacter
      | some d =>
        if padded then .error .discontinuousPadding
        else do
          let tail ← scan (count + 1) padded 0 rest
          return d :: tail

/-- The bytes that digits spell. -/
def regroup : List Digit → Bytes
  | a :: b :: c :: d :: rest =>
    UInt8.ofNat (a.val * 4 + b.val / 16) :: UInt8.ofNat (b.val * 16 + c.val / 4)
      :: UInt8.ofNat (c.val * 64 + d.val) :: regroup rest
  | [a, b, c] => [UInt8.ofNat (a.val * 4 + b.val / 16), UInt8.ofNat (b.val * 16 + c.val / 4)]
  | [a, b] => [UInt8.ofNat (a.val * 4 + b.val / 16)]
  | _ => []

def decode (t : Text) : Except Fault Bytes :=
  if t.any (fun c => 128 ≤ c.val) then .error .notAscii
  else if t.head? = some pad then .error .leadingPadding
  else (scan 0 false 0 t).map regroup

end AmountProofs.Base64
