import AmountProofs.Json

/-!
Reading JSON.

The reader accepts what RFC-style JSON accepts and three words more (`NaN`, `Infinity`,
`-Infinity`). Names that occur twice in an object keep the first place and the last value, escapes
may name unpaired surrogates, control characters in strings are refused, and so is anything but
white space after the value. Nesting has a limit, which is the caller's, and so has the number of an
integer's digits; to pass either is a failure of its own.
-/

namespace AmountProofs.Json

/-- Why a text was not read. -/
inductive ReadFailure
  | malformed
  | tooDeep
  | tooManyDigits (got : Nat)
  deriving DecidableEq, Repr

namespace Reader

open CodePoint (isChar isDigit)

/-- Blank, tab, line feed and carriage return. -/
def isSpace (c : CodePoint) : Bool := c.val == 32 || c.val == 9 || c.val == 10 || c.val == 13

def skipSpace (t : Text) : Text := t.dropWhile isSpace

/-- The text after a fixed word, if it starts with it. -/
def afterWord? (word : String) (t : Text) : Option Text :=
  let w := Text.ofString word
  if w.isPrefixOf t then some (t.drop w.length) else none

def hexDigit? (c : CodePoint) : Option Nat := Bytes.hexValue? (Char.ofNat c.val)

def hexUnit? : Text → Option (Nat × Text)
  | a :: b :: c :: d :: rest => do
    let w ← hexDigit? a
    let x ← hexDigit? b
    let y ← hexDigit? c
    let z ← hexDigit? d
    return (((w * 16 + x) * 16 + y) * 16 + z, rest)
  | _ => none

/-- The character that a short escape stands for. -/
def shortEscape? (c : CodePoint) : Option CodePoint :=
  if isChar c '"' || isChar c '\\' || isChar c '/' then some c
  else if isChar c 'b' then some 8
  else if isChar c 'f' then some 12
  else if isChar c 'n' then some 10
  else if isChar c 'r' then some 13
  else if isChar c 't' then some 9
  else none

/-- The code point of a numeric escape. A high unit takes the low unit escaped behind it along;
without one it stays an unpaired surrogate. -/
def numericEscape? (t : Text) : Option (CodePoint × Text) := do
  let (unit, rest) ← hexUnit? t
  let alone := (Fin.ofNat 0x110000 unit, rest)
  if 0xD800 ≤ unit ∧ unit < 0xDC00 then
    match afterWord? "\\u" rest with
    | some next =>
      match hexUnit? next with
      | some (low, after) =>
        if 0xDC00 ≤ low ∧ low < 0xE000 then
          return (Fin.ofNat 0x110000 (0x10000 + (unit - 0xD800) * 0x400 + (low - 0xDC00)), after)
        else return alone
      | none => return alone
    | none => return alone
  else return alone

/-- The rest of a string after its opening quote; `fuel` bounds the characters read. -/
def string? : (fuel : Nat) → Text → Option (Text × Text)
  | 0, _ => none
  | _ + 1, [] => none
  | fuel + 1, c :: rest =>
    if isChar c '"' then some ([], rest)
    else if isChar c '\\' then
      match rest with
      | [] => none
      | e :: after =>
        if isChar e 'u' then do
          let (point, after) ← numericEscape? after
          let (tail, after) ← string? fuel after
          return (point :: tail, after)
        else do
          let point ← shortEscape? e
          let (tail, after) ← string? fuel after
          return (point :: tail, after)
    else if c.val < 32 then none
    else do
      let (tail, after) ← string? fuel rest
      return (c :: tail, after)

/-- An integer or floating point number: sign, digits without leading zeros, and optionally a
fraction and an exponent. What follows is left for the caller. -/
def number? (t : Text) : Option (Json × Text) :=
  let (negative, unsigned) := match t with
    | c :: rest => if isChar c '-' then (true, rest) else (false, t)
    | [] => (false, t)
  let whole := match unsigned with
    | c :: _ => if isChar c '0' then [c] else unsigned.takeWhile isDigit
    | [] => []
  if whole.isEmpty then none
  else
    let rest := unsigned.drop whole.length
    let fraction := match rest with
      | c :: after => if isChar c '.' then after.takeWhile isDigit else []
      | [] => []
    let afterFraction := if fraction.isEmpty then rest else rest.drop (fraction.length + 1)
    let (exponent, afterNumber) : Option Int × Text := match afterFraction with
      | c :: after =>
        if isChar c 'e' || isChar c 'E' then
          let (minus, unsignedExponent) := match after with
            | s :: tail =>
              if isChar s '-' then (true, tail) else if isChar s '+' then (false, tail) else (false, after)
            | [] => (false, after)
          let size := unsignedExponent.takeWhile isDigit
          if size.isEmpty then (none, afterFraction)
          else
            let value : Int := Text.digitsValue size
            (some (if minus then -value else value), unsignedExponent.drop size.length)
        else (none, afterFraction)
      | [] => (none, afterFraction)
    if fraction.isEmpty && exponent.isNone then
      let n : Int := Text.digitsValue whole
      some (.int (if negative then -n else n), afterNumber)
    else
      let digits := (whole ++ fraction).dropWhile (isChar · '0')
      some (.float (Binary64.ofDecimal negative (Text.digitsValue digits) digits.length
        (exponent.getD 0 - fraction.length)), afterNumber)

def wordValues : List (String × Json) :=
  [("null", .null), ("true", .bool true), ("false", .bool false), ("NaN", .float .nan),
   ("Infinity", .float (.infinite false)), ("-Infinity", .float (.infinite true))]

/-- A value without parts: a word or a number. -/
def atom? (t : Text) : Option (Json × Text) :=
  match wordValues.findSome? fun (word, v) => (afterWord? word t).map fun rest => (v, rest) with
  | some found => some found
  | none => number? t

/-- The same, with integers of too many digits refused. -/
def atom (t : Text) : Except ReadFailure (Json × Text) :=
  match atom? t with
  | some (.int n, rest) =>
    if Decimal.isShort n then .ok (.int n, rest) else .error (.tooManyDigits (Decimal.digitCount n))
  | some found => .ok found
  | none => .error .malformed

mutual

/-- Reads one value at the start of the text. -/
def value : (fuel depth : Nat) → Text → Except ReadFailure (Json × Text)
  | 0, _, _ => .error .malformed
  | _ + 1, _, [] => .error .malformed
  | fuel + 1, depth, c :: rest =>
    if isChar c '"' then
      match string? (rest.length + 1) rest with
      | some (s, after) => .ok (.text s, after)
      | none => .error .malformed
    else if isChar c '[' then
      if depth = 0 then .error .tooDeep
      else
        match skipSpace rest with
        | d :: after =>
          if isChar d ']' then .ok (.list [], after)
          else do
            let (items, after) ← items fuel (depth - 1) (d :: after)
            return (.list items, after)
        | [] => .error .malformed
    else if isChar c '{' then
      if depth = 0 then .error .tooDeep
      else
        match skipSpace rest with
        | d :: after =>
          if isChar d '}' then .ok (.object [], after)
          else do
            let (members, after) ← members fuel (depth - 1) [] (d :: after)
            return (.object members, after)
        | [] => .error .malformed
    else atom (c :: rest)

/-- Reads the items of a list up to its closing bracket, at least one. -/
def items : (fuel depth : Nat) → Text → Except ReadFailure (List Json × Text)
  | 0, _, _ => .error .malformed
  | fuel + 1, depth, t => do
    let (first, rest) ← value fuel depth t
    match skipSpace rest with
    | c :: after =>
      if isChar c ']' then return ([first], after)
      else if isChar c ',' then
        let (others, after) ← items fuel depth (skipSpace after)
        return (first :: others, after)
      else .error .malformed
    | [] => .error .malformed

/-- Reads the members of an object up to its closing brace, at least one, onto those before. -/
def members : (fuel depth : Nat) → List (Text × Json) → Text →
    Except ReadFailure (List (Text × Json) × Text)
  | 0, _, _, _ => .error .malformed
  | _ + 1, _, _, [] => .error .malformed
  | fuel + 1, depth, before, q :: t => do
    if !isChar q '"' then .error .malformed
    match string? (t.length + 1) t with
    | none => .error .malformed
    | some (name, rest) =>
      match skipSpace rest with
      | colon :: rest =>
        if !isChar colon ':' then .error .malformed
        let (v, rest) ← value fuel depth (skipSpace rest)
        let known := setMember name v before
        match skipSpace rest with
        | c :: after =>
          if isChar c '}' then return (known, after)
          else if isChar c ',' then members fuel depth known (skipSpace after)
          else .error .malformed
        | [] => .error .malformed
      | [] => .error .malformed

end

end Reader

/-- Reads a text that is one JSON value between white space; `nesting` is the deepest nesting of lists
and objects that is read. -/
def parse (t : Text) (nesting : Nat := callLimit) : Except ReadFailure Json := do
  let (v, rest) ← Reader.value (2 * t.length + 2) nesting (Reader.skipSpace t)
  if (Reader.skipSpace rest).isEmpty then return v else .error .malformed

end AmountProofs.Json
