import AmountProofs.Suite

/-!
Group elements as the library stores them.

A point stores the word that encodes it, and the neutral element is stored as the word one (`x = 0`,
`y = 1`). The curve's own operations refuse the neutral element and the zero scalar here and there,
so both are handled before the curve is asked. Where a point is written out, the neutral element is
32 zero bytes, which encode no other element of the group.
-/

namespace AmountProofs

/-- A stored point of a suite's curve. Nothing is assumed of the word: only reading a point checks
it. -/
structure Point (S : Suite) where
  word : Word
  deriving DecidableEq, Repr

namespace Point

variable {S : Suite}

def neutral : Point S := ⟨Suite.neutralWord⟩

/-- The generator of amounts. -/
def base : Point S := ⟨S.base⟩

/-- The generator of openings. -/
def blinding : Point S := ⟨S.blinding⟩

/-- Whether a point is stored as the neutral element. -/
def isNeutral (p : Point S) : Bool := p.word == Suite.neutralWord

/-- The word that is written out for a point. -/
def wire (p : Point S) : Word := if p.isNeutral then Suite.neutralWire else p.word

def toBytes (p : Point S) : Bytes := Word.toBytes p.wire

/-- The point that a word stands for where points are written out. -/
def ofWire? (w : Word) : Option (Point S) :=
  if w = Suite.neutralWire then some neutral
  else if S.isValid w then some ⟨w⟩
  else none

/-- A word read as a point. -/
def ofWire (w : Word) : Except Failure (Point S) :=
  match ofWire? w with
  | some p => .ok p
  | none => .error (.malformed "invalid point encoding" .null)

/-- A payload read as a point: 32 bytes that stand for one. -/
def ofPayload (p : Payload) : Except Failure (Point S) := do
  let size ← p.size
  if size ≠ 32 then throw (.malformed s!"point must be 32 bytes, got {size}" .null)
  let b ← p.toBytes
  ofWire (Word.ofBytes b)

/-- The point that a payload is read as, if it is well formed. Other failures to read it stay. -/
def tryOfPayload (p : Payload) : Except Failure (Option (Point S)) :=
  match (ofPayload p : Except Failure (Point S)) with
  | .ok q => .ok (some q)
  | .error (.library e) => if e.kind = .deserialization then .ok none else .error (.library e)
  | .error e => .error e

/-- A payload of 32 bytes read as a point; `role` names it if it has another size. -/
def ofNamed (role : String) (p : Payload) : Except Failure (Point S) := do
  let size ← p.size
  if size ≠ 32 then throw (.malformed s!"{role} must be 32 bytes, got {size}" .null)
  ofPayload p

private def ofCurve : Option Word → Except Failure (Point S)
  | some w => .ok ⟨w⟩
  | none => .error .refused

def add (p q : Point S) : Except Failure (Point S) :=
  if p.isNeutral then .ok q
  else if q.isNeutral then .ok p
  else ofCurve (S.add p.word q.word)

def sub (p q : Point S) : Except Failure (Point S) :=
  if q.isNeutral then .ok p else ofCurve (S.sub p.word q.word)

def neg (p : Point S) : Except Failure (Point S) := sub neutral p

def mul (s : Scalar) (p : Point S) : Except Failure (Point S) :=
  if s.isZero || p.isNeutral then .ok neutral else ofCurve (S.mul s p.word)

/-- What is shown of a point: the first quarter of its text. -/
def display (p : Point S) : String :=
  "GroupElement(" ++ String.ofList ((Word.hex p.wire).toList.take 16) ++ "...)"

end Point

end AmountProofs
