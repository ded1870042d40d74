import AmountProofs.Wire

/-!
Values that share secrets.

A secret scalar may be reached in several ways: as itself, as the opening or the secret key made of it,
or through a keypair. All of them refer to one cell of a store, so wiping the secret through one of them
wipes it for all. Transcripts are kept in cells too, because they change. All other values are
immutable and stand for themselves.
-/

namespace AmountProofs.Workspace

/-- The position of a scalar or a transcript in a store. -/
abbrev Cell := Nat

/-- A secret key that was made at a moment: two keys of one scalar are still two keys. -/
structure KeyObject where
  serial : Nat
  cell : Cell
  deriving DecidableEq, Repr

inductive Value (S : Suite)
  | nothing
  | truth (b : Bool)
  | words (t : String)
  | integer (n : Int)
  | point (p : Point S)
  | publicKey (k : PublicKey S)
  | commitment (c : Commitment S)
  | handle (h : Handle S)
  | ciphertext (c : Ciphertext S)
  | scalar (cell : Cell)
  | opening (cell : Cell)
  | secretKey (key : KeyObject)
  /-- A keypair made at a moment, of a value with a point and a value with a secret. -/
  | keypair (serial : Nat) (publicPart secretPart : Value S)
  /-- What was shown of several values at a moment. -/
  | shown (texts : List String)
  | transcript (cell : Cell)
  | proof (k : ProofKind) (p : Proof k)
  | statement (k : ProofKind) (s : Statement S k)
  | bundle (k : ProofKind) (b : Bundle S k)

/-- The cells that values refer to, the serial number of the next key, and the supply of
randomness. -/
structure Store (S : Suite) where
  scalars : List Scalar
  transcripts : List (Transcript S)
  nextSerial : Nat
  tape : Tape

namespace Store

variable {S : Suite}

def empty (tape : Tape) : Store S := ⟨[], [], 0, tape⟩

def scalarAt (s : Store S) (c : Cell) : Scalar := s.scalars.getD c Scalar.zero

def transcriptAt (s : Store S) (c : Cell) : Transcript S := s.transcripts.getD c Transcript.start

/-- Overwrites a scalar with zero. -/
def wipe (c : Cell) (s : Store S) : Store S := { s with scalars := s.scalars.set c Scalar.zero }

def setTranscript (c : Cell) (t : Transcript S) (s : Store S) : Store S :=
  { s with transcripts := s.transcripts.set c t }

def newScalar (x : Scalar) : Attempt (Store S) Cell := do
  let s ← get
  set { s with scalars := s.scalars ++ [x] }
  return s.scalars.length

def newTranscript (t : Transcript S) : Attempt (Store S) Cell := do
  let s ← get
  set { s with transcripts := s.transcripts ++ [t] }
  return s.transcripts.length

def newSerial : Attempt (Store S) Nat := do
  let s ← get
  set { s with nextSerial := s.nextSerial + 1 }
  return s.nextSerial

def onTape {α : Type} : Attempt Tape α → Attempt (Store S) α :=
  .zoom (·.tape) fun t s => { s with tape := t }

/-- Runs an operation on the transcript in a cell. -/
def onTranscript {α : Type} (c : Cell) : Attempt (Transcript S) α → Attempt (Store S) α :=
  .zoom (·.transcriptAt c) (setTranscript c)

/-- Runs a computation that uses randomness and the transcript in a cell. -/
def proving {α : Type} (c : Cell) : Attempt (Proving S) α → Attempt (Store S) α :=
  .zoom (fun s => ⟨s.transcriptAt c, s.tape⟩)
    fun p s => { s.setTranscript c p.transcript with tape := p.tape }

/-- The secret key that a key object stands for at present. -/
def secretKey (s : Store S) (key : KeyObject) : SecretKey := ⟨s.scalarAt key.cell⟩

end Store

namespace Value

variable {S : Suite}

def ofScalar (x : Scalar) : Attempt (Store S) (Value S) := do return .scalar (← Store.newScalar x)

def ofOpening (r : Opening) : Attempt (Store S) (Value S) := do
  return .opening (← Store.newScalar r.scalar)

/-- A new secret key whose scalar is in a cell. -/
def ofCell (c : Cell) : Attempt (Store S) (Value S) := do
  return .secretKey ⟨← Store.newSerial, c⟩

/-- A new value from one that was read. -/
def ofWire : (f : Wire.Format) → f.Value S → Attempt (Store S) (Value S)
  | .secretKey, s => do ofCell (← Store.newScalar s.scalar)
  | .publicKey, k => pure (.publicKey k)
  | .opening, r => ofOpening r
  | .commitment, c => pure (.commitment c)
  | .handle, h => pure (.handle h)
  | .ciphertext, c => pure (.ciphertext c)
  | .proof k, p => pure (.proof k p)
  | .statement k, s => pure (.statement k s)
  | .bundle k, b => pure (.bundle k b)

/-- The point of a value that is made of one: a public key, a commitment or a handle. Each of them
serves where another one is asked for. -/
def point? : Value S → Option (Point S)
  | publicKey k => some k.point
  | commitment c => some c.point
  | handle h => some h.point
  | _ => none

/-- The cell of the scalar of a value that is made of one: an opening or a secret key. Each of them
serves where the other one is asked for. -/
def scalarCell? : Value S → Option Cell
  | opening c => some c
  | secretKey key => some key.cell
  | _ => none

/-- The commitment in a value: in a ciphertext, or in a statement about one. -/
def commitment? : Value S → Option (Commitment S)
  | ciphertext c => some c.commitment
  | statement _ (.commitmentEquality _ _ c) => some c
  | _ => none

/-- The cell of the secret that a value lets one wipe. -/
def secretCell? : Value S → Option Cell
  | scalar c => some c
  | keypair _ _ secretPart => secretPart.scalarCell?
  | v => v.scalarCell?

/-- The integer that a value counts as: an integer, or a truth value as one or zero. -/
def asInteger? : Value S → Option Int
  | integer n => some n
  | truth b => some (if b then 1 else 0)
  | _ => none

/-- An operation on integers, if both values count as some. -/
def onIntegers (operation : Int → Int → Int) (a b : Value S) : Attempt (Store S) (Value S) :=
  match a.asInteger?, b.asInteger? with
  | some m, some n => return .integer (operation m n)
  | _, _ => throw .wrongType

def wipe (v : Value S) : Attempt (Store S) Unit :=
  match v.secretCell? with
  | some c => modify (Store.wipe c)
  | none => throw .noSuchMember

/-- The sum of two values of one kind; texts and lists of texts are joined. To an opening, a commitment
or a handle, any value that serves in its place may be added. -/
def add (a b : Value S) : Attempt (Store S) (Value S) := do
  match a, b with
  | words s, words t => return .words (s ++ t)
  | shown s, shown t => return .shown (s ++ t)
  | scalar c, scalar d => ofScalar ((← get).scalarAt c + (← get).scalarAt d)
  | point p, point q => return .point (← .ofExcept (p.add q))
  | ciphertext x, ciphertext y => return .ciphertext (← .ofExcept (x.add y))
  | opening c, b =>
    let some d := b.scalarCell? | throw .wrongType
    ofOpening (⟨(← get).scalarAt c⟩ + ⟨(← get).scalarAt d⟩)
  | commitment x, b =>
    let some q := b.point? | throw .wrongType
    return .commitment (← .ofExcept (x.add ⟨q⟩))
  | handle x, b =>
    let some q := b.point? | throw .wrongType
    return .handle (← .ofExcept (x.add ⟨q⟩))
  | a, b => onIntegers (· + ·) a b

/-- The difference of two values of one kind. From an opening, a commitment or a handle, any value
that serves in its place may be taken away. -/
def sub (a b : Value S) : Attempt (Store S) (Value S) := do
  match a, b with
  | scalar c, scalar d => ofScalar ((← get).scalarAt c - (← get).scalarAt d)
  | point p, point q => return .point (← .ofExcept (p.sub q))
  | ciphertext x, ciphertext y => return .ciphertext (← .ofExcept (x.sub y))
  | opening c, b =>
    let some d := b.scalarCell? | throw .wrongType
    ofOpening (⟨(← get).scalarAt c⟩ - ⟨(← get).scalarAt d⟩)
  | commitment x, b =>
    let some q := b.point? | throw .wrongType
    return .commitment (← .ofExcept (x.sub ⟨q⟩))
  | handle x, b =>
    let some q := b.point? | throw .wrongType
    return .handle (← .ofExcept (x.sub ⟨q⟩))
  | a, b => onIntegers (· - ·) a b

/-- A text or a list of texts, joined with itself an integral number of times. -/
def times? (v : Value S) (n : Int) : Option (Value S) :=
  match v with
  | words t => some (.words ("".intercalate (List.replicate n.toNat t)))
  | shown texts => some (.shown (List.replicate n.toNat texts).flatten)
  | _ => none

/-- The product of a scalar with a scalar or a point, or of an integer with a text or an integer. -/
def mul (a b : Value S) : Attempt (Store S) (Value S) := do
  match a, b with
  | scalar c, scalar d => ofScalar ((← get).scalarAt c * (← get).scalarAt d)
  | scalar c, point p => return .point (← .ofExcept (Point.mul ((← get).scalarAt c) p))
  | a, b =>
    match b.asInteger?.bind a.times? <|> a.asInteger?.bind b.times? with
    | some v => return v
    | none => onIntegers (· * ·) a b

def neg (a : Value S) : Attempt (Store S) (Value S) := do
  match a with
  | scalar c => ofScalar (-(← get).scalarAt c)
  | point p => return .point (← .ofExcept p.neg)
  | a => onIntegers (· - ·) (.integer 0) a

/-- Equality of values: of scalars and openings by what their cells hold, of keys and transcripts by
identity, of all others by content. -/
def same (s : Store S) (a b : Value S) : Bool :=
  match a, b with
  | nothing, nothing => true
  | words x, words y => x == y
  | point p, point q => p == q
  | publicKey x, publicKey y => x == y
  | commitment x, commitment y => x == y
  | handle x, handle y => x == y
  | ciphertext x, ciphertext y => x == y
  | scalar c, scalar d | opening c, opening d => s.scalarAt c == s.scalarAt d
  | secretKey x, secretKey y => x == y
  | keypair m _ _, keypair n _ _ => m == n
  | shown x, shown y => x == y
  | transcript c, transcript d => c == d
  | proof k p, proof l q => if h : l = k then p.same (h ▸ q) else false
  | statement k x, statement l y => if h : l = k then decide (x = h ▸ y) else false
  | bundle k x, bundle l y =>
    if h : l = k then decide (x.statement = h ▸ y.statement) && x.proof.same (h ▸ y.proof) else false
  | a, b => a.asInteger?.isSome && a.asInteger? == b.asInteger?

end Value

end AmountProofs.Workspace
