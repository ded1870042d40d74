import AmountProofs.Chunks
import AmountProofs.Proof.Statement
import AmountProofs.Transcript

/-!
Proofs, how they are made and how they are written.

To make a proof, draw a mask for every scalar of the witness, announce the values of the equations'
left sides at the masks, draw a challenge `c`, and respond with `c * w + y` for every scalar `w` and
its mask `y`. A second challenge is drawn and dropped; where the verifier draws one, it has absorbed the
responses before.

A proof keeps the announced points as they were handed over; only reading and verifying check them.
-/

namespace AmountProofs

variable {S : Suite} {k : ProofKind}

/-- A proof: an encoded point for every equation and a scalar for every scalar of the witness. -/
structure Proof (k : ProofKind) where
  announcements : Fin k.rows → Payload
  responses : Fin k.witnesses → Scalar

/-- What the making of a proof changes: the transcript and the supply of randomness. -/
structure Proving (S : Suite) where
  transcript : Transcript S
  tape : Tape

namespace Proving

def onTranscript {α : Type} : Attempt (Transcript S) α → Attempt (Proving S) α :=
  .zoom (·.transcript) fun t s => { s with transcript := t }

def onTape {α : Type} : Attempt Tape α → Attempt (Proving S) α :=
  .zoom (·.tape) fun t s => { s with tape := t }

end Proving

namespace Witness

def drawMasks (k : ProofKind) : Attempt Tape (Fin k.witnesses → Scalar) :=
  Indexed.traverse fun _ => Tape.scalar

/-- The points that are announced for given masks. -/
def announce (w : Witness S k) (masks : Fin k.witnesses → Scalar) :
    Except Failure (Fin k.rows → Point S) :=
  Indexed.traverse fun i => (w.forms i).value masks

/-- The responses to a challenge. -/
def respond (c : Scalar) (secrets masks : Fin k.witnesses → Scalar) : Fin k.witnesses → Scalar :=
  fun j => c * secrets j + masks j

end Witness

namespace Proof

def label (name : String) : Payload := .bytes (Bytes.ofAscii name)

/-- The label of the challenge that the responses answer. -/
def challengeLabel : Payload := label "c"

/-- The label of the challenge that weighs the equations. -/
def weightLabel : Payload := label "w"

/-- Announces points on a transcript, draws the challenge and drops the one after it. -/
def challenge (encoded : Fin k.rows → Payload) : Attempt (Transcript S) Scalar := do
  Indexed.each fun i => Transcript.appendPoint (label (k.announcementName i)) (encoded i)
  let c ← Transcript.challengeScalar challengeLabel
  let _ ← Transcript.challengeScalar weightLabel
  return c

/-- Makes a proof. Keys and ciphertexts have to be in the transcript already. -/
def create (w : Witness S k) : Attempt (Proving S) (Proof k) := do
  Proving.onTranscript (Transcript.separateDomain (.bytes k.domain))
  let secrets ← .ofExcept w.scalars
  let masks ← Proving.onTape (Witness.drawMasks k)
  let points ← .ofExcept (w.announce masks)
  let encoded : Fin k.rows → Payload := fun i => .bytes (points i).toBytes
  let c ← Proving.onTranscript (challenge encoded)
  return ⟨encoded, Witness.respond c secrets masks⟩

/-- The fields of a proof in the order in which they are written. -/
def fields (p : Proof k) : List Chunks.Field :=
  List.ofFn (fun i => .payload (p.announcements i)) ++ List.ofFn (fun j => .scalar (p.responses j))

def toBytes (p : Proof k) : Except Failure Bytes := Chunks.join p.fields

/-- Reads a proof: exactly as many chunks as its kind has, the announcements points, the responses
reduced scalars. All failures are rejections of the kind's family. -/
def ofPayload (S : Suite) (k : ProofKind) (data : Payload) : Except Failure (Proof k) :=
  within k.family do
    let b ← Chunks.exactly (Chunks.size * k.chunks) data
    let part (i : Nat) : Payload := .bytes (Word.toBytes (Chunks.chunk b i))
    let announcements ← Indexed.traverse fun i : Fin k.rows => Chunks.pointBytes S (part i)
    let responses ← Indexed.traverse fun j : Fin k.witnesses => Chunks.scalar (part (k.rows + j))
    return ⟨fun i => .bytes (announcements i), responses⟩

/-- Equality of proofs: announcements by content, responses by what they store. -/
def same (p q : Proof k) : Bool :=
  (List.finRange k.rows).all (fun i => (p.announcements i).same (q.announcements i))
    && (List.finRange k.witnesses).all (fun j => p.responses j == q.responses j)

end Proof

end AmountProofs
