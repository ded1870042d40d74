import AmountProofs.Workspace.Display

/-!
Commands on named values.

A command applies an action to values by their names and may give its result a name. An action that
fails names nothing, but what it did to transcripts, to the supply of randomness and to secrets before
it failed is done.
-/

namespace AmountProofs.Workspace

variable {S : Suite}

/-- What a command does with its arguments. -/
inductive Action
  | scalar (data : Payload)
  | scalarOf
  | pointOf
  | handleOf
  | commitmentOf
  | openingFrom
  | secretFrom
  | keypairFrom
  | keypairOf
  | publicKeyNew
  | publicKey
  | secret
  | decode (format : Wire.Format) (data : Payload)
  | commit (amount : Int)
  | encryptWith (amount : Int)
  | encrypt (amount : Int)
  | decryptHandle
  | decrypt
  | zeroCiphertext
  | add
  | sub
  | mul
  | same
  | neg
  | display
  | wipe
  /-- Wipes all arguments at the end of a scope, whose body may fail. -/
  | scope (failure : Option String)
  /-- Looks at a keypair in a scope that wipes it at its end; the body may fail. -/
  | glimpse (failure : Option String)
  | transcript (label : Payload)
  | append (label message : Payload)
  | challenge (label : Payload)
  | clone
  | proveZero
  | proveCommitmentEquality (amount : Int)
  | proveCiphertextEquality (amount : Int)
  | verify

namespace Action

/-- The end of a scope whose body gave a result or failed. -/
def endOf {α : Type} (failure : Option String) (result : α) : Attempt (Store S) α :=
  match failure with
  | some message => throw (.aborted message)
  | none => return result

/-- The part of a value that an action asks for, if the value has it. -/
def need {α : Type} (part : Option α) : Except Failure α :=
  match part with
  | some a => .ok a
  | none => .error .noSuchMember

/-- The opening that the scalar of a value is at present. -/
def asOpening (s : Store S) (v : Value S) : Except Failure Opening := do
  return ⟨s.scalarAt (← need v.scalarCell?)⟩

/-- The secret key that the scalar of a value is at present. -/
def asSecretKey (s : Store S) (v : Value S) : Except Failure SecretKey := do
  return ⟨s.scalarAt (← need v.scalarCell?)⟩

/-- The public key that the point of a value is. -/
def asPublicKey (v : Value S) : Except Failure (PublicKey S) := do return ⟨← need v.point?⟩

def asCiphertext : Value S → Except Failure (Ciphertext S)
  | .ciphertext c => .ok c
  | _ => .error .noSuchMember

/-- The public part of a keypair. In a statement a public key stands in its place, which is no way to
ask for one. -/
def publicPart : Value S → Except Failure (Value S)
  | .keypair _ publicPart _ => .ok publicPart
  | .statement .zeroCiphertext _ | .statement .commitmentEquality _ => .error .wrongType
  | _ => .error .noSuchMember

def secretPart : Value S → Except Failure (Value S)
  | .keypair _ _ secretPart => .ok secretPart
  | _ => .error .noSuchMember

def asKeypair (s : Store S) (v : Value S) : Except Failure (Keypair S) := do
  let k ← asPublicKey (← publicPart v)
  return ⟨k, ← asSecretKey s (← secretPart v)⟩

def asWitness (s : Store S) : (k : ProofKind) → Int → List (Value S) → Except Failure (Witness S k)
  | .zeroCiphertext, _, [keypair, c] => do
    let keypair ← asKeypair s keypair
    return .zeroCiphertext keypair (← asCiphertext c)
  | .commitmentEquality, amount, [keypair, c, opening] => do
    let keypair ← asKeypair s keypair
    let c ← asCiphertext c
    return .commitmentEquality keypair c (← asOpening s opening) amount
  | .ciphertextEquality, amount, [keypair, other, c, opening] => do
    let keypair ← asKeypair s keypair
    let c ← asCiphertext c
    let other ← asPublicKey other
    return .ciphertextEquality keypair other c (← asOpening s opening) amount
  | _, _, _ => .error .wrongType

def asStatement : (k : ProofKind) → List (Value S) → Except Failure (Statement S k)
  | .zeroCiphertext, [key, c] => do
    let key ← asPublicKey key
    return .zeroCiphertext key (← asCiphertext c)
  | .commitmentEquality, [key, c, d] => do
    let key ← asPublicKey key
    let c ← asCiphertext c
    return .commitmentEquality key c ⟨← need d.point?⟩
  | .ciphertextEquality, [key, other, c, d] => do
    let key ← asPublicKey key
    let c ← asCiphertext c
    let other ← asPublicKey other
    return .ciphertextEquality key other c (← asCiphertext d)
  | _, _ => .error .wrongType

/-- The arguments before a transcript that comes last, and its cell. -/
def splitTranscript (arguments : List (Value S)) : Except Failure (List (Value S) × Cell) :=
  match arguments.getLast? with
  | some (.transcript t) => .ok (arguments.dropLast, t)
  | _ => .error .noSuchMember

/-- What comes of arguments on a transcript, which the domain of a kind is separated on in any case. -/
def onDomain {α : Type} (k : ProofKind) (t : Cell) (x : Except Failure α) : Attempt (Store S) α :=
  match x with
  | .ok a => return a
  | .error e => do
    Store.onTranscript t (Transcript.separateDomain (.bytes k.domain))
    throw e

def prove (k : ProofKind) (amount : Int) (arguments : List (Value S)) :
    Attempt (Store S) (Value S) := do
  if arguments.length ≠ k.rows + 1 then throw .wrongType
  let (arguments, t) ← .ofExcept (splitTranscript arguments)
  let w ← onDomain k t (asWitness (← get) k amount arguments)
  return .proof k (← Store.proving t (Proof.create w))

/-- Verifies a proof on a transcript of a statement whose parts are given in the order of its kind. -/
def verifyProof {k : ProofKind} (p : Proof k) (arguments : List (Value S)) :
    Attempt (Store S) (Value S) := do
  if arguments.length ≠ k.rows + 1 then throw .wrongType
  let (arguments, t) ← .ofExcept (splitTranscript arguments)
  let statement ← onDomain k t (asStatement k arguments)
  let verdict := p.verify statement ((← get).transcriptAt t)
  modify (Store.setTranscript t verdict.transcript)
  .ofExcept verdict.result
  return .nothing

/-- Performs an action on arguments. Arguments of kinds that the action does not know lack the members
that it asks for. -/
def perform (action : Action) (arguments : List (Value S)) : Attempt (Store S) (Value S) := do
  match action, arguments with
  | scalar data, _ => Value.ofScalar (← .ofExcept (Scalar.ofPayload data))
  | scalarOf, [v] => return .scalar (← .ofExcept (need v.scalarCell?))
  | pointOf, [v] => return .point (← .ofExcept (need v.point?))
  | handleOf, [v] => return .handle (← .ofExcept (asCiphertext v)).handle
  | commitmentOf, [v] => return .commitment (← .ofExcept (need v.commitment?))
  | openingFrom, [.scalar c] => return .opening c
  | secretFrom, [.scalar c] => Value.ofCell c
  | keypairFrom, [v] =>
    let key ← .ofExcept (asSecretKey (← get) v)
    let k ← .ofExcept (PublicKey.ofSecret key)
    return .keypair (← Store.newSerial) (.publicKey k) v
  | keypairOf, [k, v] =>
    let _ ← .ofExcept (need k.point?)
    let _ ← .ofExcept (need v.scalarCell?)
    return .keypair (← Store.newSerial) k v
  | publicKeyNew, [v] =>
    let key ← .ofExcept (asSecretKey (← get) v)
    return .publicKey (← .ofExcept (PublicKey.ofSecret key))
  | publicKey, [v] => .ofExcept (publicPart v)
  | secret, [v] => .ofExcept (secretPart v)
  | decode format data, _ => Value.ofWire format (← .ofExcept (format.read S data))
  | commit amount, [v] =>
    let _ ← .ofExcept (Scalar.ofAmount amount)
    let opening ← .ofExcept (asOpening (← get) v)
    return .commitment (← .ofExcept (Commitment.create amount opening))
  | encryptWith amount, [.publicKey k, v] =>
    let _ ← .ofExcept (Scalar.ofAmount amount)
    let opening ← .ofExcept (asOpening (← get) v)
    return .ciphertext (← .ofExcept (k.encryptWith amount opening))
  | encrypt amount, [.publicKey k] => return .ciphertext (← Store.onTape (k.encrypt amount))
  | decryptHandle, [.publicKey k, v] =>
    let opening ← .ofExcept (asOpening (← get) v)
    return .handle (← .ofExcept (k.handle opening))
  | decrypt, [.secretKey key, .ciphertext c] =>
    return .point (← .ofExcept (((← get).secretKey key).decrypt c))
  | zeroCiphertext, _ => return .ciphertext .zero
  | add, [a, b] => a.add b
  | sub, [a, b] => a.sub b
  | mul, [a, b] => a.mul b
  | same, [a, b] => return .truth (Value.same (← get) a b)
  | neg, [a] => a.neg
  | display, [a] => return .words a.display.toString
  | wipe, [a] =>
    a.wipe
    return .nothing
  | scope failure, secrets =>
    secrets.forM fun v =>
      match v with
      | .nothing => pure ()
      | v => v.wipe
    endOf failure .nothing
  | glimpse failure, [.keypair serial k key] =>
    let pair ← .ofExcept (asKeypair (← get) (.keypair serial k key))
    key.wipe
    endOf failure (.shown [Bytes.hex pair.publicKey.toBytes, Bytes.hex pair.secretKey.toBytes])
  | glimpse _, [_] => throw .wrongType
  | transcript label, _ =>
    return .transcript (← Store.newTranscript (← .ofExcept (Transcript.create label)))
  | append label message, [.transcript t] =>
    Store.onTranscript t (Transcript.appendMessage label message)
    return .nothing
  | challenge label, [.transcript t] =>
    Value.ofScalar (← Store.onTranscript t (Transcript.challengeScalar label))
  | clone, [.transcript t] => return .transcript (← Store.newTranscript ((← get).transcriptAt t))
  | proveZero, arguments => prove .zeroCiphertext 0 arguments
  | proveCommitmentEquality amount, arguments => prove .commitmentEquality amount arguments
  | proveCiphertextEquality amount, arguments => prove .ciphertextEquality amount arguments
  | verify, .proof _ p :: arguments => verifyProof p arguments
  | _, _ => throw .noSuchMember

end Action

/-- A command: an action, the names of its arguments, and the name its result is given. An argument
without a name is nothing. -/
structure Command where
  action : Action
  arguments : List (Option String)
  result : Option String

structure Session (S : Suite) where
  store : Store S
  names : List (String × Value S)

namespace Session

def start (tape : Tape) : Session S := ⟨Store.empty tape, []⟩

/-- The value with a name; nothing if there is none. -/
def valueOf (s : Session S) : Option String → Value S
  | some name => (s.names.lookup name).getD .nothing
  | none => .nothing

/-- Gives a value a name; a value that had the name before loses it. -/
def bind (name : String) (v : Value S) : List (String × Value S) → List (String × Value S)
  | [] => [(name, v)]
  | (n, old) :: rest => if n == name then (n, v) :: rest else (n, old) :: bind name v rest

def run (command : Command) (s : Session S) : Except Failure (Value S) × Session S :=
  let (outcome, store) := (command.action.perform (command.arguments.map s.valueOf)).on s.store
  match outcome, command.result with
  | .ok v, some name => (.ok v, ⟨store, bind name v s.names⟩)
  | outcome, _ => (outcome, { s with store := store })

end Session

end AmountProofs.Workspace
