import AmountProofs.Json.Display

/-!
How operations fail.

A `LibraryError` is an error of the library itself: a code, a reason in words and optional details.
Errors of rejected proofs belong to a family, and `LibraryError.rewrap` turns a low-level error
into one of a family, keeping code, reason and details; the message is built from the reason once,
so it does not grow when errors are rewrapped again. All other ways to fail (a value out of range,
a value of the wrong type, exhausted randomness) are the further constructors of `Failure`.
-/

namespace AmountProofs

/-- What went wrong, as a number that callers may test. -/
inductive ErrorCode
  | algebraicRelation
  | deserialization
  | multiscalarMul
  | transcript
  | pubkeyIsIdentity
  | invalidConfig
  deriving DecidableEq, Repr

namespace ErrorCode

def all : List ErrorCode :=
  [algebraicRelation, deserialization, multiscalarMul, transcript, pubkeyIsIdentity, invalidConfig]

/-- One thousand and on for proofs, two thousand and on for settings. -/
def number : ErrorCode → Nat
  | algebraicRelation => 1001
  | deserialization => 1002
  | multiscalarMul => 1003
  | transcript => 1004
  | pubkeyIsIdentity => 1005
  | invalidConfig => 2001

def name : ErrorCode → String
  | algebraicRelation => "ALGEBRAIC_RELATION"
  | deserialization => "DESERIALIZATION"
  | multiscalarMul => "MULTISCALAR_MUL"
  | transcript => "TRANSCRIPT"
  | pubkeyIsIdentity => "PUBKEY_IS_IDENTITY"
  | invalidConfig => "INVALID_CONFIG"

/-- The reason given when none is stated. -/
def defaultReason : ErrorCode → String
  | algebraicRelation => "required algebraic relation does not hold"
  | deserialization => "malformed proof"
  | multiscalarMul => "multiscalar multiplication failed"
  | transcript => "transcript failed to produce a challenge"
  | pubkeyIsIdentity => "public key is the identity"
  | invalidConfig => "invalid configuration"

/-- The code whose number a value equals. -/
def ofJson? (v : Json) : Option ErrorCode := all.find? fun c => v.same (.int c.number)

end ErrorCode

/-- The families of rejected proofs; every rejection belongs to the general one too. -/
inductive ProofFamily
  | general
  | equality
  | zeroCiphertext
  deriving DecidableEq, Repr

/-- What a family's messages call its proofs. -/
def ProofFamily.title : ProofFamily → String
  | general => "sigma proof"
  | equality => "equality proof"
  | zeroCiphertext => "zero-ciphertext proof"

/-- The part of the library that an error comes from. -/
inductive ErrorKind
  | unspecific
  | transcript
  | deserialization
  | multiscalarMul
  | settings
  | rejection (family : ProofFamily)
  deriving DecidableEq, Repr

namespace ErrorKind

/-- The code that all errors of a kind have, for kinds with a single code. -/
def ownCode? : ErrorKind → Option ErrorCode
  | transcript => some .transcript
  | deserialization => some .deserialization
  | multiscalarMul => some .multiscalarMul
  | settings => some .invalidConfig
  | unspecific | rejection _ => none

/-- Whether errors of the kind count as rejections of a family. -/
def isRejectionOf (f : ProofFamily) : ErrorKind → Bool
  | rejection g => f == .general || g == f
  | _ => false

/-- The kinds that a verifier or a proof reader reports as rejections. -/
def isRewrapped : ErrorKind → Bool
  | transcript | deserialization | multiscalarMul | rejection _ => true
  | unspecific | settings => false

end ErrorKind

structure LibraryError where
  kind : ErrorKind
  code : ErrorCode
  reason : String
  details : Option Json

namespace LibraryError

/-- An error with a reason; an empty one gives way to the code's own, and null details are none. -/
def create (kind : ErrorKind) (code : ErrorCode) (reason : String) (details : Json) : LibraryError where
  kind := kind
  code := code
  reason := if reason.isEmpty then code.defaultReason else reason
  details := match details with
    | .null => none
    | d => some d

/-- What happened, in words: for a rejection, with the name of its family's proofs. -/
def text (e : LibraryError) : String :=
  match e.kind with
  | .rejection f => f.title ++ " verification failed: " ++ e.reason
  | _ => e.reason

def message (e : LibraryError) : String :=
  "[" ++ toString e.code.number ++ "] " ++ e.text

/-- The same error as a rejection of a family. -/
def asRejection (f : ProofFamily) (e : LibraryError) : LibraryError := { e with kind := .rejection f }

/-- Whether an error leaves a scope that reports rejections of a family as it is. -/
def passes (f : ProofFamily) (e : LibraryError) : Bool :=
  e.kind.isRejectionOf f || !e.kind.isRewrapped

/-- What an error becomes at the border of a scope that reports rejections of a family. -/
def rewrap (f : ProofFamily) (e : LibraryError) : LibraryError :=
  if e.passes f then e else e.asRejection f

/-- The error as a record of its code, name, text and details. -/
def toJson (e : LibraryError) : Json :=
  .record ([("code", .int e.code.number), ("name", .string e.code.name), ("message", .string e.text)]
    ++ match e.details with
      | some d => [("details", d)]
      | none => [])

end LibraryError

/-- Values that an operation has no meaning for. -/
inductive BadValue
  | scalarSize (got : Nat)
  | wideScalarSize (got : Nat)
  | amount (value : Int)
  | termCount (scalars points : Nat)
  | chunkSize (got : Nat)
  | zeroSecret
  | errorCode (shown : Text)
  | listItem
  | bufferItem
  | negativeCount
  | logFormat (format : Text)
  | logLevel (shown : Text)
  | embeddedNull
  /-- An integer that has too many digits to be written. -/
  | tooManyDigits
  /-- An integer that has too many digits to be read, with their number. -/
  | tooManyDigitsRead (got : Nat)
  | stated (message : Text)
  deriving DecidableEq, Repr

/-- What is said of an integer that cannot be written. -/
def unwritableText : String := Decimal.limitText ++ "; " ++ Decimal.raiseText

def BadValue.message : BadValue → Text
  | scalarSize got => .ofString s!"Scalar must be 32 bytes, got {got}"
  | wideScalarSize got => .ofString s!"Wide scalar must be 64 bytes, got {got}"
  | amount value =>
    .ofString (if Decimal.isShort value then s!"u64 value out of range: {value}" else unwritableText)
  | termCount scalars points => .ofString s!"scalar/point count mismatch: {scalars} != {points}"
  | chunkSize got => .ofString s!"field must be 32 bytes, got {got}"
  | zeroSecret => .ofString "secret key must be non-zero"
  | errorCode shown => shown ++ .ofString " is not a valid ErrorCode"
  | listItem => .ofString "bytes must be in range(0, 256)"
  | bufferItem => .ofString "byte must be in range(0, 256)"
  | negativeCount => .ofString "negative count"
  | logFormat format => .ofString "Invalid format '" ++ format ++ .ofString "' for '%' style"
  | logLevel shown => .ofString "Unknown level: " ++ shown
  | embeddedNull => .ofString "embedded null byte"
  | tooManyDigits => .ofString unwritableText
  | tooManyDigitsRead got =>
    .ofString (Decimal.limitText ++ s!": value has {got} digits; " ++ Decimal.raiseText)
  | stated message => message

/-- Why an operation gave no result. -/
inductive Failure
  | library (error : LibraryError)
  | badValue (value : BadValue)
  | zeroInverse
  /-- The curve arithmetic refused an operand or a result. -/
  | refused
  /-- The body of a scope failed for a reason of its own. -/
  | aborted (message : String)
  | wrongType
  | tooLarge
  | noSuchMember
  | noSuchName
  | tapeExhausted
  /-- A text with an unpaired surrogate has no UTF-8 form. -/
  | unpairedSurrogate
  | malformedUtf8
  | fileNotFound
  | isDirectory
  | notDirectory
  | nameTooLong
  | nestedTooDeeply

namespace Failure

/-- A failure whose message shows a value, or the failure to show the value. -/
def showing (v : Json) (failure : Failure) : Failure :=
  if v.isShown then failure else badValue .tooManyDigits

/-- The code whose number a value equals, or the failure to find one. -/
def codeOf (v : Json) : Except Failure ErrorCode :=
  match ErrorCode.ofJson? v with
  | some c => .ok c
  | none => .error (showing v (badValue (.errorCode (Json.Display.nested v))))

/-- What a failure becomes at the border of a scope that reports rejections of a family. -/
def rewrap (f : ProofFamily) : Failure → Failure
  | library e => library (e.rewrap f)
  | other => other

/-- An error in the reading of encoded values. -/
def malformed (reason : String) (details : Json) : Failure :=
  library (.create .deserialization .deserialization reason details)

def transcript (reason : String) : Failure := library (.create .transcript .transcript reason .null)

def settings (reason : String) (details : Json) : Failure :=
  library (.create .settings .invalidConfig reason details)

end Failure

/-- Runs a computation inside a scope that reports rejections of a family. -/
def within {α : Type} (f : ProofFamily) (x : Except Failure α) : Except Failure α :=
  x.mapError (Failure.rewrap f)

/-- A computation on a state that may fail. What it changed before it failed stays changed. -/
abbrev Attempt (σ α : Type) := ExceptT Failure (StateM σ) α

namespace Attempt

def on {σ α : Type} (x : Attempt σ α) (s : σ) : Except Failure α × σ := x.run s

def ofExcept {σ α : Type} : Except Failure α → Attempt σ α
  | .ok a => pure a
  | .error e => throw e

/-- Runs a computation on a part of the state. -/
def zoom {σ τ α : Type} (get : σ → τ) (set : τ → σ → σ) (x : Attempt τ α) : Attempt σ α :=
  fun s =>
    let (result, part) := x.run (get s)
    (result, set part s)

end Attempt

end AmountProofs
