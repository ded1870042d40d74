import AmountProofs.Json.Display
import AmountProofs.Workspace.Value

/-!
What is shown of the values of a workspace.

Secrets are never shown. Points are shown by the beginning of their text, and values made of others as
the name of their type with the named parts in brackets.
-/

namespace AmountProofs.Workspace

variable {S : Suite}

namespace Display

/-- The name of a type with named parts in brackets. -/
def record (type : String) (parts : List (String × Text)) : Text :=
  let shown := parts.map fun (name, part) => Text.ofString (name ++ "=") ++ part
  Text.ofString type ++ Text.ofString "(" ++ (Text.ofString ", ").intercalate shown
    ++ Text.ofString ")"

/-- A byte inside quotes. -/
def byte (quote : CodePoint) (b : UInt8) : Text :=
  let c : CodePoint := Fin.ofNat 0x110000 b.toNat
  if b = 9 then Text.ofString "\\t"
  else if b = 10 then Text.ofString "\\n"
  else if b = 13 then Text.ofString "\\r"
  else if c = quote ∨ b = 92 then [92, c]
  else if 32 ≤ b ∧ b < 127 then [c]
  else Text.ofString ("\\x" ++ Bytes.hex [b])

def bytes (b : Bytes) : Text :=
  let quote : CodePoint := if b.contains 39 && !b.contains 34 then 34 else 39
  Text.ofString "b" ++ quote :: (b.flatMap (byte quote) ++ [quote])

def point (p : Point S) : Text := Text.ofString p.display

def pointRecord (type : String) (p : Point S) : Text := record type [("point", point p)]

def publicKey (k : PublicKey S) : Text := pointRecord "ElGamalPubkey" k.point

def commitment (c : Commitment S) : Text := pointRecord "PedersenCommitment" c.point

def handle (h : Handle S) : Text := pointRecord "DecryptHandle" h.point

def ciphertext (c : Ciphertext S) : Text :=
  record "ElGamalCiphertext" [("commitment", commitment c.commitment), ("handle", handle c.handle)]

def kindName : ProofKind → String
  | .zeroCiphertext => "ZeroCiphertextProof"
  | .commitmentEquality => "CiphertextCommitmentEqualityProof"
  | .ciphertextEquality => "CiphertextCiphertextEqualityProof"

/-- A proof; announcements that are no byte strings are left out. -/
def proof {k : ProofKind} (p : Proof k) : Text :=
  record (kindName k)
    (List.ofFn (fun i => (k.announcementName i, bytes ((p.announcements i).content?.getD [])))
      ++ List.ofFn (fun j => (k.responseName j, Text.ofString Scalar.display)))

def statement {k : ProofKind} (s : Statement S k) : Text :=
  record (kindName k ++ "Context") (match s with
    | .zeroCiphertext key c => [("pubkey", publicKey key), ("ciphertext", ciphertext c)]
    | .commitmentEquality key c d =>
      [("pubkey", publicKey key), ("ciphertext", ciphertext c), ("commitment", commitment d)]
    | .ciphertextEquality key other c d =>
      [("first_pubkey", publicKey key), ("second_pubkey", publicKey other),
       ("first_ciphertext", ciphertext c), ("second_ciphertext", ciphertext d)])

end Display

/-- What is shown of a value. -/
def Value.display : Value S → Text
  | nothing => Json.display .null
  | truth b => Json.display (.bool b)
  | words t => Json.Display.quoted (Text.ofString t)
  | integer n => Json.display (.int n)
  | point p => Display.point p
  | publicKey k => Display.publicKey k
  | commitment c => Display.commitment c
  | handle h => Display.handle h
  | ciphertext c => Display.ciphertext c
  | scalar _ => Text.ofString Scalar.display
  | opening _ => Text.ofString Opening.display
  | secretKey _ => Text.ofString SecretKey.display
  | keypair _ publicPart _ =>
    Text.ofString (Keypair.display ⟨⟨publicPart.point?.getD .neutral⟩, ⟨Scalar.zero⟩⟩)
  | shown texts => Json.display (.list (texts.map .string))
  | transcript _ => Text.ofString "Transcript"
  | proof _ p => Display.proof p
  | statement _ s => Display.statement s
  | bundle k b =>
    Display.record (Display.kindName k ++ "Data")
      [("context", Display.statement b.statement), ("proof", Display.proof b.proof)]

end AmountProofs.Workspace
