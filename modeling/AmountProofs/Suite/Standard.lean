import AmountProofs.Curve.Edwards25519
import AmountProofs.Curve.SeededPoint
import AmountProofs.Hash.Keccak
import AmountProofs.Suite

/-!
The suite that is run: Edwards25519 with SHAKE256, and a second generator found from a public seed
by SHA3-256, so that nobody knows how it relates to the base point.
-/

namespace AmountProofs.Suite

/-- The seed of the second generator. -/
def blindingSeed : Bytes := Bytes.ofAscii "zksigma Pedersen H Generator v1"

/-- The point that a seed given by a caller leads to. -/
def hashToPoint : Payload → Except Failure SeededPoint.Found :=
  SeededPoint.ofPayload Edwards25519.isValid Keccak.sha3

/-- The second generator. -/
def blindingPoint : Word :=
  ((SeededPoint.find Edwards25519.isValid Keccak.sha3 blindingSeed).map (·.point)).getD neutralWord

/-- Edwards25519 with SHAKE256. -/
def standard : Suite where
  isValid := Edwards25519.isValid
  add := Edwards25519.addEncoded
  sub := Edwards25519.subEncoded
  mul := Edwards25519.mulEncoded
  base := Edwards25519.basePoint
  blinding := blindingPoint
  xof := Keccak.shake256

end AmountProofs.Suite
