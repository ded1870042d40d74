import AmountProofs.Base64
import AmountProofs.Bundle
import AmountProofs.Bytes
import AmountProofs.Chunks
import AmountProofs.Commitment
import AmountProofs.Curve.Edwards25519
import AmountProofs.Curve.SeededPoint
import AmountProofs.Directory
import AmountProofs.Encryption
import AmountProofs.Failure
import AmountProofs.Hash.Keccak
import AmountProofs.Indexed
import AmountProofs.Json
import AmountProofs.Json.Display
import AmountProofs.Json.Reader
import AmountProofs.Json.Writer
import AmountProofs.Log.Layout
import AmountProofs.Log.Output
import AmountProofs.Log.Record
import AmountProofs.Log.Reference
import AmountProofs.Multiscalar
import AmountProofs.Number.Binary64
import AmountProofs.Number.Decimal
import AmountProofs.Number.Digits
import AmountProofs.Number.Shortest
import AmountProofs.Payload
import AmountProofs.Point
import AmountProofs.Proof.Basic
import AmountProofs.Proof.Kind
import AmountProofs.Proof.Statement
import AmountProofs.Proof.Verifier
import AmountProofs.Proofs.AttemptRuns
import AmountProofs.Proofs.Base64Text
import AmountProofs.Proofs.Base64Variants
import AmountProofs.Proofs.BatchSoundness
import AmountProofs.Proofs.BundleCompleteness
import AmountProofs.Proofs.ChainedTranscripts
import AmountProofs.Proofs.ChunkRoundTrip
import AmountProofs.Proofs.CommitmentBinding
import AmountProofs.Proofs.EdwardsCoordinates
import AmountProofs.Proofs.EdwardsEncoding
import AmountProofs.Proofs.EdwardsGroup
import AmountProofs.Proofs.Equations
import AmountProofs.Proofs.FilePaths
import AmountProofs.Proofs.GroupReading
import AmountProofs.Proofs.HomomorphicSums
import AmountProofs.Proofs.JsonAtoms
import AmountProofs.Proofs.JsonNames
import AmountProofs.Proofs.JsonRoundTrip
import AmountProofs.Proofs.NestedScopes
import AmountProofs.Proofs.NeutralSecondKey
import AmountProofs.Proofs.OpenedAmounts
import AmountProofs.Proofs.Outcomes
import AmountProofs.Proofs.PointExpressions
import AmountProofs.Proofs.PointSums
import AmountProofs.Proofs.PrimeModuli
import AmountProofs.Proofs.ProofEncoding
import AmountProofs.Proofs.ProverOutcome
import AmountProofs.Proofs.ProverRun
import AmountProofs.Proofs.ProverVerdict
import AmountProofs.Proofs.RandomScalars
import AmountProofs.Proofs.Rejections
import AmountProofs.Proofs.Residues
import AmountProofs.Proofs.ScalarExpressions
import AmountProofs.Proofs.SettingsMembers
import AmountProofs.Proofs.SettingsReading
import AmountProofs.Proofs.SettingsRoundTrip
import AmountProofs.Proofs.Simulation
import AmountProofs.Proofs.StandardReading
import AmountProofs.Proofs.StatementBinding
import AmountProofs.Proofs.SumOutcome
import AmountProofs.Proofs.TranscriptCalls
import AmountProofs.Proofs.TranscriptEncoding
import AmountProofs.Proofs.TranscriptReplay
import AmountProofs.Proofs.UnreducedResponses
import AmountProofs.Proofs.Utf8Text
import AmountProofs.Proofs.VerifierVerdict
import AmountProofs.Proofs.WireFormats
import AmountProofs.Proofs.WireRoundTrip
import AmountProofs.Proofs.WrittenPoints
import AmountProofs.Randomness
import AmountProofs.Scalar
import AmountProofs.Settings
import AmountProofs.Settings.File
import AmountProofs.Suite
import AmountProofs.Suite.Standard
import AmountProofs.Text
import AmountProofs.Text.Alphanumeric
import AmountProofs.Text.Printable
import AmountProofs.Text.Ranges
import AmountProofs.Transcript
import AmountProofs.Wire
import AmountProofs.Workspace.Command
import AmountProofs.Workspace.Display
import AmountProofs.Workspace.Value
import AmountProofs.Proofs.StoppedWriting
