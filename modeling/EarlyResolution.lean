import EarlyResolution.CommandLine.Directory
import EarlyResolution.Main
import EarlyResolution.Proofs.CommandLine
import EarlyResolution.Proofs.Json.Records
import EarlyResolution.Proofs.Json.Skipping
import EarlyResolution.Proofs.Prediction.Squashing
import EarlyResolution.Proofs.Registers
import EarlyResolution.Proofs.Replay.Accuracy
import EarlyResolution.Proofs.Replay.Commutation
import EarlyResolution.Proofs.Replay.ConstantTime
import EarlyResolution.Proofs.Replay.Coverage
import EarlyResolution.Proofs.Replay.Independence
import EarlyResolution.Proofs.Replay.Isolation
import EarlyResolution.Proofs.Replay.MissingSlot
import EarlyResolution.Proofs.Replay.Reconciliation
import EarlyResolution.Proofs.Replay.Stopping
import EarlyResolution.Proofs.Replay.WrongPath
import EarlyResolution.Proofs.Simplification.Footprint
import EarlyResolution.Proofs.Trace.Objects
import EarlyResolution.Proofs.Trace.RoundTrip
import EarlyResolution.Proofs.Validation
import EarlyResolution.Replay.Notes
import EarlyResolution.Trace.Writer
