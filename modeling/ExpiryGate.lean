import ExpiryGate.Files.Store
import ExpiryGate.Main
import ExpiryGate.Proofs.Report.Ambiguity
import ExpiryGate.Proofs.Run.ExitCode
import ExpiryGate.Proofs.Run.Explicit
import ExpiryGate.Proofs.Run.Modes
import ExpiryGate.Proofs.Verdict.Later
import ExpiryGate.Proofs.Verdict.Stored
import ExpiryGate.Verdict.Stored
import ExpiryGate.Waiver.Document
import ExpiryGate.Proofs.Calendar.Expiry
import ExpiryGate.Proofs.Run.Pinned
import ExpiryGate.Proofs.Verdict.Recheck
import ExpiryGate.Proofs.Toml.Blocks
import ExpiryGate.Proofs.Toml.Quoted
import ExpiryGate.Proofs.Toml.Lines
import ExpiryGate.Proofs.Waiver.Document
import ExpiryGate.Proofs.Files.Path
import ExpiryGate.Proofs.Location.Root
import ExpiryGate.Proofs.Verdict.Sorting
import ExpiryGate.Proofs.Toml.Dates
import ExpiryGate.Proofs.Toml.Texts
import ExpiryGate.Proofs.Waiver.Expiry
import ExpiryGate.Proofs.Toml.Nodes
import ExpiryGate.Proofs.Toml.Sorted
import ExpiryGate.Proofs.Waiver.Shape
import ExpiryGate.Proofs.Waiver.Acceptance
import ExpiryGate.Proofs.Gate.Parse
import ExpiryGate.Proofs.Files.Parent
import ExpiryGate.Proofs.Location.Ancestors
import ExpiryGate.Proofs.Calendar.Days
import ExpiryGate.Proofs.Calendar.Spellings
import ExpiryGate.Proofs.Waiver.Window
import ExpiryGate.Proofs.Verdict.Dates
import ExpiryGate.Proofs.Waiver.Repeats
import ExpiryGate.Proofs.Files.Name
import ExpiryGate.Proofs.Report.Missing
import ExpiryGate.Proofs.CommandLine.Spelling
