import CaptureTypes.BuildScript
import CaptureTypes.Example.Programs
import CaptureTypes.Expansion
import CaptureTypes.Match.Session
import CaptureTypes.OptionSession
import CaptureTypes.Workspace
import CaptureTypes.Proofs.Acceptance
import CaptureTypes.Proofs.Members
import CaptureTypes.Proofs.Startup
import CaptureTypes.Proofs.Isolation
import CaptureTypes.Proofs.Denotation
import CaptureTypes.Proofs.FlagList
import CaptureTypes.Proofs.Lexing
import CaptureTypes.Proofs.Reading
import CaptureTypes.Proofs.UnitStruct
import CaptureTypes.Proofs.Hosts
import CaptureTypes.Proofs.Definitions
import CaptureTypes.Proofs.QuietPath
import CaptureTypes.Proofs.Placement
import CaptureTypes.Proofs.JsonPass
import CaptureTypes.Proofs.JsonForm
import CaptureTypes.Proofs.ManifestText
import CaptureTypes.Proofs.UnknownName
import CaptureTypes.Proofs.Layout
import CaptureTypes.Proofs.BuildRun
import CaptureTypes.Proofs.GroupViews
import CaptureTypes.Proofs.Violation
import CaptureTypes.Proofs.ArgumentGrammar
import CaptureTypes.Proofs.Verbatim
import CaptureTypes.Proofs.Fence
import CaptureTypes.Proofs.ModulePath
import CaptureTypes.Proofs.RuntimePath
import CaptureTypes.Proofs.Fault
import CaptureTypes.Proofs.Legalized
import CaptureTypes.Proofs.EventLog
import CaptureTypes.Proofs.OptionDocument
import CaptureTypes.Proofs.OptionHistory
