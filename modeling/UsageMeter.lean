import UsageMeter.Command.Basic
import UsageMeter.Command.Builtin
import UsageMeter.Command.Execution
import UsageMeter.Config.Dotenv
import UsageMeter.Config.InstallationId
import UsageMeter.Config.Settings
import UsageMeter.Decimal.Read
import UsageMeter.Export.Families
import UsageMeter.Export.Observations
import UsageMeter.Logging.Standard
import UsageMeter.Logging.Exporter
import UsageMeter.Logging.Loggers
import UsageMeter.Logging.Record
import UsageMeter.Logging.Resource
import UsageMeter.Logging.Routing
import UsageMeter.Proofs.Command.Awaiting
import UsageMeter.Proofs.Command.Completion
import UsageMeter.Proofs.Command.Invocation
import UsageMeter.Proofs.Command.Naming
import UsageMeter.Proofs.Command.Root
import UsageMeter.Proofs.Command.Spans
import UsageMeter.Proofs.Command.Wrapping
import UsageMeter.Proofs.Config.Composing
import UsageMeter.Proofs.Config.Failures
import UsageMeter.Proofs.Config.HexNumber
import UsageMeter.Proofs.Config.InstallationId
import UsageMeter.Proofs.Config.Loading
import UsageMeter.Proofs.Config.NameList
import UsageMeter.Proofs.Config.Padding
import UsageMeter.Proofs.Config.Settings
import UsageMeter.Proofs.Config.WrittenFile
import UsageMeter.Proofs.Logging.Body
import UsageMeter.Proofs.Logging.Carriers
import UsageMeter.Proofs.Logging.Filtering
import UsageMeter.Proofs.Logging.Installation
import UsageMeter.Proofs.Logging.Levels
import UsageMeter.Proofs.Logging.Sharing
import UsageMeter.Proofs.Registry.BulkDrain
import UsageMeter.Proofs.Registry.Identity
import UsageMeter.Proofs.Registry.Ledger
import UsageMeter.Proofs.Registry.Rejection
import UsageMeter.Proofs.Report.Alike
import UsageMeter.Proofs.Report.Coherence
import UsageMeter.Proofs.Report.Rendering
import UsageMeter.Proofs.Report.Vendor
import UsageMeter.Proofs.Service.Configured
import UsageMeter.Proofs.Service.Parts
import UsageMeter.Proofs.Service.Reads
import UsageMeter.Proofs.Service.Reordering
import UsageMeter.Proofs.Service.Shared
import UsageMeter.Proofs.Service.Switching
import UsageMeter.Report.Assignment
import UsageMeter.Report.Digest
