import Telemetry.Config.Lookup
import Telemetry.Installation
import Telemetry.Lifecycle.Script
import Telemetry.Logging.Setup
import Telemetry.Testing.Bench
import Telemetry.Proofs.Lifecycle.Stages
import Telemetry.Proofs.Provider.Lookups
import Telemetry.Proofs.Lifecycle.Prefix
import Telemetry.Proofs.Lifecycle.Closing
import Telemetry.Proofs.Provider.Rollback
import Telemetry.Proofs.Installation.Ledger
import Telemetry.Proofs.Lifecycle.Callback
import Telemetry.Proofs.Lifecycle.Order
import Telemetry.Proofs.Installation.Failure
import Telemetry.Proofs.Provider.Linearization
import Telemetry.Proofs.Provider.Defaults
import Telemetry.Proofs.Lifecycle.Abandoned
import Telemetry.Proofs.Lifecycle.Timing
import Telemetry.Proofs.Provider.Registration
import Telemetry.Proofs.Export.Faults
import Telemetry.Proofs.Lifecycle.Whole
import Telemetry.Proofs.Installation.Retirement
import Telemetry.Proofs.Installation.Fleet
import Telemetry.Proofs.Installation.Provision
import Telemetry.Proofs.Credentials.Defects
import Telemetry.Proofs.Endpoint.Paths
import Telemetry.Proofs.Provider.Shutdowns
import Telemetry.Proofs.Credentials.Base64
import Telemetry.Proofs.Export.Clients
import Telemetry.Proofs.Config.Settings
import Telemetry.Proofs.Trace.Propagation
import Telemetry.Proofs.Trace.Contents
import Telemetry.Proofs.Service.Spans
import Telemetry.Proofs.Resource.Sources
import Telemetry.Proofs.Config.Documents
import Telemetry.Proofs.Credentials.Joined
import Telemetry.Proofs.Config.Words
import Telemetry.Proofs.Binary64.Decimals
import Telemetry.Proofs.Trace.Ratios
