import EntityGateway.Config.Loading
import EntityGateway.Config.Encoding
import EntityGateway.Config.Check
import EntityGateway.Metadata.Reference
import EntityGateway.Metadata.Dialect
import EntityGateway.Settings
import EntityGateway.Service.Permissions
import EntityGateway.Service.OpenApi
import EntityGateway.Http.ErrorBody
import EntityGateway.Pattern
import EntityGateway.Config.Holder
import EntityGateway.Json.Tagged
import EntityGateway.Format
import EntityGateway.Service.Validation
import EntityGateway.Metadata.ModelSchema
import EntityGateway.Metadata.Provider
import EntityGateway.Metadata.Introspection
import EntityGateway.Metadata.ProviderSet
import EntityGateway.Metadata.Relationships
import EntityGateway.Service.TypeCatalog
import EntityGateway.Metadata.Postgres
import EntityGateway.Orchestration.Dependents
import EntityGateway.Orchestration.Job
import EntityGateway.Orchestration.World
import EntityGateway.Orchestration.Machine
import EntityGateway.Orchestration.Schedule
import EntityGateway.Json.Access
import EntityGateway.View.Error
import EntityGateway.View.Metadata
import EntityGateway.View.Config
import EntityGateway.View.Service
import EntityGateway.Simulation.Formats
import EntityGateway.Simulation.Pattern.Engine
import EntityGateway.Simulation.Catalog
import EntityGateway.Simulation.Services
import EntityGateway.Service.Suite
import EntityGateway.Http.MediaType
import EntityGateway.Http.Message
import EntityGateway.Http.Endpoint
import EntityGateway.Http.Submission
import EntityGateway.Http.Page
import EntityGateway.Http.Server
import EntityGateway.Simulation.CatalogServer
import EntityGateway.Proofs.Orchestration.Moves
import EntityGateway.Proofs.Orchestration.Soundness
import EntityGateway.Proofs.Orchestration.Course
import EntityGateway.Proofs.Orchestration.EarlyFailure
import EntityGateway.Proofs.Orchestration.Rollback
import EntityGateway.Proofs.Served.Traffic
import EntityGateway.Proofs.Served.Custody
import EntityGateway.Proofs.Served.Agreement
import EntityGateway.Proofs.Served.Coherence
import EntityGateway.Proofs.Served.Edits
import EntityGateway.Proofs.Served.Bookkeeping
import EntityGateway.Proofs.Served.Ledger
import EntityGateway.Proofs.Config.Substitution
import EntityGateway.Proofs.Served.Permissions
import EntityGateway.Proofs.Orchestration.Stages
import EntityGateway.Proofs.Served.Criteria
import EntityGateway.Proofs.Orchestration.Progress
import EntityGateway.Proofs.Served.Acceptance
import EntityGateway.Proofs.Service.Grants
import EntityGateway.Proofs.Metadata.Initialization
import EntityGateway.Proofs.Metadata.Accounting
import EntityGateway.Proofs.Service.Patches
import EntityGateway.Proofs.Metadata.Matching
import EntityGateway.Proofs.Orchestration.Installation
import EntityGateway.Proofs.Served.FirstConfiguration
import EntityGateway.Proofs.Served.Documents
import EntityGateway.Proofs.Config.RoundTrip
import EntityGateway.Proofs.Served.Versions
import EntityGateway.Proofs.Orchestration.Contest
import EntityGateway.Proofs.Metadata.Isolation
import EntityGateway.Proofs.Service.Verdicts
import EntityGateway.Proofs.Service.TypeNames
import EntityGateway.Proofs.Service.RootFields
import EntityGateway.Proofs.Config.Conditions
import EntityGateway.Proofs.Metadata.Relationships
import EntityGateway.Proofs.Config.DeepMerge
import EntityGateway.Proofs.Config.OnePass
import EntityGateway.Proofs.Service.Operations
import EntityGateway.Proofs.Service.Integers
import EntityGateway.Proofs.Metadata.Usability
import EntityGateway.Proofs.Metadata.Inquiries
import EntityGateway.Proofs.Orchestration.Questions
import EntityGateway.Proofs.Metadata.Delays
import EntityGateway.Proofs.Orchestration.Patience
import EntityGateway.Proofs.Metadata.Reinitialization
import EntityGateway.Proofs.Metadata.CatalogRows
import EntityGateway.Proofs.Metadata.ModelTypes
import EntityGateway.Proofs.Metadata.QuotedNames
import EntityGateway.Proofs.Http.ReportedCause
