import ClusterAdmission.Api
import ClusterAdmission.Api.Client
import ClusterAdmission.Api.Program
import ClusterAdmission.Api.State
import ClusterAdmission.Binary64
import ClusterAdmission.Binary64.Shortest
import ClusterAdmission.Chain
import ClusterAdmission.Check
import ClusterAdmission.Config
import ClusterAdmission.Credentials
import ClusterAdmission.Decimal
import ClusterAdmission.Encoding.Base64
import ClusterAdmission.Endpoint
import ClusterAdmission.Engine
import ClusterAdmission.Error
import ClusterAdmission.Json
import ClusterAdmission.Json.Parser
import ClusterAdmission.Json.Printer
import ClusterAdmission.Kind
import ClusterAdmission.Metrics
import ClusterAdmission.Metrics.Exposition
import ClusterAdmission.Names
import ClusterAdmission.Operation
import ClusterAdmission.Operation.Perform
import ClusterAdmission.Operation.Policy
import ClusterAdmission.Operation.SecretLink
import ClusterAdmission.Policy
import ClusterAdmission.Policy.Backup
import ClusterAdmission.Policy.Cluster
import ClusterAdmission.Policy.Platform
import ClusterAdmission.Policy.Storage
import ClusterAdmission.Preflight
import ClusterAdmission.Probe
import ClusterAdmission.Proofs.Api.Changes
import ClusterAdmission.Proofs.Api.Concurrent
import ClusterAdmission.Proofs.Api.Ensures
import ClusterAdmission.Proofs.Api.Failures
import ClusterAdmission.Proofs.Api.Interleaved
import ClusterAdmission.Proofs.Api.Moments
import ClusterAdmission.Proofs.Api.TwoRuns
import ClusterAdmission.Proofs.Api.Versioned
import ClusterAdmission.Proofs.Api.Views
import ClusterAdmission.Proofs.Binary64
import ClusterAdmission.Proofs.Binary64.Rounding
import ClusterAdmission.Proofs.Chain.Accounting
import ClusterAdmission.Proofs.Chain.Clusters
import ClusterAdmission.Proofs.Chain.ConfigReferences
import ClusterAdmission.Proofs.Chain.CredentialSecrecy
import ClusterAdmission.Proofs.Chain.Filter
import ClusterAdmission.Proofs.Chain.History
import ClusterAdmission.Proofs.Chain.Layers
import ClusterAdmission.Proofs.Chain.Outages
import ClusterAdmission.Proofs.Chain.PlatformDefaults
import ClusterAdmission.Proofs.Chain.ProbedStorages
import ClusterAdmission.Proofs.Chain.Reports
import ClusterAdmission.Proofs.Chain.Repositories
import ClusterAdmission.Proofs.Chain.Resubmission
import ClusterAdmission.Proofs.Chain.Run
import ClusterAdmission.Proofs.Chain.ScheduleStorages
import ClusterAdmission.Proofs.Chain.SecretOwners
import ClusterAdmission.Proofs.Chain.SingleStorage
import ClusterAdmission.Proofs.Chain.StorageBinding
import ClusterAdmission.Proofs.Chain.StorageLocations
import ClusterAdmission.Proofs.Chain.StorageReferences
import ClusterAdmission.Proofs.Check.Decides
import ClusterAdmission.Proofs.Check.Monotone
import ClusterAdmission.Proofs.Check.Program
import ClusterAdmission.Proofs.Check.Reordered
import ClusterAdmission.Proofs.Check.Strict
import ClusterAdmission.Proofs.Encoding.Base64
import ClusterAdmission.Proofs.Endpoint
import ClusterAdmission.Proofs.Endpoint.Rendering
import ClusterAdmission.Proofs.Json.Edits
import ClusterAdmission.Proofs.Json.Record
import ClusterAdmission.Proofs.Metrics
import ClusterAdmission.Proofs.Names
import ClusterAdmission.Proofs.Names.Domain
import ClusterAdmission.Proofs.Names.Qualified
import ClusterAdmission.Proofs.Operation.AllOrNothing
import ClusterAdmission.Proofs.Operation.Custody
import ClusterAdmission.Proofs.Operation.Effect
import ClusterAdmission.Proofs.Operation.FailedUpdates
import ClusterAdmission.Proofs.Operation.PartialUpdates
import ClusterAdmission.Proofs.Operation.SecretTexts
import ClusterAdmission.Proofs.Operation.UpdateFrame
import ClusterAdmission.Proofs.Operation.WithSecret
import ClusterAdmission.Proofs.Policy.Creation
import ClusterAdmission.Proofs.Policy.Objects
import ClusterAdmission.Proofs.Policy.Probes
import ClusterAdmission.Proofs.Policy.References
import ClusterAdmission.Proofs.Policy.Reordered
import ClusterAdmission.Proofs.Policy.Restores
import ClusterAdmission.Proofs.Policy.Resubmission
import ClusterAdmission.Proofs.Policy.Storages
import ClusterAdmission.Proofs.Policy.Strict
import ClusterAdmission.Proofs.Policy.Updates
import ClusterAdmission.Proofs.Policy.WellFormed
import ClusterAdmission.Proofs.Preflight
import ClusterAdmission.Proofs.Quantity
import ClusterAdmission.Proofs.Recovery
import ClusterAdmission.Proofs.Recovery.Dependence
import ClusterAdmission.Proofs.Request.Redaction
import ClusterAdmission.Proofs.Resource.ClusterCodec
import ClusterAdmission.Proofs.Resource.Codec
import ClusterAdmission.Proofs.Resource.MetadataCodec
import ClusterAdmission.Proofs.Resource.SpecCodec
import ClusterAdmission.Proofs.Rules.Amounts
import ClusterAdmission.Proofs.Rules.Certificate
import ClusterAdmission.Proofs.Rules.Cluster
import ClusterAdmission.Proofs.Rules.CpuFloor
import ClusterAdmission.Proofs.Rules.Decides
import ClusterAdmission.Proofs.Rules.RecoveryDate
import ClusterAdmission.Proofs.Rules.Upgrade
import ClusterAdmission.Proofs.Secret
import ClusterAdmission.Proofs.SortedMap
import ClusterAdmission.Proofs.Text.Blank
import ClusterAdmission.Proofs.Text.Bytes
import ClusterAdmission.Proofs.Text.Lines
import ClusterAdmission.Proofs.Text.Pattern
import ClusterAdmission.Proofs.Text.Split
import ClusterAdmission.Proofs.Time.Timestamp
import ClusterAdmission.Proofs.Version.Grammar
import ClusterAdmission.Proofs.Version.Precedence
import ClusterAdmission.Quantity
import ClusterAdmission.Recovery
import ClusterAdmission.Request.LogText
import ClusterAdmission.Request.Payload
import ClusterAdmission.Resource
import ClusterAdmission.Resource.Affinity
import ClusterAdmission.Resource.Backup
import ClusterAdmission.Resource.BackupStorage
import ClusterAdmission.Resource.Cluster
import ClusterAdmission.Resource.Cluster.Codec
import ClusterAdmission.Resource.DatabaseEngine
import ClusterAdmission.Resource.Metadata
import ClusterAdmission.Resource.Monitoring
import ClusterAdmission.Resource.Network
import ClusterAdmission.Resource.Scheduling
import ClusterAdmission.Rules
import ClusterAdmission.Rules.Certificate
import ClusterAdmission.Rules.Cluster
import ClusterAdmission.Rules.Platform
import ClusterAdmission.Rules.Storage
import ClusterAdmission.Rules.Upgrade
import ClusterAdmission.Secret
import ClusterAdmission.SortedMap
import ClusterAdmission.Store
import ClusterAdmission.Text.Blank
import ClusterAdmission.Text.Bytes
import ClusterAdmission.Text.Numeral
import ClusterAdmission.Text.Outline
import ClusterAdmission.Text.Pattern
import ClusterAdmission.Text.Split
import ClusterAdmission.Time.Calendar
import ClusterAdmission.Time.CivilTime
import ClusterAdmission.Time.Timestamp
import ClusterAdmission.Version
import ClusterAdmission.Violation
