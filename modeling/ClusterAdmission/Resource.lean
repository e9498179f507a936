import ClusterAdmission.Kind
import ClusterAdmission.Resource.Backup
import ClusterAdmission.Resource.BackupStorage
import ClusterAdmission.Resource.DatabaseEngine
import ClusterAdmission.Resource.Monitoring
import ClusterAdmission.Resource.Network
import ClusterAdmission.Resource.Scheduling

/-!
# Resources

A resource has metadata, a specification and, once an operator has reported on it, a status. What
the last two hold depends on the kind. The JSON form of a resource names its API version and kind;
reading does not look at them.
-/

namespace ClusterAdmission

/-- What resources of a kind ask for. -/
@[reducible] def Kind.Spec : Kind → Type
  | .databaseCluster => ClusterSpec
  | .databaseEngine => DatabaseEngineSpec
  | .databaseClusterBackup => BackupRequest
  | .databaseClusterRestore => RestoreRequest
  | .backupStorage => BackupStorageSpec
  | .monitoringConfig => MonitoringConfigSpec
  | .podSchedulingPolicy => PodSchedulingPolicySpec
  | .loadBalancerConfig => LoadBalancerConfigSpec
  | .splitHorizonDnsConfig => SplitHorizonDnsConfigSpec

/-- What operators report of resources of a kind; nothing can be reported of some. -/
@[reducible] def Kind.Status : Kind → Type
  | .databaseCluster => ClusterStatus
  | .databaseEngine => DatabaseEngineStatus
  | .databaseClusterBackup => BackupStatus
  | .databaseClusterRestore => RestoreStatus
  | _ => Empty

instance (k : Kind) : DecidableEq k.Spec := by
  cases k <;> infer_instance

instance (k : Kind) : DecidableEq k.Status := by
  cases k <;> infer_instance

/-- A resource of a kind. -/
structure Resource (k : Kind) where
  metadata : Metadata
  spec : k.Spec
  status : Option k.Status := none
  deriving DecidableEq

/-- A database cluster. -/
abbrev DatabaseCluster := Resource .databaseCluster
/-- An installed engine. -/
abbrev DatabaseEngine := Resource .databaseEngine
/-- A backup of a cluster. -/
abbrev DatabaseClusterBackup := Resource .databaseClusterBackup
/-- A restore of a cluster. -/
abbrev DatabaseClusterRestore := Resource .databaseClusterRestore
/-- A storage of backups. -/
abbrev BackupStorage := Resource .backupStorage
/-- A monitoring instance. -/
abbrev MonitoringConfig := Resource .monitoringConfig
/-- A pod scheduling policy. -/
abbrev PodSchedulingPolicy := Resource .podSchedulingPolicy
/-- A load balancer config. -/
abbrev LoadBalancerConfig := Resource .loadBalancerConfig
/-- A split-horizon DNS config. -/
abbrev SplitHorizonDnsConfig := Resource .splitHorizonDnsConfig

/-! ## JSON -/

namespace Kind

/-- The JSON object of a specification. -/
def specJson : (k : Kind) → k.Spec → Json
  | .databaseCluster => ClusterSpec.toJson
  | .databaseEngine => DatabaseEngineSpec.toJson
  | .databaseClusterBackup => BackupRequest.toJson
  | .databaseClusterRestore => RestoreRequest.toJson
  | .backupStorage => BackupStorageSpec.toJson
  | .monitoringConfig => MonitoringConfigSpec.toJson
  | .podSchedulingPolicy => PodSchedulingPolicySpec.toJson
  | .loadBalancerConfig => LoadBalancerConfigSpec.toJson
  | .splitHorizonDnsConfig => SplitHorizonDnsConfigSpec.toJson

/-- Reads a specification. -/
def spec? : (k : Kind) → Json → Option k.Spec
  | .databaseCluster => ClusterSpec.ofJson?
  | .databaseEngine => DatabaseEngineSpec.ofJson?
  | .databaseClusterBackup => BackupRequest.ofJson?
  | .databaseClusterRestore => RestoreRequest.ofJson?
  | .backupStorage => BackupStorageSpec.ofJson?
  | .monitoringConfig => MonitoringConfigSpec.ofJson?
  | .podSchedulingPolicy => PodSchedulingPolicySpec.ofJson?
  | .loadBalancerConfig => LoadBalancerConfigSpec.ofJson?
  | .splitHorizonDnsConfig => SplitHorizonDnsConfigSpec.ofJson?

/-- The JSON object of a status. -/
def statusJson : (k : Kind) → k.Status → Json
  | .databaseCluster => ClusterStatus.toJson
  | .databaseEngine => DatabaseEngineStatus.toJson
  | .databaseClusterBackup => BackupStatus.toJson
  | .databaseClusterRestore => RestoreStatus.toJson
  | .backupStorage | .monitoringConfig | .podSchedulingPolicy | .loadBalancerConfig
  | .splitHorizonDnsConfig => Empty.elim

/-- Reads a status, if resources of the kind have one. -/
def status? : (k : Kind) → Json.Record → Option (Option k.Status)
  | .databaseCluster => fun r => r.optional "status" ClusterStatus.ofJson?
  | .databaseEngine => fun r => r.optional "status" DatabaseEngineStatus.ofJson?
  | .databaseClusterBackup => fun r => r.optional "status" BackupStatus.ofJson?
  | .databaseClusterRestore => fun r => r.optional "status" RestoreStatus.ofJson?
  | .backupStorage | .monitoringConfig | .podSchedulingPolicy | .loadBalancerConfig
  | .splitHorizonDnsConfig => fun _ => some none

end Kind

namespace Resource

variable {k : Kind}

/-- The name by which a resource is known. -/
def name (r : Resource k) : String := r.metadata.anyName

/-- The namespace of a resource, empty if it has none. -/
def space (r : Resource k) : String := r.metadata.spaceOrEmpty

/-- The JSON object of a resource. -/
def toJson (r : Resource k) : Json :=
  .ofFields
    [("apiVersion", some (.str Kind.apiVersion)),
      ("kind", some (.str k.name)),
      ("metadata", some r.metadata.toJson),
      ("spec", some (k.specJson r.spec)),
      ("status", r.status.map k.statusJson)]

/-- Reads a resource of a kind. -/
def ofJson? (k : Kind) (j : Json) : Option (Resource k) := do
  let r ← j.record? ["metadata", "spec", "status"]
  let metadata ← r.required "metadata" Metadata.ofJson?
  let spec ← r.required "spec" k.spec?
  let status ← k.status? r
  return { metadata, spec, status }

/-! ## What resources tell -/

/-- The run state of a cluster; unknown until an operator reports one. -/
def runState (c : DatabaseCluster) : RunState := (c.status.map ClusterStatus.status).getD .unknown

/-- The storage that a cluster is bound to, if any. -/
def activeStorage (c : DatabaseCluster) : Option String :=
  (c.status.bind ClusterStatus.activeStorage).filter fun s => s ≠ ""

/-- Whether an engine is installed, or about to be. -/
def isInstalled (e : DatabaseEngine) : Bool :=
  e.status.any fun s : DatabaseEngineStatus => s.status ≠ .notInstalled

/-- The version of the installed operator, empty if none is known. -/
def operatorVersion (e : DatabaseEngine) : String :=
  (e.status.map DatabaseEngineStatus.operatorVersion).getD ""

/-- Whether a version may be requested. The empty version leaves the choice to the operator; else
the allowed versions count if there are any, and the available ones if not. -/
def permitsVersion (e : DatabaseEngine) (version : String) : Bool :=
  if version = "" then true
  else if !e.spec.allowedVersions.isEmpty then e.spec.allowedVersions.contains version
  else e.status.any fun s : DatabaseEngineStatus => s.availableVersions.engine.contains version

/-- The state of a backup, empty if none is reported. -/
def backupState (b : DatabaseClusterBackup) : String := (b.status.map BackupStatus.state).getD ""

/-- When a backup was created, if that is reported. -/
def created (b : DatabaseClusterBackup) : Option Timestamp := b.status.bind BackupStatus.created

/-- The label of the scheduling policies that come with the platform. -/
def defaultPolicyLabel : String := "dbaas.io/default-pod-scheduling-policy"

/-- The label of the load balancer configs that come with the platform. -/
def defaultLoadBalancerLabel : String := "dbaas.io/default-load-balancer-config"

/-- Whether a scheduling policy comes with the platform. -/
def isDefaultPolicy (p : PodSchedulingPolicy) : Bool := p.metadata.isMarked defaultPolicyLabel

/-- Whether a load balancer config comes with the platform. -/
def isDefaultLoadBalancer (c : LoadBalancerConfig) : Bool :=
  c.metadata.isMarked defaultLoadBalancerLabel

end Resource

end ClusterAdmission
