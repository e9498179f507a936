import ClusterAdmission.Engine
import ClusterAdmission.Resource.Metadata

/-!
# Specification and status of database clusters

What a cluster asks for, and what the operators report of it.
-/

namespace ClusterAdmission

/-- The volume of an engine node. -/
structure VolumeSpec where
  size : String := ""
  storageClass : Option String := none
  deriving DecidableEq, Inhabited

/-- Compute resources of a node. -/
structure ComputeSpec where
  cpu : Option String := none
  memory : Option String := none
  deriving DecidableEq, Inhabited

/-- The engine of a cluster. An empty version leaves the choice to the operator. -/
structure EngineSpec where
  engine : EngineType
  version : String := ""
  replicas : Int32 := 0
  storage : VolumeSpec := {}
  resources : ComputeSpec := {}
  config : Option String := none
  deriving DecidableEq, Inhabited

/-- How a service is reached. -/
inductive ExposeType where
  | internal
  | external
  | loadBalancer
  deriving DecidableEq, Repr, Inhabited

/-- The exposure of the proxy. -/
structure ExposeSpec where
  exposeType : ExposeType := .internal
  loadBalancerConfigName : Option String := none
  ipSourceRanges : List String := []
  deriving DecidableEq, Inhabited

/-- The proxy of a cluster; without a type the operator chooses one. -/
structure ProxySpec where
  proxyType : Option ProxyType := none
  replicas : Option Int32 := none
  expose : ExposeSpec := {}
  resources : ComputeSpec := {}
  deriving DecidableEq, Inhabited

/-- A recurring backup. -/
structure BackupSchedule where
  name : String
  enabled : Bool := false
  /-- The cron expression. -/
  schedule : String
  backupStorageName : String := ""
  retentionCopies : Int32 := 0
  deriving DecidableEq, Inhabited

/-- Point-in-time recovery. -/
structure PitrSpec where
  enabled : Bool := false
  backupStorageName : Option String := none
  uploadIntervalSec : Option Int32 := none
  deriving DecidableEq, Inhabited

/-- Scheduled backups and point-in-time recovery. -/
structure BackupSpec where
  enabled : Bool := false
  schedules : List BackupSchedule := []
  pitr : PitrSpec := {}
  deriving DecidableEq, Inhabited

/-- A backup at a path of a storage. -/
structure BackupSource where
  backupStorageName : String := ""
  path : String := ""
  deriving DecidableEq, Inhabited

/-- What point in time to recover to. -/
inductive PitrType where
  | date
  | latest
  deriving DecidableEq, Repr, Inhabited

/-- A point in time to recover to. -/
structure PitrSelector where
  pitrType : PitrType := .date
  date : Option String := none
  deriving DecidableEq, Inhabited

/-- Where to restore from. -/
structure DataSource where
  dbClusterBackupName : Option String := none
  backupSource : Option BackupSource := none
  pitr : Option PitrSelector := none
  deriving DecidableEq, Inhabited

/-- The config servers of a sharded cluster. -/
structure ConfigServerSpec where
  replicas : Int32 := 0
  deriving DecidableEq, Inhabited

/-- A sharded topology. -/
structure ShardingSpec where
  enabled : Bool := false
  shards : Int32 := 0
  configServer : ConfigServerSpec := {}
  deriving DecidableEq, Inhabited

/-- The monitoring of a cluster. -/
structure MonitoringSpec where
  monitoringConfigName : Option String := none
  deriving DecidableEq, Inhabited

/-- Features of MongoDB clusters. -/
structure PsmdbFeatures where
  splitHorizonDnsConfigName : Option String := none
  deriving DecidableEq, Inhabited

/-- Features of single engines. -/
structure EngineFeatures where
  psmdb : Option PsmdbFeatures := none
  deriving DecidableEq, Inhabited

/-- What a cluster asks for. -/
structure ClusterSpec where
  engine : EngineSpec
  proxy : ProxySpec := {}
  backup : BackupSpec := {}
  /-- Where to restore from when the cluster is created. -/
  dataSource : Option DataSource := none
  sharding : Option ShardingSpec := none
  monitoring : Option MonitoringSpec := none
  podSchedulingPolicyName : Option String := none
  engineFeatures : Option EngineFeatures := none
  paused : Bool := false
  deriving DecidableEq, Inhabited

/-- The run state of a cluster. -/
inductive RunState where
  | unknown | new | creating | initializing | ready | paused | pausing | stopping | restoring
  | upgrading | deleting | error
  deriving DecidableEq, Repr, Inhabited

/-- What the operators report of a cluster. -/
structure ClusterStatus where
  status : RunState := .unknown
  /-- The storage that a MongoDB cluster is bound to. -/
  activeStorage : Option String := none
  crdVersion : Option String := none
  recommendedCrdVersion : Option String := none
  ready : Int32 := 0
  size : Int32 := 0
  message : Option String := none
  deriving DecidableEq, Inhabited

namespace ClusterSpec

/-- Whether the topology is sharded. -/
def shardingEnabled (c : ClusterSpec) : Bool := c.sharding.any (·.enabled)

/-- The storages of the schedules, as written. -/
def scheduleStorages (c : ClusterSpec) : List String :=
  c.backup.schedules.map (·.backupStorageName)

/-- The storage of the restore source. -/
def sourceStorage (c : ClusterSpec) : Option String :=
  (c.dataSource.bind (·.backupSource)).map (·.backupStorageName)

/-- Every storage that the cluster refers to: in schedules, for point-in-time recovery, enabled or
not, and as restore source. -/
def referencedStorages (c : ClusterSpec) : List String :=
  (c.scheduleStorages ++ c.backup.pitr.backupStorageName.toList ++ c.sourceStorage.toList).filter
    (· ≠ "")

end ClusterSpec

end ClusterAdmission
