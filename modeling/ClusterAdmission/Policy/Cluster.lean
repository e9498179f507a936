import ClusterAdmission.Policy
import ClusterAdmission.Rules.Cluster
import ClusterAdmission.Rules.Upgrade

/-!
# Policies for clusters

A new cluster is checked by families of rules in a fixed order: name, engine and version, nodes,
resources, proxy, sharding, schedules, recovery, storages, restore source, repositories, and
references to other objects. For an update the stored cluster is read first, a change of version
follows the rules for upgrades, and some choices are fixed; the restore source is not looked at.
-/

namespace ClusterAdmission.Policy

open Text (nonblank?)

/-- The storages that must be usable, without repetition and in order: those of schedules, of
enabled recovery and, for a new cluster, of the restore source. -/
def topologyStorages (c : ClusterSpec) (withSource : Bool) : List String :=
  Rules.namedStorages
    (c.scheduleStorages ++
      (if c.backup.pitr.enabled then c.backup.pitr.backupStorageName.toList else []) ++
      (if withSource then c.sourceStorage.toList else []))

/-- The storage that recovery of a MySQL cluster writes to, which must be S3. -/
def recoveryStorage (c : ClusterSpec) : Option String :=
  if c.backup.pitr.enabled ∧ c.engine.engine = .pxc then c.backup.pitr.backupStorageName else none

/-- Every storage is usable, and the one for recovery is S3. -/
def usableStorages (space : String) (recovery : Option String) : List String → Check Unit
  | [] => pure ()
  | name :: names => do
    let s ← usableStorage space name
    Check.require (!(recovery = some name && s.spec.storageType ≠ .s3)) .pitrRequiresS3
    usableStorages space recovery names

/-- The storages of a cluster. MongoDB clusters are bound to a single one. -/
def storageTopology (space : String) (c : ClusterSpec) (active : Option String)
    (withSource : Bool) : Check Unit := do
  if c.engine.engine = .psmdb then
    Check.rule (Rules.psmdbStorages c.backup.schedules active)
  usableStorages space (recoveryStorage c) (topologyStorages c withSource)

/-- The repositories of a PostgreSQL cluster: its schedules, the backups of it that exist, and one
that is being made. -/
def repositoryBudget (p : Policies) (space cluster : String) (schedules : List BackupSchedule)
    (inFlight : Option String) : Check Unit := do
  let backups ← Check.get (.backups space cluster)
  Check.rule (Rules.pgRepositories schedules
    (backups.map (fun b => b.spec.backupStorageName) ++ inFlight.toList)
    p.config.pgMaxRepositories)

/-- The monitoring instance that a cluster names. -/
def monitoringReference (c : ClusterSpec) : Option String :=
  nonblank? (c.monitoring.bind (·.monitoringConfigName))

/-- The load balancer config that a cluster names. -/
def loadBalancerReference (c : ClusterSpec) : Option String :=
  nonblank? c.proxy.expose.loadBalancerConfigName

/-- The scheduling policy that a cluster names. -/
def schedulingReference (c : ClusterSpec) : Option String := nonblank? c.podSchedulingPolicyName

/-- The split-horizon config that a cluster names. -/
def splitHorizonReference (c : ClusterSpec) : Option String :=
  nonblank? ((c.engineFeatures.bind (·.psmdb)).bind (·.splitHorizonDnsConfigName))

/-- A name, if given, is that of an object. -/
def exists? (name : Option String) (read : String → Read) (missing : String → Violation) :
    Check Unit :=
  match name with
  | none => pure ()
  | some name => do
    let _ ← Check.getReferenced (read name) (missing name)
    return ()

/-- A scheduling policy, if named, exists and is for the engine of the cluster. -/
def schedulingPolicyFits (c : ClusterSpec) : Check Unit :=
  match schedulingReference c with
  | none => pure ()
  | some name => do
    let policy ← Check.getReferenced (.schedulingPolicy name) (.podSchedulingPolicyNotFound name)
    Check.require (policy.spec.engineType = c.engine.engine)
      (.podSchedulingPolicyEngineMismatch name policy.spec.engineType c.engine.engine)

/-- A split-horizon config, if named, exists, and the cluster is a MongoDB cluster. -/
def splitHorizonFits (space : String) (c : ClusterSpec) : Check Unit :=
  match splitHorizonReference c with
  | none => pure ()
  | some name => do
    Check.require (c.engine.engine = .psmdb) .splitHorizonNotSupported
    let _ ← Check.getReferenced (.splitHorizon space name) (.splitHorizonConfigNotFound name)
    return ()

/-- The objects that a cluster names, in a fixed order. -/
def references (space : String) (c : ClusterSpec) : Check Unit := do
  exists? (monitoringReference c) (.monitoring space) .monitoringConfigNotFound
  exists? (loadBalancerReference c) .loadBalancer .loadBalancerConfigNotFound
  schedulingPolicyFits c
  splitHorizonFits space c

/-- The rules on nodes, resources and proxy that new and updated clusters share; `between` are those
that only one of them has after the count of nodes. -/
def nodesAndProxy (p : Policies) (c : ClusterSpec) (between : Verdict) : Check Unit := do
  Check.rule (Rules.replicas c.engine p.config.pxcMaxReplicas)
  Check.rule between
  Check.rule (Rules.resources c.engine p.config p.floors)
  Check.rule (Rules.proxy c)

/-- The rules on sharding, schedules and recovery that new and updated clusters share. -/
def shardingAndBackups (p : Policies) (c : ClusterSpec) (engine : DatabaseEngine) :
    Check Unit := do
  Check.rule (Rules.shardingIfEnabled c (Resource.operatorVersion engine)
    p.config.minShardingOperatorVersion)
  Check.rule (Rules.schedules c.backup)
  Check.rule (Rules.pitr c)

/-- The source that a new cluster is restored from, if any. -/
def restoreSource (c : ClusterSpec) : Verdict :=
  match c.dataSource with
  | none => .ok ()
  | some d => Rules.dataSource d

/-- A new cluster. -/
def clusterCreate (p : Policies) (c : DatabaseCluster) : Check Unit := do
  let spec := c.spec
  Check.rule (Rules.shortLabel c.name p.config.maxClusterNameLength)
  let engine ← installedEngine c.space spec.engine.engine
  Check.require (Resource.permitsVersion engine spec.engine.version)
    (.unsupportedVersion spec.engine.version)
  nodesAndProxy p spec (.ok ())
  shardingAndBackups p spec engine
  storageTopology c.space spec (Resource.activeStorage c) true
  Check.rule (restoreSource spec)
  if spec.engine.engine = .postgresql then
    repositoryBudget p c.space c.name spec.backup.schedules none
  references c.space spec

/-- A change of the engine version, if there is one. -/
def versionChange (engine : DatabaseEngine) (old new : EngineSpec) : Check Unit :=
  if new.version = old.version then
    pure ()
  else do
    Check.rule (Rules.upgrade new.engine old.version new.version)
    Check.require (Resource.permitsVersion engine new.version) (.unsupportedVersion new.version)

/-- An update of a cluster. -/
def clusterUpdate (p : Policies) (c : DatabaseCluster) : Check Unit := do
  let spec := c.spec
  let old ← Check.get (.cluster c.space c.name)
  let engine ← installedEngine c.space spec.engine.engine
  versionChange engine old.spec.engine spec.engine
  nodesAndProxy p spec (Rules.scaleDown old.spec.engine spec.engine)
  Check.rule (Rules.shardingChange old.spec spec)
  shardingAndBackups p spec engine
  storageTopology c.space spec (Resource.activeStorage old) false
  if spec.engine.engine = .postgresql then
    Check.rule (Rules.scheduleStorages old.spec.backup.schedules spec.backup.schedules)
    repositoryBudget p c.space c.name spec.backup.schedules none
  references c.space spec

end ClusterAdmission.Policy
