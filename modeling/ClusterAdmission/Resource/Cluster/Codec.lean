import ClusterAdmission.Resource.Cluster

/-!
# Clusters in JSON

Each part of a cluster is an object. A field without a value of its own is left out when it is not
set; every other field is always written, and takes its value where it is left out.
-/

namespace ClusterAdmission

/-! ## Names of the enumerations -/

namespace ExposeType

/-- The name of an exposure. -/
def name : ExposeType → String
  | internal => "internal"
  | external => "external"
  | loadBalancer => "loadBalancer"

/-- The exposures by name. -/
def table : List (String × ExposeType) :=
  [internal, external, loadBalancer].map fun e => (e.name, e)

end ExposeType

namespace PitrType

/-- The name of a target of recovery. -/
def name : PitrType → String
  | date => "date"
  | latest => "latest"

/-- The targets of recovery by name. -/
def table : List (String × PitrType) := [date, latest].map fun t => (t.name, t)

end PitrType

namespace RunState

/-- The name of a run state. -/
def name : RunState → String
  | unknown => "unknown"
  | new => "new"
  | creating => "creating"
  | initializing => "initializing"
  | ready => "ready"
  | paused => "paused"
  | pausing => "pausing"
  | stopping => "stopping"
  | restoring => "restoring"
  | upgrading => "upgrading"
  | deleting => "deleting"
  | error => "error"

/-- The run states by name. -/
def table : List (String × RunState) :=
  [unknown, new, creating, initializing, ready, paused, pausing, stopping, restoring, upgrading,
    deleting, error].map fun s => (s.name, s)

end RunState

/-! ## Parts of a cluster -/

namespace VolumeSpec

/-- The JSON object of a volume. -/
def toJson (v : VolumeSpec) : Json :=
  .ofFields [("class", v.storageClass.map Json.str), ("size", some (.str v.size))]

/-- Reads a volume. -/
def ofJson? (j : Json) : Option VolumeSpec := do
  let r ← j.record? ["size", "class"]
  let size ← r.withDefault "size" Json.string? ""
  let storageClass ← r.optional "class" Json.string?
  return { size, storageClass }

end VolumeSpec

namespace ComputeSpec

/-- The JSON object of compute resources. -/
def toJson (c : ComputeSpec) : Json :=
  .ofFields [("cpu", c.cpu.map Json.str), ("memory", c.memory.map Json.str)]

/-- Reads compute resources. -/
def ofJson? (j : Json) : Option ComputeSpec := do
  let r ← j.record? ["cpu", "memory"]
  let cpu ← r.optional "cpu" Json.string?
  let memory ← r.optional "memory" Json.string?
  return { cpu, memory }

end ComputeSpec

namespace EngineSpec

/-- The JSON object of an engine; an empty version is left out. -/
def toJson (e : EngineSpec) : Json :=
  .ofFields
    [("config", e.config.map Json.str),
      ("replicas", some (.int e.replicas.toInt)),
      ("resources", some e.resources.toJson),
      ("storage", some e.storage.toJson),
      ("type", some e.engine.toJson),
      ("version", if e.version = "" then none else some (.str e.version))]

/-- Reads an engine. -/
def ofJson? (j : Json) : Option EngineSpec := do
  let r ← j.record? ["type", "version", "replicas", "storage", "resources", "config"]
  let engine ← r.required "type" EngineType.ofJson?
  let version ← r.withDefault "version" Json.string? ""
  let replicas ← r.withDefault "replicas" Json.int32? 0
  let storage ← r.withDefault "storage" VolumeSpec.ofJson? {}
  let resources ← r.withDefault "resources" ComputeSpec.ofJson? {}
  let config ← r.optional "config" Json.string?
  return { engine, version, replicas, storage, resources, config }

end EngineSpec

namespace ExposeSpec

/-- The JSON object of an exposure. -/
def toJson (e : ExposeSpec) : Json :=
  .ofFields
    [("ipSourceRanges", Json.nonemptyList Json.str e.ipSourceRanges),
      ("loadBalancerConfigName", e.loadBalancerConfigName.map Json.str),
      ("type", some (.str e.exposeType.name))]

/-- Reads an exposure. -/
def ofJson? (j : Json) : Option ExposeSpec := do
  let r ← j.record? ["type", "loadBalancerConfigName", "ipSourceRanges"]
  let exposeType ← r.withDefault "type" (Json.tag? ExposeType.table) .internal
  let loadBalancerConfigName ← r.optional "loadBalancerConfigName" Json.string?
  let ipSourceRanges ← r.withDefault "ipSourceRanges" (Json.list? Json.string?) []
  return { exposeType, loadBalancerConfigName, ipSourceRanges }

end ExposeSpec

namespace ProxySpec

/-- The JSON object of a proxy. -/
def toJson (p : ProxySpec) : Json :=
  .ofFields
    [("expose", some p.expose.toJson),
      ("replicas", p.replicas.map fun n => Json.int n.toInt),
      ("resources", some p.resources.toJson),
      ("type", p.proxyType.map ProxyType.toJson)]

/-- Reads a proxy. -/
def ofJson? (j : Json) : Option ProxySpec := do
  let r ← j.record? ["type", "replicas", "expose", "resources"]
  let proxyType ← r.optional "type" ProxyType.ofJson?
  let replicas ← r.optional "replicas" Json.int32?
  let expose ← r.withDefault "expose" ExposeSpec.ofJson? {}
  let resources ← r.withDefault "resources" ComputeSpec.ofJson? {}
  return { proxyType, replicas, expose, resources }

end ProxySpec

namespace BackupSchedule

/-- The JSON object of a schedule. -/
def toJson (s : BackupSchedule) : Json :=
  .ofFields
    [("backupStorageName", some (.str s.backupStorageName)),
      ("enabled", some (.bool s.enabled)),
      ("name", some (.str s.name)),
      ("retentionCopies", some (.int s.retentionCopies.toInt)),
      ("schedule", some (.str s.schedule))]

/-- Reads a schedule. -/
def ofJson? (j : Json) : Option BackupSchedule := do
  let r ← j.record? ["name", "enabled", "schedule", "backupStorageName", "retentionCopies"]
  let name ← r.required "name" Json.string?
  let enabled ← r.withDefault "enabled" Json.bool? false
  let schedule ← r.required "schedule" Json.string?
  let backupStorageName ← r.withDefault "backupStorageName" Json.string? ""
  let retentionCopies ← r.withDefault "retentionCopies" Json.int32? 0
  return { name, enabled, schedule, backupStorageName, retentionCopies }

end BackupSchedule

namespace PitrSpec

/-- The JSON object of point-in-time recovery. -/
def toJson (p : PitrSpec) : Json :=
  .ofFields
    [("backupStorageName", p.backupStorageName.map Json.str),
      ("enabled", some (.bool p.enabled)),
      ("uploadIntervalSec", p.uploadIntervalSec.map fun n => Json.int n.toInt)]

/-- Reads point-in-time recovery. -/
def ofJson? (j : Json) : Option PitrSpec := do
  let r ← j.record? ["enabled", "backupStorageName", "uploadIntervalSec"]
  let enabled ← r.withDefault "enabled" Json.bool? false
  let backupStorageName ← r.optional "backupStorageName" Json.string?
  let uploadIntervalSec ← r.optional "uploadIntervalSec" Json.int32?
  return { enabled, backupStorageName, uploadIntervalSec }

end PitrSpec

namespace BackupSpec

/-- The JSON object of scheduled backups. -/
def toJson (b : BackupSpec) : Json :=
  .ofFields
    [("enabled", some (.bool b.enabled)),
      ("pitr", some b.pitr.toJson),
      ("schedules", Json.nonemptyList BackupSchedule.toJson b.schedules)]

/-- Reads scheduled backups. -/
def ofJson? (j : Json) : Option BackupSpec := do
  let r ← j.record? ["enabled", "schedules", "pitr"]
  let enabled ← r.withDefault "enabled" Json.bool? false
  let schedules ← r.withDefault "schedules" (Json.list? BackupSchedule.ofJson?) []
  let pitr ← r.withDefault "pitr" PitrSpec.ofJson? {}
  return { enabled, schedules, pitr }

end BackupSpec

namespace BackupSource

/-- The JSON object of a backup on a storage. -/
def toJson (b : BackupSource) : Json :=
  .ofFields [("backupStorageName", some (.str b.backupStorageName)), ("path", some (.str b.path))]

/-- Reads a backup on a storage. -/
def ofJson? (j : Json) : Option BackupSource := do
  let r ← j.record? ["backupStorageName", "path"]
  let backupStorageName ← r.withDefault "backupStorageName" Json.string? ""
  let path ← r.withDefault "path" Json.string? ""
  return { backupStorageName, path }

end BackupSource

namespace PitrSelector

/-- The JSON object of a point in time. -/
def toJson (p : PitrSelector) : Json :=
  .ofFields [("date", p.date.map Json.str), ("type", some (.str p.pitrType.name))]

/-- Reads a point in time. -/
def ofJson? (j : Json) : Option PitrSelector := do
  let r ← j.record? ["type", "date"]
  let pitrType ← r.withDefault "type" (Json.tag? PitrType.table) .date
  let date ← r.optional "date" Json.string?
  return { pitrType, date }

end PitrSelector

namespace DataSource

/-- The JSON object of a source. -/
def toJson (d : DataSource) : Json :=
  .ofFields
    [("backupSource", d.backupSource.map BackupSource.toJson),
      ("dbClusterBackupName", d.dbClusterBackupName.map Json.str),
      ("pitr", d.pitr.map PitrSelector.toJson)]

/-- Reads a source. -/
def ofJson? (j : Json) : Option DataSource := do
  let r ← j.record? ["dbClusterBackupName", "backupSource", "pitr"]
  let dbClusterBackupName ← r.optional "dbClusterBackupName" Json.string?
  let backupSource ← r.optional "backupSource" BackupSource.ofJson?
  let pitr ← r.optional "pitr" PitrSelector.ofJson?
  return { dbClusterBackupName, backupSource, pitr }

end DataSource

namespace ConfigServerSpec

/-- The JSON object of config servers. -/
def toJson (c : ConfigServerSpec) : Json := .ofFields [("replicas", some (.int c.replicas.toInt))]

/-- Reads config servers. -/
def ofJson? (j : Json) : Option ConfigServerSpec := do
  let r ← j.record? ["replicas"]
  let replicas ← r.withDefault "replicas" Json.int32? 0
  return { replicas }

end ConfigServerSpec

namespace ShardingSpec

/-- The JSON object of a sharded topology. -/
def toJson (s : ShardingSpec) : Json :=
  .ofFields
    [("configServer", some s.configServer.toJson),
      ("enabled", some (.bool s.enabled)),
      ("shards", some (.int s.shards.toInt))]

/-- Reads a sharded topology. -/
def ofJson? (j : Json) : Option ShardingSpec := do
  let r ← j.record? ["enabled", "shards", "configServer"]
  let enabled ← r.withDefault "enabled" Json.bool? false
  let shards ← r.withDefault "shards" Json.int32? 0
  let configServer ← r.withDefault "configServer" ConfigServerSpec.ofJson? {}
  return { enabled, shards, configServer }

end ShardingSpec

namespace MonitoringSpec

/-- The JSON object of monitoring. -/
def toJson (m : MonitoringSpec) : Json :=
  .ofFields [("monitoringConfigName", m.monitoringConfigName.map Json.str)]

/-- Reads monitoring. -/
def ofJson? (j : Json) : Option MonitoringSpec := do
  let r ← j.record? ["monitoringConfigName"]
  let monitoringConfigName ← r.optional "monitoringConfigName" Json.string?
  return { monitoringConfigName }

end MonitoringSpec

namespace PsmdbFeatures

/-- The JSON object of MongoDB features. -/
def toJson (f : PsmdbFeatures) : Json :=
  .ofFields [("splitHorizonDnsConfigName", f.splitHorizonDnsConfigName.map Json.str)]

/-- Reads MongoDB features. -/
def ofJson? (j : Json) : Option PsmdbFeatures := do
  let r ← j.record? ["splitHorizonDnsConfigName"]
  let splitHorizonDnsConfigName ← r.optional "splitHorizonDnsConfigName" Json.string?
  return { splitHorizonDnsConfigName }

end PsmdbFeatures

namespace EngineFeatures

/-- The JSON object of engine features. -/
def toJson (f : EngineFeatures) : Json := .ofFields [("psmdb", f.psmdb.map PsmdbFeatures.toJson)]

/-- Reads engine features. -/
def ofJson? (j : Json) : Option EngineFeatures := do
  let r ← j.record? ["psmdb"]
  let psmdb ← r.optional "psmdb" PsmdbFeatures.ofJson?
  return { psmdb }

end EngineFeatures

namespace ClusterSpec

/-- The JSON object of what a cluster asks for. -/
def toJson (c : ClusterSpec) : Json :=
  .ofFields
    [("backup", some c.backup.toJson),
      ("dataSource", c.dataSource.map DataSource.toJson),
      ("engine", some c.engine.toJson),
      ("engineFeatures", c.engineFeatures.map EngineFeatures.toJson),
      ("monitoring", c.monitoring.map MonitoringSpec.toJson),
      ("paused", some (.bool c.paused)),
      ("podSchedulingPolicyName", c.podSchedulingPolicyName.map Json.str),
      ("proxy", some c.proxy.toJson),
      ("sharding", c.sharding.map ShardingSpec.toJson)]

/-- Reads what a cluster asks for. -/
def ofJson? (j : Json) : Option ClusterSpec := do
  let r ← j.record? ["engine", "proxy", "backup", "dataSource", "sharding", "monitoring",
    "podSchedulingPolicyName", "engineFeatures", "paused"]
  let engine ← r.required "engine" EngineSpec.ofJson?
  let proxy ← r.withDefault "proxy" ProxySpec.ofJson? {}
  let backup ← r.withDefault "backup" BackupSpec.ofJson? {}
  let dataSource ← r.optional "dataSource" DataSource.ofJson?
  let sharding ← r.optional "sharding" ShardingSpec.ofJson?
  let monitoring ← r.optional "monitoring" MonitoringSpec.ofJson?
  let podSchedulingPolicyName ← r.optional "podSchedulingPolicyName" Json.string?
  let engineFeatures ← r.optional "engineFeatures" EngineFeatures.ofJson?
  let paused ← r.withDefault "paused" Json.bool? false
  return { engine, proxy, backup, dataSource, sharding, monitoring, podSchedulingPolicyName,
           engineFeatures, paused }

end ClusterSpec

namespace ClusterStatus

/-- The JSON object of a status. -/
def toJson (s : ClusterStatus) : Json :=
  .ofFields
    [("activeStorage", s.activeStorage.map Json.str),
      ("crdVersion", s.crdVersion.map Json.str),
      ("message", s.message.map Json.str),
      ("ready", some (.int s.ready.toInt)),
      ("recommendedCrdVersion", s.recommendedCrdVersion.map Json.str),
      ("size", some (.int s.size.toInt)),
      ("status", some (.str s.status.name))]

/-- Reads a status. -/
def ofJson? (j : Json) : Option ClusterStatus := do
  let r ← j.record? ["status", "activeStorage", "crdVersion", "recommendedCrdVersion", "ready",
    "size", "message"]
  let status ← r.withDefault "status" (Json.tag? RunState.table) .unknown
  let activeStorage ← r.optional "activeStorage" Json.string?
  let crdVersion ← r.optional "crdVersion" Json.string?
  let recommendedCrdVersion ← r.optional "recommendedCrdVersion" Json.string?
  let ready ← r.withDefault "ready" Json.int32? 0
  let size ← r.withDefault "size" Json.int32? 0
  let message ← r.optional "message" Json.string?
  return { status, activeStorage, crdVersion, recommendedCrdVersion, ready, size, message }

end ClusterStatus

end ClusterAdmission
