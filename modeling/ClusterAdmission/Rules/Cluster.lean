import ClusterAdmission.Config
import ClusterAdmission.Resource.Cluster
import ClusterAdmission.Rules
import ClusterAdmission.SortedMap
import ClusterAdmission.Text.Bytes
import ClusterAdmission.Time.CivilTime
import ClusterAdmission.Version

/-!
# Rules for clusters

What can be said of a cluster without looking at other objects: counts of nodes, resources, proxy,
sharding, schedules, recovery and the source to restore from.
-/

namespace ClusterAdmission.Rules

open Text (nonblank?)

/-! ## Nodes and resources -/

/-- MySQL and MongoDB clusters have an odd count of nodes or none, and MySQL clusters at most
`pxcMax`. -/
def replicas (e : EngineSpec) (pxcMax : Int) : Verdict := do
  let n := e.replicas.toInt
  require (0 ≤ n) .negativeReplicas
  match e.engine with
  | .pxc =>
    require (n = 0 ∨ n % 2 = 1) (.evenReplicas .pxc)
    require (n ≤ pxcMax) (.tooManyReplicas .pxc pxcMax)
  | .psmdb => require (n = 0 ∨ n % 2 = 1) (.evenReplicas .psmdb)
  | .postgresql => .ok ()

/-- A cluster of several nodes does not shrink to one. -/
def scaleDown (old new : EngineSpec) : Verdict :=
  require (!(1 < old.replicas.toInt && new.replicas.toInt = 1)) .scaleDownToSingleNode

/-- A text that must be a quantity. -/
def quantity (text : String) : Except Violation Binary64 :=
  match Quantity.valueOf? text with
  | some x => .ok x
  | none => .error (.invalidQuantity text)

/-- A text is a quantity that is not below a floor. -/
def atLeastFloor (text : String) (floor : Binary64) (v : Violation) : Verdict := do
  let x ← quantity text
  require (!x.lt floor) v

/-- CPU and memory are both given. -/
def computeGiven (c : ComputeSpec) : Except Violation (String × String) :=
  match nonblank? c.cpu, nonblank? c.memory with
  | none, none => .error .resourcesMissing
  | none, some _ => .error .cpuMissing
  | some _, none => .error .memoryMissing
  | some cpu, some memory => .ok (cpu, memory)

/-- CPU, memory and the size of the volume are given and not below their floors. -/
def resources (e : EngineSpec) (config : PolicyConfig) (floors : ResourceFloors) : Verdict := do
  let (cpu, memory) ← computeGiven e.resources
  atLeastFloor cpu floors.cpu (.cpuBelowMinimum config.minCpu)
  atLeastFloor memory floors.memory (.memoryBelowMinimum config.minMemory)
  let size := Text.trimmed e.storage.size
  require (size ≠ "") .storageMissing
  atLeastFloor size floors.storage (.storageBelowMinimum config.minStorage)

/-! ## Proxy -/

/-- The type of the proxy, if chosen, fits the engine. -/
def proxyType (engine : EngineType) : Option ProxyType → Verdict
  | none => .ok ()
  | some p => require (engine.supportsProxy p) (.unsupportedProxy engine p)

/-- The count of proxies, if chosen, is not negative, and at least two for MySQL clusters of several
nodes. -/
def proxyReplicas (e : EngineSpec) : Option Int32 → Verdict
  | none => .ok ()
  | some n => do
    require (0 ≤ n.toInt) .negativeReplicas
    require (!(e.engine = .pxc && 1 < e.replicas.toInt && n.toInt < 2)) .insufficientProxyReplicas

/-- A load balancer config goes with exposure by a load balancer only. -/
def exposure (e : ExposeSpec) : Verdict :=
  require ((nonblank? e.loadBalancerConfigName).isNone || e.exposeType = .loadBalancer)
    .loadBalancerConfigRequiresLoadBalancer

/-- The proxy of a cluster. -/
def proxy (c : ClusterSpec) : Verdict := do
  proxyType c.engine.engine c.proxy.proxyType
  proxyReplicas c.engine c.proxy.replicas
  exposure c.proxy.expose

/-! ## Sharding -/

/-- The least count of config servers. -/
def minConfigServers (e : EngineSpec) : Int := if e.replicas.toInt = 1 then 1 else 3

/-- Sharding that is switched on, under an operator of a version. -/
def sharding (e : EngineSpec) (s : ShardingSpec) (operatorVersion minimum : String) : Verdict := do
  require (e.engine = .psmdb) (.shardingNotSupported e.engine)
  require (Version.atLeast operatorVersion minimum) (.shardingVersionTooOld minimum)
  require (1 ≤ s.shards.toInt) .insufficientShards
  let n := s.configServer.replicas.toInt
  require (n % 2 ≠ 0) .evenConfigServers
  require (minConfigServers e ≤ n) (.insufficientConfigServers (minConfigServers e))

/-- The sharding of a cluster, if it is switched on. -/
def shardingIfEnabled (c : ClusterSpec) (operatorVersion minimum : String) : Verdict :=
  match c.sharding.filter (·.enabled) with
  | none => .ok ()
  | some s => sharding c.engine s operatorVersion minimum

/-- Sharding stays on or off for the life of a cluster. -/
def shardingChange (old new : ClusterSpec) : Verdict := do
  require (old.shardingEnabled || !new.shardingEnabled) .shardingEnableForbidden
  require (!old.shardingEnabled || new.shardingEnabled) .shardingDisableForbidden

/-! ## Backups -/

/-- Each schedule has a name, a storage if it is enabled, and a cron expression that no earlier one
has. -/
def schedulesAfter (seen : List String) : List BackupSchedule → Verdict
  | [] => .ok ()
  | s :: rest => do
    require (Text.trimmed s.name ≠ "") .emptyScheduleName
    require (!s.enabled || s.backupStorageName ≠ "") (.emptyScheduleStorage s.name)
    require (!seen.contains s.schedule) (.duplicateSchedule s.schedule)
    schedulesAfter (s.schedule :: seen) rest

/-- Enabled backups have a schedule, and the schedules are in order. -/
def schedules (b : BackupSpec) : Verdict := do
  require (!b.enabled || !b.schedules.isEmpty) .noBackupSchedules
  schedulesAfter [] b.schedules

/-- Point-in-time recovery that is switched on has a storage for MySQL, and a positive interval if
it has any. -/
def pitr (c : ClusterSpec) : Verdict :=
  let p := c.backup.pitr
  if !p.enabled then
    .ok ()
  else do
    require (c.engine.engine ≠ .pxc || p.backupStorageName.any (· ≠ "")) .pitrStorageRequired
    require (p.uploadIntervalSec.all fun n => 0 < n.toInt) .invalidUploadInterval

/-- The distinct storages that a list names. -/
def namedStorages (names : List String) : List String :=
  SortedMap.distinct (names.filter (· ≠ ""))

/-- The schedules of a MongoDB cluster name one storage at most, and none but the active one. -/
def psmdbStorages (schedules : List BackupSchedule) (active : Option String) : Verdict := do
  let storages := namedStorages (schedules.map (·.backupStorageName))
  require (storages.length ≤ 1) .multipleStorages
  match active with
  | none => .ok ()
  | some a => require (storages.all (· = a)) (.activeStorageMismatch a)

/-- A PostgreSQL cluster has a repository for each schedule, and its schedules and backups use at
most as many storages as there can be repositories. -/
def pgRepositories (schedules : List BackupSchedule) (backupStorages : List String) (max : Nat) :
    Verdict := do
  require (schedules.length ≤ max) (.tooManySchedules max)
  let storages := namedStorages (schedules.map (·.backupStorageName) ++ backupStorages)
  require (storages.length ≤ max) (.tooManyRepositories max)

/-- A schedule that was there before keeps its storage; of old schedules with one name the first
counts. -/
def scheduleStorages (old : List BackupSchedule) : List BackupSchedule → Verdict
  | [] => .ok ()
  | s :: rest => do
    require ((old.find? fun o => o.name = s.name).all fun o =>
      o.backupStorageName = s.backupStorageName) (.scheduleStorageChanged s.name)
    scheduleStorages old rest

/-! ## Restore source -/

/-- The layout of a date to recover to. -/
def dateLayout : String := "2006-01-02T15:04:05Z"

/-- Whether the seconds of a date, which stand at bytes 17 and 18, are at most `59` as texts. -/
def secondsFit (date : List UInt8) : Bool :=
  match Text.slice? 17 19 date with
  | some seconds => !(Text.bytes ['5', '9'] < seconds)
  | none => false

/-- The date to recover to: it has the layout, is no leap second and can be read from the
calendar. -/
def pitrDateBy (reads : List Char → Bool) (date : String) : Verdict := do
  let bytes := Text.bytes date.toList
  require (Text.fitsLayout (Text.bytes dateLayout.toList) bytes) .invalidPitrDate
  -- A reader of dates may take second 60 for second 59.
  require (secondsFit bytes) .invalidPitrDate
  require (reads date.toList) .invalidPitrDate

/-- Whether a text is read as a date with a time of day. -/
def readsCivilTime (text : List Char) : Bool := (CivilTime.parse? text).isSome

/-- The date to recover to. -/
def pitrDate (date : String) : Verdict := pitrDateBy readsCivilTime date

/-- A source names either a backup or a place on a storage, and a date if it names a point in time.
An empty name of a backup is none. -/
def dataSource (d : DataSource) : Verdict := do
  match d.dbClusterBackupName.any (· ≠ ""), d.backupSource with
  | true, some _ | false, none => .error .dataSourceAmbiguous
  | false, some s => require (s.backupStorageName ≠ "" && s.path ≠ "") .incompleteBackupSource
  | true, none => .ok ()
  match d.pitr with
  | none => .ok ()
  | some p =>
    require (p.pitrType = .date) .unsupportedPitrType
    pitrDate (p.date.getD "")

example : pitrDate "2024-02-29T23:59:59Z" = .ok () := by rfl

example : pitrDate "2024-02-29T23:59:60Z" = .error .invalidPitrDate := by rfl

end ClusterAdmission.Rules
