import ClusterAdmission.Error
import ClusterAdmission.Json
import ClusterAdmission.Quantity

/-!
# Settings of the policies

Limits that administrators can change: in a JSON object, or in the environment under names that
start with `DBAAS_POLICY_`. The minimums are kept as written and parsed into floors.
-/

namespace ClusterAdmission

/-- The settings of the policies, with the values that the operators accept. -/
structure PolicyConfig where
  maxClusterNameLength : Nat := 22
  minCpu : String := "600m"
  minMemory : String := "512M"
  minStorage : String := "1G"
  pxcMaxReplicas : Int := 5
  /-- The count of repositories that a PostgreSQL cluster can have. -/
  pgMaxRepositories : Nat := 3
  /-- The oldest operator that can run sharded clusters. -/
  minShardingOperatorVersion : String := "1.17.0"
  probeTimeoutSecs : Nat := 30
  deriving DecidableEq, Inhabited

/-- The minimums in cores and bytes. -/
structure ResourceFloors where
  cpu : Binary64
  memory : Binary64
  storage : Binary64
  deriving DecidableEq, Inhabited

namespace PolicyConfig

/-- The value of a minimum. -/
def floor (field value : String) : Except Failure Binary64 :=
  match Quantity.valueOf? value with
  | some x => .ok x
  | none => .error (.invalidConfig (.notAQuantity field value))

/-- The floors; the first minimum that is no quantity fails. -/
def floors (c : PolicyConfig) : Except Failure ResourceFloors := do
  let cpu ← floor "min_cpu" c.minCpu
  let memory ← floor "min_memory" c.minMemory
  let storage ← floor "min_storage" c.minStorage
  return { cpu, memory, storage }

/-- Reads settings; those left out keep their values. -/
def ofJson? (j : Json) : Option PolicyConfig := do
  let r ← j.record? ["maxClusterNameLength", "minCpu", "minMemory", "minStorage",
    "pxcMaxReplicas", "pgMaxRepositories", "minShardingOperatorVersion", "probeTimeoutSecs"]
  let base : PolicyConfig := {}
  let maxClusterNameLength ←
    r.withDefault "maxClusterNameLength" Json.word? base.maxClusterNameLength
  let minCpu ← r.withDefault "minCpu" Json.string? base.minCpu
  let minMemory ← r.withDefault "minMemory" Json.string? base.minMemory
  let minStorage ← r.withDefault "minStorage" Json.string? base.minStorage
  let pxcMaxReplicas ←
    r.withDefault "pxcMaxReplicas" (Json.intIn? Int32.minValue.toInt Int32.maxValue.toInt)
      base.pxcMaxReplicas
  let pgMaxRepositories ← r.withDefault "pgMaxRepositories" Json.word? base.pgMaxRepositories
  let minShardingOperatorVersion ←
    r.withDefault "minShardingOperatorVersion" Json.string? base.minShardingOperatorVersion
  let probeTimeoutSecs ← r.withDefault "probeTimeoutSecs" Json.word? base.probeTimeoutSecs
  return { maxClusterNameLength, minCpu, minMemory, minStorage, pxcMaxReplicas,
           pgMaxRepositories, minShardingOperatorVersion, probeTimeoutSecs }

/-- A number of the environment, of which blanks at the ends do not count; the old value where
there is none. -/
def numberSetting {α : Type} (env : SortedMap String String) (key : String)
    (parse : List Char → Option α) (old : α) : Except Failure α :=
  match env.get? key with
  | none => .ok old
  | some value =>
    match parse (Text.trim value.toList) with
    | some n => .ok n
    | none => .error (.invalidConfig (.notANumber key value))

/-- A number below `2^64`. -/
def word (cs : List Char) : Option Nat := Text.naturalUpTo? (UInt64.size - 1) cs

/-- The settings of an environment, whose names are given without their common start. The first
setting that is no number fails, and the floors after them. -/
def ofEnvironment (env : SortedMap String String) : Except Failure PolicyConfig := do
  let base : PolicyConfig := {}
  let text (key : String) (old : String) := (env.get? key).getD old
  let maxClusterNameLength ←
    numberSetting env "MAX_CLUSTER_NAME_LENGTH" word base.maxClusterNameLength
  let pxcMaxReplicas ←
    numberSetting env "PXC_MAX_REPLICAS" (Text.integerIn? Int32.minValue.toInt Int32.maxValue.toInt)
      base.pxcMaxReplicas
  let pgMaxRepositories ← numberSetting env "PG_MAX_REPOSITORIES" word base.pgMaxRepositories
  let probeTimeoutSecs ← numberSetting env "PROBE_TIMEOUT_SECS" word base.probeTimeoutSecs
  let config : PolicyConfig :=
    { maxClusterNameLength, pxcMaxReplicas, pgMaxRepositories, probeTimeoutSecs
      minCpu := text "MIN_CPU" base.minCpu
      minMemory := text "MIN_MEMORY" base.minMemory
      minStorage := text "MIN_STORAGE" base.minStorage
      minShardingOperatorVersion :=
        text "MIN_SHARDING_OPERATOR_VERSION" base.minShardingOperatorVersion }
  let _ ← config.floors
  return config

example : (floors {}).toOption =
    some ⟨.ofDecimal false 6 (-1), .ofInt 512000000, .ofInt 1000000000⟩ := by
  decide +kernel

end PolicyConfig

end ClusterAdmission
