import ClusterAdmission.Proofs.Json.Record
import ClusterAdmission.Resource.Cluster.Codec

/-!
# What a cluster asks for is read back

Encoding a part of a cluster and reading it again changes nothing, from the names of the
enumerations up to the whole specification (`ClusterSpec.ofJson?_toJson`); the same goes for what
operators report (`ClusterStatus.codes`).
-/

namespace ClusterAdmission

open Json (Codes)

attribute [simp] EngineType.ofJson?_toJson ProxyType.ofJson?_toJson

@[simp] theorem ProxyType.codes : Codes toJson ofJson? := ⟨ofJson?_toJson, by simp [toJson]⟩

@[simp] theorem ExposeType.tag?_name (e : ExposeType) :
    Json.tag? table (.str e.name) = some e := by
  cases e <;> decide

@[simp] theorem PitrType.tag?_name (t : PitrType) : Json.tag? table (.str t.name) = some t := by
  cases t <;> decide

/-! ## Engine and proxy -/

@[simp] theorem VolumeSpec.ofJson?_toJson (v : VolumeSpec) : ofJson? v.toJson = some v := by
  simp [ofJson?, toJson]

@[simp] theorem ComputeSpec.ofJson?_toJson (c : ComputeSpec) : ofJson? c.toJson = some c := by
  simp [ofJson?, toJson]

@[simp] theorem EngineSpec.ofJson?_toJson (e : EngineSpec) : ofJson? e.toJson = some e := by
  simp [ofJson?, toJson]

@[simp] theorem ExposeSpec.ofJson?_toJson (e : ExposeSpec) : ofJson? e.toJson = some e := by
  simp [ofJson?, toJson]

@[simp] theorem ProxySpec.ofJson?_toJson (p : ProxySpec) : ofJson? p.toJson = some p := by
  simp [ofJson?, toJson]

/-! ## Backups and the restore source -/

@[simp] theorem BackupSchedule.codes : Codes toJson ofJson? where
  read s := by simp [ofJson?, toJson]
  ne_null s := by simp [toJson, Json.ofFields]

@[simp] theorem PitrSpec.ofJson?_toJson (p : PitrSpec) : ofJson? p.toJson = some p := by
  simp [ofJson?, toJson]

@[simp] theorem BackupSpec.ofJson?_toJson (b : BackupSpec) : ofJson? b.toJson = some b := by
  simp [ofJson?, toJson]

@[simp] theorem BackupSource.codes : Codes toJson ofJson? where
  read b := by simp [ofJson?, toJson]
  ne_null b := by simp [toJson, Json.ofFields]

@[simp] theorem PitrSelector.codes : Codes toJson ofJson? where
  read p := by simp [ofJson?, toJson]
  ne_null p := by simp [toJson, Json.ofFields]

@[simp] theorem DataSource.codes : Codes toJson ofJson? where
  read d := by simp [ofJson?, toJson]
  ne_null d := by simp [toJson, Json.ofFields]

/-! ## Sharding, monitoring and features -/

@[simp] theorem ConfigServerSpec.ofJson?_toJson (c : ConfigServerSpec) :
    ofJson? c.toJson = some c := by
  simp [ofJson?, toJson]

@[simp] theorem ShardingSpec.codes : Codes toJson ofJson? where
  read s := by simp [ofJson?, toJson]
  ne_null s := by simp [toJson, Json.ofFields]

@[simp] theorem MonitoringSpec.codes : Codes toJson ofJson? where
  read m := by simp [ofJson?, toJson]
  ne_null m := by simp [toJson, Json.ofFields]

@[simp] theorem PsmdbFeatures.codes : Codes toJson ofJson? where
  read f := by simp [ofJson?, toJson]
  ne_null f := by simp [toJson, Json.ofFields]

@[simp] theorem EngineFeatures.codes : Codes toJson ofJson? where
  read f := by simp [ofJson?, toJson]
  ne_null f := by simp [toJson, Json.ofFields]

/-- What a cluster asks for is read back as it was. -/
theorem ClusterSpec.ofJson?_toJson (c : ClusterSpec) : ofJson? c.toJson = some c := by
  simp [ofJson?, toJson]

/-! ## The status -/

@[simp] theorem RunState.tag?_name (r : RunState) : Json.tag? table (.str r.name) = some r := by
  cases r <;> decide

@[simp] theorem ClusterStatus.codes : Codes toJson ofJson? where
  read s := by simp [ofJson?, toJson]
  ne_null s := by simp [toJson, Json.ofFields]

end ClusterAdmission
