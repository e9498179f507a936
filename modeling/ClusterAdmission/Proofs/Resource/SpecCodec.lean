import ClusterAdmission.Proofs.Resource.ClusterCodec
import ClusterAdmission.Resource

/-!
# What a resource asks for is read back

For each kind, encoding a specification and reading it again changes nothing
(`Kind.spec?_specJson`). What an object asks for (`Resource.specIn?`) is thus known when a resource
is written (`Resource.specIn?_toJson`) and when one is read (`Resource.specIn?_of_ofJson?`).
Metadata may differ between the two: instants are cut to whole seconds.
-/

namespace ClusterAdmission

open Json (Codes)

/-! ## Storages and monitoring instances -/

@[simp] theorem StorageType.tag?_name (t : StorageType) :
    Json.tag? table (.str t.name) = some t := by
  cases t <;> decide

theorem BackupStorageSpec.ofJson?_toJson (s : BackupStorageSpec) : ofJson? s.toJson = some s := by
  simp [ofJson?, toJson]

@[simp] theorem MonitoringType.tag?_name (t : MonitoringType) :
    Json.tag? table (.str t.name) = some t := by
  cases t; decide

@[simp] theorem PmmSpec.ofJson?_toJson (p : PmmSpec) : ofJson? p.toJson = some p := by
  simp [ofJson?, toJson]

theorem MonitoringConfigSpec.ofJson?_toJson (m : MonitoringConfigSpec) :
    ofJson? m.toJson = some m := by
  simp [ofJson?, toJson]

/-! ## Scheduling policies -/

@[simp] theorem Requirement.codes : Codes toJson ofJson? where
  read a := by simp [ofJson?, toJson]
  ne_null a := by simp [toJson, Json.ofFields]

@[simp] theorem LabelSelector.codes : Codes toJson ofJson? where
  read a := by simp [ofJson?, toJson]
  ne_null a := by simp [toJson, Json.ofFields]

@[simp] theorem NodeTerm.codes : Codes toJson ofJson? where
  read a := by simp [ofJson?, toJson]
  ne_null a := by simp [toJson, Json.ofFields]

@[simp] theorem WeightedNodeTerm.codes : Codes toJson ofJson? where
  read a := by simp [ofJson?, toJson]
  ne_null a := by simp [toJson, Json.ofFields]

@[simp] theorem NodeSelector.codes : Codes toJson ofJson? where
  read a := by simp [ofJson?, toJson]
  ne_null a := by simp [toJson, Json.ofFields]

@[simp] theorem NodeAffinity.codes : Codes toJson ofJson? where
  read a := by simp [ofJson?, toJson]
  ne_null a := by simp [toJson, Json.ofFields]

@[simp] theorem PodTerm.codes : Codes toJson ofJson? where
  read a := by simp [ofJson?, toJson]
  ne_null a := by simp [toJson, Json.ofFields]

@[simp] theorem WeightedPodTerm.codes : Codes toJson ofJson? where
  read a := by simp [ofJson?, toJson]
  ne_null a := by simp [toJson, Json.ofFields]

@[simp] theorem PodRules.codes : Codes toJson ofJson? where
  read a := by simp [ofJson?, toJson]
  ne_null a := by simp [toJson, Json.ofFields]

@[simp] theorem Affinity.codes : Codes toJson ofJson? where
  read a := by simp [ofJson?, toJson]
  ne_null a := by simp [toJson, Json.ofFields]

@[simp] theorem PodAffinity.codes : Codes toJson ofJson? where
  read p := by simp [ofJson?, toJson]
  ne_null p := by simp [toJson, Json.ofFields]

@[simp] theorem PsmdbAffinity.codes : Codes toJson ofJson? where
  read p := by simp [ofJson?, toJson]
  ne_null p := by simp [toJson, Json.ofFields]

@[simp] theorem AffinityConfig.codes : Codes toJson ofJson? where
  read a := by simp [ofJson?, toJson]
  ne_null a := by simp [toJson, Json.ofFields]

theorem PodSchedulingPolicySpec.ofJson?_toJson (p : PodSchedulingPolicySpec) :
    ofJson? p.toJson = some p := by
  simp [ofJson?, toJson]

/-! ## Engines, backups and restores -/

theorem DatabaseEngineSpec.ofJson?_toJson (s : DatabaseEngineSpec) :
    ofJson? s.toJson = some s := by
  simp [ofJson?, toJson]

theorem BackupRequest.ofJson?_toJson (b : BackupRequest) : ofJson? b.toJson = some b := by
  simp [ofJson?, toJson]

theorem RestoreRequest.ofJson?_toJson (r : RestoreRequest) : ofJson? r.toJson = some r := by
  simp [ofJson?, toJson, DataSource.codes.read]

/-! ## Load balancers and split-horizon DNS -/

theorem LoadBalancerConfigSpec.ofJson?_toJson (c : LoadBalancerConfigSpec) :
    ofJson? c.toJson = some c := by
  simp [ofJson?, toJson]

@[simp] theorem SplitHorizonTls.ofJson?_toJson (t : SplitHorizonTls) :
    ofJson? t.toJson = some t := by
  simp [ofJson?, toJson]

theorem SplitHorizonDnsConfigSpec.ofJson?_toJson (c : SplitHorizonDnsConfigSpec) :
    ofJson? c.toJson = some c := by
  simp [ofJson?, toJson]

/-! ## Every kind -/

/-- What a resource of any kind asks for is read back as it was. -/
theorem Kind.spec?_specJson (k : Kind) (s : k.Spec) : k.spec? (k.specJson s) = some s := by
  cases k with
  | databaseCluster => exact ClusterSpec.ofJson?_toJson s
  | databaseEngine => exact DatabaseEngineSpec.ofJson?_toJson s
  | databaseClusterBackup => exact BackupRequest.ofJson?_toJson s
  | databaseClusterRestore => exact RestoreRequest.ofJson?_toJson s
  | backupStorage => exact BackupStorageSpec.ofJson?_toJson s
  | monitoringConfig => exact MonitoringConfigSpec.ofJson?_toJson s
  | podSchedulingPolicy => exact PodSchedulingPolicySpec.ofJson?_toJson s
  | loadBalancerConfig => exact LoadBalancerConfigSpec.ofJson?_toJson s
  | splitHorizonDnsConfig => exact SplitHorizonDnsConfigSpec.ofJson?_toJson s

namespace Resource

variable {k : Kind}

/-- What an object asks for when it is read as a resource of a kind. -/
def specIn? (k : Kind) (j : Json) : Option k.Spec := do
  let r ← j.record? ["metadata", "spec", "status"]
  r.required "spec" k.spec?

/-- An encoded resource asks for what it asked for. -/
theorem specIn?_toJson (r : Resource k) : specIn? k r.toJson = some r.spec := by
  simp [specIn?, toJson, Kind.spec?_specJson]

/-- Every resource that is read asks for what its object does. -/
theorem specIn?_of_ofJson? {j : Json} {r : Resource k} (h : ofJson? k j = some r) :
    specIn? k j = some r.spec := by
  simp only [ofJson?, Option.bind_eq_bind, Option.bind_eq_some_iff] at h
  obtain ⟨record, hrecord, metadata, -, spec, hspec, status, -, hread⟩ := h
  cases hread
  simp only [specIn?, hrecord, Option.bind_eq_bind, Option.bind_some]
  exact hspec

end Resource

end ClusterAdmission
