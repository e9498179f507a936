import ClusterAdmission.Proofs.Resource.MetadataCodec

/-!
# Resources are read back

Every resource of every kind is read back from its encoding with its instants cut to the whole
second (`Resource.ofJson?_toJson`), which its encoding does not show (`Resource.toJson_cut`). So
encoding loses nothing of a resource without fractions of a second, and decoding and encoding once
more changes nothing in an encoding (`Resource.round_trip`).
-/

namespace ClusterAdmission

open Json (Codes)

/-! ## What operators report -/

@[simp] theorem ComponentStatus.tag?_name (s : ComponentStatus) :
    Json.tag? table (.str s.name) = some s := by
  cases s <;> decide

@[simp] theorem EngineState.tag?_name (s : EngineState) :
    Json.tag? table (.str s.name) = some s := by
  cases s <;> decide

@[simp] theorem Component.codes : Codes toJson ofJson? where
  read c := by simp [ofJson?, toJson]
  ne_null c := by simp [toJson, Json.ofFields]

@[simp] theorem Versions.codes : Codes toJson ofJson? where
  read v := by simp [ofJson?, toJson]
  ne_null v := by simp [toJson, Json.ofFields]

@[simp] theorem DatabaseEngineStatus.codes : Codes toJson ofJson? where
  read s := by simp [ofJson?, toJson, Versions.codes.read]
  ne_null s := by simp [toJson, Json.ofFields]

@[simp] theorem RestoreStatus.codes : Codes toJson ofJson? where
  read s := by simp [ofJson?, toJson]
  ne_null s := by simp [toJson, Json.ofFields]

namespace BackupStatus

/-- The status with its instants cut to the whole second. -/
def cut (s : BackupStatus) : BackupStatus :=
  { s with created := s.created.map .cut, completed := s.completed.map .cut }

theorem ofJson?_toJson (s : BackupStatus) : ofJson? s.toJson = some s.cut := by
  simp [ofJson?, toJson, cut]

@[simp] theorem readOptional_toJson (s : Option BackupStatus) :
    Json.Record.readOptional ofJson? (s.map toJson) = some (s.map cut) :=
  Json.Record.readOptional_map_of_read ofJson?_toJson (by simp [toJson, Json.ofFields]) s

end BackupStatus

namespace Kind

/-- A status with its instants cut to the whole second. -/
def cutStatus : (k : Kind) → k.Status → k.Status
  | .databaseCluster | .databaseEngine | .databaseClusterRestore => id
  | .databaseClusterBackup => BackupStatus.cut
  | .backupStorage | .monitoringConfig | .podSchedulingPolicy | .loadBalancerConfig
  | .splitHorizonDnsConfig => id

/-- What of a status is read back. -/
theorem status?_statusJson (k : Kind) (s : Option k.Status) {fields : Json.Record}
    (hget : fields.get? "status" = s.map k.statusJson) :
    k.status? fields = some (s.map k.cutStatus) := by
  cases k with
  | databaseCluster => simp [status?, statusJson, cutStatus, hget]
  | databaseEngine => simp [status?, statusJson, cutStatus, hget]
  | databaseClusterBackup => simp [status?, statusJson, cutStatus, hget]
  | databaseClusterRestore => simp [status?, statusJson, cutStatus, hget]
  | backupStorage | monitoringConfig | podSchedulingPolicy | loadBalancerConfig
  | splitHorizonDnsConfig =>
    cases s with
    | none => rfl
    | some status => exact status.elim

end Kind

/-! ## Whole seconds -/

namespace Timestamp

/-- Whether an instant has no fraction of a second. -/
def IsWhole (t : Timestamp) : Prop := t.nanoseconds % perSecond = 0

instance (t : Timestamp) : Decidable t.IsWhole := inferInstanceAs (Decidable (_ = _))

theorem cut_eq_self {t : Timestamp} (h : t.IsWhole) : t.cut = t := by
  obtain ⟨n, hmin, hmax⟩ := t
  simp only [cut, floorSecond, mk.injEq]
  exact Int.ediv_mul_cancel (Int.dvd_of_emod_eq_zero h)

theorem wholeText_cut (t : Timestamp) : t.cut.wholeText = t.wholeText := by
  have hsecond : t.cut.floorSecond = t.floorSecond :=
    Int.mul_ediv_cancel _ (by decide)
  rw [wholeText, wholeText, hsecond]

@[simp] theorem toJson_comp_cut : toJson ∘ cut = toJson :=
  funext fun t => congrArg Json.str t.wholeText_cut

theorem map_cut_eq_self {t : Option Timestamp} (h : ∀ a ∈ t, a.IsWhole) : t.map cut = t := by
  cases t with
  | none => rfl
  | some a => rw [Option.map_some, cut_eq_self (h a rfl)]

end Timestamp

namespace ManagedFields

@[simp] theorem toJson_comp_cut : toJson ∘ cut = toJson := by
  funext e
  simp [toJson, cut]

theorem cut_eq_self {e : ManagedFields} (h : ∀ t ∈ e.time, t.IsWhole) : e.cut = e := by
  rw [cut, Timestamp.map_cut_eq_self h]

end ManagedFields

namespace Metadata

/-- The instants of metadata. -/
def instants (m : Metadata) : List Timestamp :=
  m.creationTimestamp.toList ++ m.deletionTimestamp.toList ++
    (m.managedFields.getD []).filterMap ManagedFields.time

theorem toJson_cut (m : Metadata) : m.cut.toJson = m.toJson := by
  have hentries : Json.ofList ManagedFields.toJson ∘ List.map ManagedFields.cut =
      Json.ofList ManagedFields.toJson := by
    funext es
    simp [Json.ofList]
  simp [toJson, cut, hentries]

theorem cut_eq_self {m : Metadata} (h : ∀ t ∈ m.instants, t.IsWhole) : m.cut = m := by
  have hcreated : m.creationTimestamp.map .cut = m.creationTimestamp :=
    Timestamp.map_cut_eq_self fun t ht => h t (by simp_all [instants])
  have hdeleted : m.deletionTimestamp.map .cut = m.deletionTimestamp :=
    Timestamp.map_cut_eq_self fun t ht => h t (by simp_all [instants])
  have hmanaged : m.managedFields.map (List.map .cut) = m.managedFields := by
    cases hentries : m.managedFields with
    | none => rfl
    | some es =>
      have hentry : ∀ e ∈ es, e.cut = e := fun e he =>
        ManagedFields.cut_eq_self fun t ht => h t <| by
          have hmem : t ∈ es.filterMap ManagedFields.time := List.mem_filterMap.2 ⟨e, he, ht⟩
          simp [instants, hentries, hmem]
      rw [Option.map_some, List.map_congr_left hentry, List.map_id']
  rw [cut, hcreated, hdeleted, hmanaged]

end Metadata

namespace BackupStatus

theorem toJson_cut (s : BackupStatus) : s.cut.toJson = s.toJson := by
  simp [toJson, cut]

end BackupStatus

namespace Kind

/-- The instants of a status. -/
def statusInstants : (k : Kind) → k.Status → List Timestamp
  | .databaseCluster | .databaseEngine | .databaseClusterRestore => fun _ => []
  | .databaseClusterBackup => fun s => s.created.toList ++ s.completed.toList
  | .backupStorage | .monitoringConfig | .podSchedulingPolicy | .loadBalancerConfig
  | .splitHorizonDnsConfig => fun _ => []

theorem statusJson_cutStatus (k : Kind) (s : k.Status) :
    k.statusJson (k.cutStatus s) = k.statusJson s := by
  cases k with
  | databaseClusterBackup => exact BackupStatus.toJson_cut s
  | _ => rfl

theorem cutStatus_eq_self (k : Kind) {s : k.Status} (h : ∀ t ∈ k.statusInstants s, t.IsWhole) :
    k.cutStatus s = s := by
  cases k with
  | databaseClusterBackup =>
    have hcreated : s.created.map .cut = s.created :=
      Timestamp.map_cut_eq_self fun t ht => h t (by simp_all [statusInstants])
    have hcompleted : s.completed.map .cut = s.completed :=
      Timestamp.map_cut_eq_self fun t ht => h t (by simp_all [statusInstants])
    rw [cutStatus, BackupStatus.cut, hcreated, hcompleted]
  | _ => rfl

end Kind

/-! ## Every kind -/

namespace Resource

variable {k : Kind}

/-- The instants of a resource. -/
def instants (r : Resource k) : List Timestamp :=
  r.metadata.instants ++ r.status.toList.flatMap k.statusInstants

/-- A resource with its instants cut to the whole second. -/
def cut (r : Resource k) : Resource k :=
  { r with metadata := r.metadata.cut, status := r.status.map k.cutStatus }

/-- Every resource is read back with its instants cut. -/
theorem ofJson?_toJson (r : Resource k) : ofJson? k r.toJson = some r.cut := by
  simp [ofJson?, toJson, cut, Kind.spec?_specJson, k.status?_statusJson r.status]

/-- A cluster is read back with its metadata cut. -/
theorem ofJson?_toJson_cluster (c : DatabaseCluster) :
    ofJson? .databaseCluster c.toJson = some { c with metadata := c.metadata.cut } := by
  rw [ofJson?_toJson, cut, Kind.cutStatus, Option.map_id]
  rfl

theorem toJson_cut (r : Resource k) : r.cut.toJson = r.toJson := by
  have hstatus : k.statusJson ∘ k.cutStatus = k.statusJson :=
    funext fun s => k.statusJson_cutStatus s
  simp [toJson, cut, Metadata.toJson_cut, hstatus]

theorem cut_eq_self {r : Resource k} (h : ∀ t ∈ r.instants, t.IsWhole) : r.cut = r := by
  have hmetadata : r.metadata.cut = r.metadata :=
    Metadata.cut_eq_self fun t ht => h t (List.mem_append_left _ ht)
  have hstatus : r.status.map k.cutStatus = r.status := by
    cases hreported : r.status with
    | none => rfl
    | some s =>
      have hinstants : ∀ t ∈ k.statusInstants s, t.IsWhole := fun t ht =>
        h t (List.mem_append_right _ (by simpa [hreported] using ht))
      rw [Option.map_some, k.cutStatus_eq_self hinstants]
  rw [cut, hmetadata, hstatus]

/-- Every resource whose instants are whole seconds is read back from its encoding, and decoding
the encoding of what an object holds and encoding it again gives the same object. -/
theorem round_trip (k : Kind) :
    (∀ r : Resource k, (∀ t ∈ r.instants, t.IsWhole) → ofJson? k r.toJson = some r) ∧
      ∀ (j : Json) (r : Resource k), ofJson? k j = some r →
        ∃ r', ofJson? k r.toJson = some r' ∧ r'.toJson = r.toJson := by
  refine ⟨fun r hwhole => ?_, fun j r _ => ⟨r.cut, ofJson?_toJson r, toJson_cut r⟩⟩
  rw [ofJson?_toJson, cut_eq_self hwhole]

namespace Sample

/-- A backup that is done, with an owner and its instants on whole seconds. -/
def finished : DatabaseClusterBackup where
  metadata :=
    { name := some "orders-nightly", space := some "team-a"
      creationTimestamp := Timestamp.ofSecond? 1714564800
      ownerReferences := some
        [{ apiVersion := Kind.apiVersion, controller := some true, kind := "DatabaseCluster"
           name := "orders", uid := "7f3c" }] }
  spec := { dbClusterName := "orders", backupStorageName := "s3-main" }
  status := some
    { state := "Succeeded", created := Timestamp.ofSecond? 1714564803
      completed := Timestamp.ofSecond? 1714564921 }

/-- The object of a backup that was created within a second. -/
def withinSecond : Json :=
  .obj
    [("metadata", .obj [("name", .str "orders-nightly")]),
      ("spec", .obj [("backupStorageName", .str "s3-main"), ("dbClusterName", .str "orders")]),
      ("status", .obj [("created", .str "2024-05-01T12:00:03.25+02:00")])]

end Sample

theorem round_trip_of_sample :
    (∀ t ∈ Sample.finished.instants, t.IsWhole) ∧
      ofJson? .databaseClusterBackup Sample.finished.toJson = some Sample.finished ∧
      ∃ r, ofJson? .databaseClusterBackup Sample.withinSecond = some r ∧
        ∃ r', ofJson? .databaseClusterBackup r.toJson = some r' ∧ r'.toJson = r.toJson := by
  have hwhole : ∀ t ∈ Sample.finished.instants, t.IsWhole := by decide +kernel
  have hreads : (ofJson? .databaseClusterBackup Sample.withinSecond).isSome := by decide +kernel
  obtain ⟨r, hr⟩ := Option.isSome_iff_exists.1 hreads
  obtain ⟨hvalue, hobject⟩ := round_trip .databaseClusterBackup
  exact ⟨hwhole, hvalue _ hwhole, r, hr, hobject _ r hr⟩

end Resource

end ClusterAdmission
