import ClusterAdmission.Policy.Backup
import ClusterAdmission.Proofs.Api.Changes
import ClusterAdmission.Proofs.Policy.Objects

/-!
# What a restore has to fulfil

A restore is admitted exactly if its cluster exists and its source can be used
(`restore_admitted_iff`). The rule for sources takes an empty backup name for an absent one, but the
backup of that name is looked up all the same, so that a restore from a storage with an empty backup
name beside it is refused (`empty_backup_name_refused`).
-/

namespace ClusterAdmission

namespace Policy

open Check (Decides)

variable {view : View} {prober : Prober} {space cluster : String} {r : DatabaseClusterRestore}

/-- A backup exists and is of a cluster. -/
def BackupOf (view : View) (space cluster name : String) : Prop :=
  ∃ b : DatabaseClusterBackup, view (.backup space name) = .ok b ∧ b.spec.dbClusterName = cluster

theorem backupOfCluster_decides (name : Option String) :
    Decides view prober (backupOfCluster space cluster name)
      (∀ n, name = some n → BackupOf view space cluster n)
      (Failure.RejectedFor (name.toList.flatMap fun n =>
        [.backupNotFound n, .backupClusterMismatch n cluster])) := by
  cases name with
  | none => exact .congr (.pass ()) (by simp)
  | some n =>
    unfold backupOfCluster
    refine .congr (.bind_value (.getReferenced (.backup space n) (by simp))
      (fun _ => Check.run_getReferenced_eq_ok) fun b _ =>
        .rule (.require decide_eq_true_iff (by simp))) ?_
    simp [BackupOf]

theorem sourceUsable_decides (source : Option BackupSource) :
    Decides view prober (sourceUsable space source)
      (∀ s, source = some s → ∃ b, StorageUsable view space s.backupStorageName b)
      (Failure.RejectedFor (source.toList.flatMap fun s =>
        [.backupStorageNotFound s.backupStorageName,
          .backupStorageNotAllowed s.backupStorageName space])) := by
  cases source with
  | none => exact .congr (.pass ()) (by simp)
  | some s =>
    unfold sourceUsable
    refine .congr (.bind (usableStorage_decides _ (by simp) (by simp)) fun _ _ => .pass ()) ?_
    simp

/-- The cluster of a restore exists, its source names one origin, and a backup that is named is of
the cluster, or the storage that is named can be used. -/
@[mk_iff]
structure RestoreFits (view : View) (r : DatabaseClusterRestore) : Prop where
  cluster : ∃ c : DatabaseCluster, view (.cluster r.space r.spec.dbClusterName) = .ok c
  source : Rules.SourceFits r.spec.dataSource
  backup (name : String) : r.spec.dataSource.dbClusterBackupName = some name → name ≠ "" →
    BackupOf view r.space r.spec.dbClusterName name
  storage (s : BackupSource) : r.spec.dataSource.backupSource = some s →
    ∃ b, StorageUsable view r.space s.backupStorageName b

/-- The violations for restores. -/
def restoreViolations (r : DatabaseClusterRestore) : List Violation :=
  .clusterNotFound r.spec.dbClusterName ::
    [.dataSourceAmbiguous, .incompleteBackupSource, .unsupportedPitrType, .invalidPitrDate] ++
    (r.spec.dataSource.dbClusterBackupName.toList.flatMap fun n =>
      [.backupNotFound n, .backupClusterMismatch n r.spec.dbClusterName]) ++
    r.spec.dataSource.backupSource.toList.flatMap fun s =>
      [.backupStorageNotFound s.backupStorageName,
        .backupStorageNotAllowed s.backupStorageName r.space]

theorem restoreCreate_decides (r : DatabaseClusterRestore) :
    Decides view prober (restoreCreate r)
      (RestoreFits view r ∧ (r.spec.dataSource.dbClusterBackupName = some "" →
        BackupOf view r.space r.spec.dbClusterName ""))
      (Failure.RejectedFor (restoreViolations r)) := by
  unfold restoreCreate
  refine .congr (.bind (.getReferenced _ ?_) fun _ _ =>
    .bind ((Decides.rule (Rules.dataSource_decides _)).mono fun f hf => hf.mono ?_) fun _ _ =>
    .bind ((backupOfCluster_decides _).mono fun f hf => hf.mono ?_) fun _ _ =>
    (sourceUsable_decides _).mono fun f hf => hf.mono ?_) ?_
  · simp [restoreViolations]
  · intro w hw
    simp only [restoreViolations, List.mem_append, List.mem_cons] at hw ⊢
    tauto
  · exact fun w hw => List.mem_append_left _ (List.mem_append_right _ hw)
  · exact List.subset_append_right _ _
  · rw [restoreFits_iff]
    constructor
    · rintro ⟨hcluster, hsource, hbackup, hstorage⟩
      exact ⟨⟨hcluster, hsource, fun name hname _ => hbackup name hname, hstorage⟩, hbackup ""⟩
    · rintro ⟨⟨hcluster, hsource, hbackup, hstorage⟩, hempty⟩
      refine ⟨hcluster, hsource, fun name hname => ?_, hstorage⟩
      by_cases hne : name = ""
      · rw [hne] at hname ⊢
        exact hempty hname
      · exact hbackup name hname hne

/-- A client does not send a request for a name that is empty. -/
theorem through_backup_empty {σ : Type} (serve : σ → Api.Request → σ × Api.Response) (s : σ)
    (space : String) : View.through serve s (.backup space "") = .error .client := by
  have hunsent : (Api.Request.get
      (Api.resourcePlace .databaseClusterBackup space "")).isSendable = false :=
    Bool.and_false _
  unfold View.through Read.fetch Api.getResource Api.sendFor
  rw [Api.run_send_bind, hunsent]
  rfl

end Policy

/-- A restore is admitted if and only if it fits and a backup is found for its backup name also
where that is empty. The API never has one: a client does not ask for it. -/
theorem restore_admitted_iff (prober : Prober) (r : DatabaseClusterRestore) :
    (∀ view : View, (Policy.restoreCreate r).run view prober = .ok () ↔
      Policy.RestoreFits view r ∧ (r.spec.dataSource.dbClusterBackupName = some "" →
        Policy.BackupOf view r.space r.spec.dbClusterName "")) ∧
    ∀ {σ : Type} (serve : σ → Api.Request → σ × Api.Response) (s : σ),
      (Policy.restoreCreate r).run (View.through serve s) prober = .ok () ↔
        Policy.RestoreFits (View.through serve s) r ∧
          r.spec.dataSource.dbClusterBackupName ≠ some "" := by
  have hexact (view : View) : (Policy.restoreCreate r).run view prober = .ok () ↔
      Policy.RestoreFits view r ∧ (r.spec.dataSource.dbClusterBackupName = some "" →
        Policy.BackupOf view r.space r.spec.dbClusterName "") := by
    rw [← (Policy.restoreCreate_decides r).ok_iff]
    exact ⟨fun h => ⟨(), h⟩, fun ⟨_, h⟩ => h⟩
  refine ⟨hexact, fun serve s => ?_⟩
  have hunknown : ¬ Policy.BackupOf (View.through serve s) r.space r.spec.dbClusterName "" := by
    rintro ⟨b, hb, -⟩
    rw [Policy.through_backup_empty] at hb
    cases hb
  rw [hexact, imp_iff_not hunknown]

namespace Sample

/-- A small cluster. -/
def orders : DatabaseCluster where
  metadata := { name := some "orders", space := some "ns" }
  spec := { engine := { engine := .pxc, storage := { size := "10G" } } }

/-- A storage that every namespace may use. -/
def shared : BackupStorage where
  metadata := { name := some "s3", space := some "ns" }
  spec := { storageType := .s3, bucket := "backups", region := "eu", credentialsSecretName := "s3" }

/-- A platform with the cluster and the storage, on which everything else is missing. -/
def ordersOnly : View
  | .cluster "ns" "orders" => .ok orders
  | .storage "ns" "s3" => .ok shared
  | _ => .error (.notFound "")

/-- The same platform as it is stored. -/
def ordersStore : Store :=
  (SortedMap.empty.insert (Api.createdPlace orders) orders.toJson).insert (Api.createdPlace shared)
    shared.toJson

/-- A restore of the cluster from the storage, with or without a backup name beside it. -/
def restoring (backupName : Option String) : DatabaseClusterRestore where
  metadata := { name := some "back", space := some "ns" }
  spec :=
    { dbClusterName := "orders"
      dataSource :=
        { dbClusterBackupName := backupName
          backupSource := some { backupStorageName := "s3", path := "orders/2024" } } }

/-- Whether the restore with a backup name is admitted. -/
def restored (view : View) (backupName : Option String) : Except Failure Unit :=
  (Policy.restoreCreate (restoring backupName)).run view fun _ => .accepted

theorem ordersOnly_answers (r : Read) :
    (∃ a, ordersOnly r = .ok a) ∨ ordersOnly r = .error (.notFound "") := by
  unfold ordersOnly
  split
  · exact .inl ⟨_, rfl⟩
  · exact .inl ⟨_, rfl⟩
  · exact .inr rfl

theorem restoring_fits : Policy.RestoreFits ordersOnly (restoring (some "")) where
  cluster := ⟨orders, rfl⟩
  source := (Rules.dataSource_decides _).ok_iff.1 rfl
  backup name hname hne := by
    cases hname
    exact absurd rfl hne
  storage s hs := by
    cases hs
    exact ⟨shared, rfl, .inl rfl⟩

end Sample

/-- A restore that fits is admitted without a backup name, and refused with an empty one. The backup
is not found, or the client does not ask the API for it. -/
theorem empty_backup_name_refused :
    (∀ r, (∃ a, Sample.ordersOnly r = .ok a) ∨ Sample.ordersOnly r = .error (.notFound "")) ∧
    Policy.RestoreFits Sample.ordersOnly (Sample.restoring (some "")) ∧
    Sample.restored Sample.ordersOnly none = .ok () ∧
    Sample.restored Sample.ordersOnly (some "") = .error (.rejected (.backupNotFound "")) ∧
    Sample.restored (View.through Api.serve Sample.ordersStore) none = .ok () ∧
    Sample.restored (View.through Api.serve Sample.ordersStore) (some "") = .error .client :=
  ⟨Sample.ordersOnly_answers, Sample.restoring_fits, rfl, rfl, by decide +kernel, by decide +kernel⟩

end ClusterAdmission
