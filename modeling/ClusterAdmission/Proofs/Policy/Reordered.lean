import ClusterAdmission.Proofs.Check.Reordered
import ClusterAdmission.Proofs.Policy.Resubmission

/-!
# Admission in any order

The rules on schedules look at all of them: their order decides which violation is named, not
whether one is (`Rules.schedules_perm`, `Rules.scheduleStorages_perm`), and the rules that count
storages do not even see it, since the storages that a list names are the same in any order
(`Rules.namedStorages_perm`). So the outcome of a check depends neither on the order of the
schedules that are submitted nor on that of the lists that the state returns
(`admission_ignores_order`).
-/

namespace ClusterAdmission

/-- A specification with other schedules. -/
def ClusterSpec.withSchedules (c : ClusterSpec) (schedules : List BackupSchedule) : ClusterSpec :=
  { c with backup := { c.backup with schedules } }

/-- A cluster with other schedules. -/
def DatabaseCluster.withSchedules (c : DatabaseCluster) (schedules : List BackupSchedule) :
    DatabaseCluster :=
  { c with spec := c.spec.withSchedules schedules }

/-- Operations on clusters, backups and storages that are the same, but for the order of the
schedules of a submitted cluster. -/
inductive Operation.Reordered : Operation → Operation → Prop
  | createCluster (c : DatabaseCluster) {schedules : List BackupSchedule} :
      c.spec.backup.schedules.Perm schedules →
        Reordered (.createCluster c) (.createCluster (c.withSchedules schedules))
  | updateCluster (c : DatabaseCluster) {schedules : List BackupSchedule} :
      c.spec.backup.schedules.Perm schedules →
        Reordered (.updateCluster c) (.updateCluster (c.withSchedules schedules))
  | createBackup (b : DatabaseClusterBackup) : Reordered (.createBackup b) (.createBackup b)
  | createStorage (r : NewStorage) : Reordered (.createStorage r) (.createStorage r)
  | updateStorage (u : StorageUpdate) : Reordered (.updateStorage u) (.updateStorage u)
  | deleteStorage (space name : String) :
      Reordered (.deleteStorage space name) (.deleteStorage space name)

/-! ## Rules -/

namespace Rules

theorem namedStorages_perm {names names' : List String} (h : names.Perm names') :
    namedStorages names' = namedStorages names :=
  SortedMap.distinct_congr fun _ => (h.filter _).symm.mem_iff

variable {given reordered : List BackupSchedule}

theorem SchedulesFit.perm {seen : List String} (h : given.Perm reordered)
    (hfit : SchedulesFit seen given) : SchedulesFit seen reordered where
  names s hs := hfit.names s (h.mem_iff.2 hs)
  storages s hs := hfit.storages s (h.mem_iff.2 hs)
  fresh s hs := hfit.fresh s (h.mem_iff.2 hs)
  distinct := (h.map _).nodup_iff.1 hfit.distinct

theorem schedules_perm {b : BackupSpec} (h : b.schedules.Perm reordered) :
    schedules { b with schedules := reordered } = .ok () ↔ schedules b = .ok () := by
  have hempty : reordered ≠ [] ↔ b.schedules ≠ [] := by
    rw [← List.length_pos_iff, ← List.length_pos_iff, h.length_eq]
  rw [(schedules_decides _).ok_iff, (schedules_decides b).ok_iff]
  exact and_congr (imp_congr_right fun _ => hempty) ⟨.perm h.symm, .perm h⟩

theorem psmdbStorages_perm (h : given.Perm reordered) (active : Option String) :
    psmdbStorages reordered active = psmdbStorages given active := by
  unfold psmdbStorages
  rw [namedStorages_perm (h.map _)]

theorem pgRepositories_perm {others others' : List String} (h : given.Perm reordered)
    (hothers : others.Perm others') (max : Nat) :
    pgRepositories reordered others' max = pgRepositories given others max := by
  unfold pgRepositories
  rw [h.length_eq, namedStorages_perm ((h.map _).append hothers)]

theorem scheduleStorages_perm (h : given.Perm reordered) (old : List BackupSchedule) :
    scheduleStorages old reordered = .ok () ↔ scheduleStorages old given = .ok () := by
  rw [scheduleStorages_eq_ok, scheduleStorages_eq_ok]
  exact forall_congr' fun s => imp_congr_left h.mem_iff.symm

/-- Which storage has the location may depend on the order, whether one has it does not. -/
theorem isNone_duplicate?_perm {existing existing' : List BackupStorage}
    (h : existing.Perm existing') (s : BackupStorage) :
    (duplicate? s existing').isNone = (duplicate? s existing).isNone := by
  rw [Bool.eq_iff_iff, Option.isNone_iff_eq_none, Option.isNone_iff_eq_none, duplicate?, duplicate?,
    List.find?_eq_none, List.find?_eq_none]
  exact forall_congr' fun t => imp_congr_left h.mem_iff.symm

end Rules

theorem Read.OfObject.step {r : Read} (h : r.OfObject) :
    Check.Step.IsRead (fun r => ¬ r.IsList) (.read r r.missing) := by
  cases r with
  | clusters | storages | backups => exact h.elim
  | _ => exact id

namespace Policy

open Check (concur_bind concur_then concur_ite concur_pure concur_rule concur_rule_self
  concur_require_self concur_mustAccept concur_get concur_of_strict strict_get
  strict_getReferenced)

variable {p : Policies} {view view' : View} {prober : Prober} {space name : String}
  {schedules schedules' : List BackupSchedule}

/-! ## Clusters and backups -/

theorem storageTopology_withSchedules {c : ClusterSpec} (h : c.backup.schedules.Perm schedules)
    (active : Option String) (withSource : Bool) :
    storageTopology space (c.withSchedules schedules) active withSource =
      storageTopology space c active withSource := by
  have hstorages : topologyStorages (c.withSchedules schedules) withSource =
      topologyStorages c withSource :=
    Rules.namedStorages_perm (((h.map _).append_right _).append_right _)
  have hbound : Rules.psmdbStorages (c.withSchedules schedules).backup.schedules active =
      Rules.psmdbStorages c.backup.schedules active :=
    Rules.psmdbStorages_perm h active
  unfold storageTopology
  rw [hstorages, hbound]
  rfl

theorem concur_shardingAndBackups {c : ClusterSpec} (h : c.backup.schedules.Perm schedules)
    (engine : DatabaseEngine) :
    Concur Eq ((shardingAndBackups p c engine).run view prober)
      ((shardingAndBackups p (c.withSchedules schedules) engine).run view' prober) :=
  concur_then (concur_rule_self _) fun _ => concur_then (concur_rule (Rules.schedules_perm h))
    fun _ => concur_rule_self _

variable (hview : view.Reordered view')

include hview

theorem concur_repositoryBudget (h : schedules.Perm schedules') (cluster : String)
    (inFlight : Option String) :
    Concur Eq ((repositoryBudget p space cluster schedules inFlight).run view prober)
      ((repositoryBudget p space cluster schedules' inFlight).run view' prober) := by
  refine concur_bind (concur_get (hview (.backups space cluster))) ?_
  intro backups backups' hbackups
  have hothers : (backups.map (fun b => b.spec.backupStorageName) ++ inFlight.toList).Perm
      (backups'.map (fun b => b.spec.backupStorageName) ++ inFlight.toList) :=
    (hbackups.map _).append_right _
  rw [Rules.pgRepositories_perm h hothers]
  exact concur_rule_self _

theorem concur_storageTopology {c : ClusterSpec} (h : c.backup.schedules.Perm schedules)
    (active : Option String) (withSource : Bool) :
    Concur Eq ((storageTopology space c active withSource).run view prober)
      ((storageTopology space (c.withSchedules schedules) active withSource).run view' prober) := by
  rw [storageTopology_withSchedules h]
  exact concur_of_strict hview (strict_storageTopology fun _ => Read.OfObject.step)

theorem concur_references (c : ClusterSpec) :
    Concur Eq ((references space c).run view prober)
      ((references space (c.withSchedules schedules)).run view' prober) :=
  concur_of_strict hview (strict_references fun _ => Read.OfObject.step)

theorem concur_clusterCreate {c : DatabaseCluster} (h : c.spec.backup.schedules.Perm schedules) :
    Concur Eq ((clusterCreate p c).run view prober)
      ((clusterCreate p (c.withSchedules schedules)).run view' prober) := by
  refine concur_then (concur_rule_self _) fun _ => ?_
  refine concur_then
    (concur_of_strict hview (strict_installedEngine fun _ => Read.OfObject.step)) fun engine => ?_
  refine concur_then (concur_require_self _ _) fun _ => ?_
  refine concur_then (concur_of_strict hview strict_nodesAndProxy) fun _ => ?_
  refine concur_then (concur_shardingAndBackups h engine) fun _ => ?_
  refine concur_then (concur_storageTopology hview h _ _) fun _ => ?_
  refine concur_then (concur_rule_self _) fun _ => ?_
  exact concur_ite
    (concur_then (concur_repositoryBudget hview h _ _) fun _ => concur_references hview c.spec)
    (concur_references hview c.spec)

theorem concur_clusterUpdate {c : DatabaseCluster} (h : c.spec.backup.schedules.Perm schedules) :
    Concur Eq ((clusterUpdate p c).run view prober)
      ((clusterUpdate p (c.withSchedules schedules)).run view' prober) := by
  refine concur_then (concur_of_strict hview (strict_get id)) fun old => ?_
  refine concur_then
    (concur_of_strict hview (strict_installedEngine fun _ => Read.OfObject.step)) fun engine => ?_
  refine concur_then (concur_of_strict hview strict_versionChange) fun _ => ?_
  refine concur_then (concur_of_strict hview strict_nodesAndProxy) fun _ => ?_
  refine concur_then (concur_rule_self _) fun _ => ?_
  refine concur_then (concur_shardingAndBackups h engine) fun _ => ?_
  refine concur_then (concur_storageTopology hview h _ _) fun _ => ?_
  refine concur_ite ?_ (concur_references hview c.spec)
  refine concur_then (concur_rule (Rules.scheduleStorages_perm h _)) fun _ => ?_
  exact concur_then (concur_repositoryBudget hview h _ _) fun _ => concur_references hview c.spec

theorem concur_backupCreate (b : DatabaseClusterBackup) :
    Concur Eq ((backupCreate p b).run view prober) ((backupCreate p b).run view' prober) := by
  refine concur_then (concur_rule_self _) fun _ => ?_
  refine concur_then (concur_of_strict hview (strict_getReferenced id)) fun c => ?_
  refine concur_then
    (concur_of_strict hview (strict_usableStorage fun _ => Read.OfObject.step)) fun _ => ?_
  split
  · exact concur_pure ()
  · split
    · exact concur_pure ()
    · exact concur_require_self _ _
  · exact concur_repositoryBudget hview (.refl _) _ _

/-! ## Storages -/

theorem concur_isStorageUsed :
    Concur Eq ((isStorageUsed space name).run view prober)
      ((isStorageUsed space name).run view' prober) := by
  refine concur_bind (concur_get (hview (.clusters (some space)))) fun clusters clusters' h => ?_
  rw [h.any_eq]
  exact concur_pure _

theorem concur_storageFields (s : BackupStorage) :
    Concur Eq ((storageFields space s).run view prober)
      ((storageFields space s).run view' prober) := by
  refine concur_bind (concur_get (hview (.storages space))) fun existing existing' h => ?_
  rw [Rules.isNone_duplicate?_perm h]
  exact concur_then (concur_require_self _ _) fun _ => concur_rule_self _

omit hview in
theorem concur_acceptedCredentials (s : BackupStorage) (c : StorageCredentials) :
    Concur Eq ((acceptedCredentials s c).run view prober)
      ((acceptedCredentials s c).run view' prober) :=
  concur_then (concur_require_self _ _) fun _ => concur_mustAccept s c

theorem concur_storageCreate (r : NewStorage) :
    Concur Eq ((storageCreate r).run view prober) ((storageCreate r).run view' prober) :=
  concur_then (concur_storageFields hview r.storage) fun _ => concur_acceptedCredentials _ _

theorem concur_changeUnused (field : Option FixedField) :
    Concur Eq ((changeUnused space name field).run view prober)
      ((changeUnused space name field).run view' prober) := by
  cases field with
  | none => exact concur_pure ()
  | some field => exact concur_then (concur_isStorageUsed hview) fun _ => concur_require_self _ _

theorem concur_storageUpdate (u : StorageUpdate) :
    Concur Eq ((storageUpdate u).run view prober) ((storageUpdate u).run view' prober) := by
  refine concur_then (concur_of_strict hview (strict_get id)) fun current => ?_
  refine concur_then (concur_storageFields hview _) fun _ => ?_
  refine concur_then (concur_changeUnused hview _) fun _ => ?_
  exact concur_then (concur_of_strict hview (strict_get id)) fun _ =>
    concur_acceptedCredentials _ _

theorem concur_storageDelete :
    Concur Eq ((storageDelete space name).run view prober)
      ((storageDelete space name).run view' prober) :=
  concur_then (concur_isStorageUsed hview) fun _ => concur_require_self _ _

end Policy

/-- The check of an operation on a cluster, a backup or a storage ends admitted, rejected or failed
whatever the order of the schedules of a submitted cluster is, and whatever the order of the
clusters, storages and backups is that the state returns. -/
theorem admission_ignores_order (p : Policies) (prober : Prober) {op op' : Operation}
    {view view' : View} (hop : op.Reordered op') (hview : view.Reordered view') :
    ∃ check check', op.policy p = some check ∧ op'.policy p = some check' ∧
      Outcome.ofAnswer (check'.run view' prober) = Outcome.ofAnswer (check.run view prober) := by
  cases hop with
  | createCluster c h => exact ⟨_, _, rfl, rfl, (Policy.concur_clusterCreate hview h).outcome⟩
  | updateCluster c h => exact ⟨_, _, rfl, rfl, (Policy.concur_clusterUpdate hview h).outcome⟩
  | createBackup b => exact ⟨_, _, rfl, rfl, (Policy.concur_backupCreate hview b).outcome⟩
  | createStorage r => exact ⟨_, _, rfl, rfl, (Policy.concur_storageCreate hview r).outcome⟩
  | updateStorage u => exact ⟨_, _, rfl, rfl, (Policy.concur_storageUpdate hview u).outcome⟩
  | deleteStorage space name =>
    exact ⟨_, _, rfl, rfl, (Policy.concur_storageDelete hview).outcome⟩

namespace Sample

/-- A platform with the operators, on which every cluster has some backups. -/
def withBackups (backups : List DatabaseClusterBackup) : View
  | .backups .. => .ok backups
  | r => operatorsOnly r

/-- A backup onto a storage. -/
def backupOnto (storage : String) : DatabaseClusterBackup where
  metadata := {}
  spec := { dbClusterName := "orders", backupStorageName := storage }

/-- A cluster with a schedule that has no name and one that has no storage. -/
def incomplete : DatabaseCluster :=
  (small 3 none).withSchedules
    [{ name := "", enabled := true, schedule := "0 0 * * *", backupStorageName := "s3" },
      { name := "weekly", enabled := true, schedule := "0 0 * * 0", backupStorageName := "" }]

end Sample

/-- In another order another schedule is reported, and the cluster is rejected all the same. -/
theorem admission_ignores_order_of_sample :
    let c := Sample.incomplete
    let c' := c.withSchedules c.spec.backup.schedules.reverse
    let view := Sample.withBackups [Sample.backupOnto "s3", Sample.backupOnto "cold"]
    let view' := Sample.withBackups [Sample.backupOnto "cold", Sample.backupOnto "s3"]
    let prober : Prober := fun _ => .accepted
    (Operation.createCluster c).Reordered (.createCluster c') ∧ view.Reordered view' ∧
      (Policy.clusterCreate .default c).run view prober = .error (.rejected .emptyScheduleName) ∧
      (Policy.clusterCreate .default c').run view' prober =
        .error (.rejected (.emptyScheduleStorage "weekly")) ∧
      Outcome.ofAnswer ((Policy.clusterCreate .default c').run view' prober) =
        Outcome.ofAnswer ((Policy.clusterCreate .default c).run view prober) := by
  intro c c' view view' prober
  have hop : (Operation.createCluster c).Reordered (.createCluster c') :=
    .createCluster c (List.reverse_perm _).symm
  have hview : view.Reordered view' := by
    intro r
    cases r with
    | backups => exact .ok (.swap ..)
    | clusters | storages => exact .error _
    | _ => rfl
  refine ⟨hop, hview, by decide +kernel, by decide +kernel, ?_⟩
  obtain ⟨check, check', hcheck, hcheck', houtcome⟩ :=
    admission_ignores_order .default prober hop hview
  cases hcheck
  cases hcheck'
  exact houtcome

end ClusterAdmission
