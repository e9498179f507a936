import ClusterAdmission.Policy.Cluster

/-!
# Policies for backups and restores on demand
-/

namespace ClusterAdmission.Policy

/-- A new backup: its cluster and storage exist, and the storage fits what binds the cluster. -/
def backupCreate (p : Policies) (b : DatabaseClusterBackup) : Check Unit := do
  let cluster := b.spec.dbClusterName
  let storage := b.spec.backupStorageName
  Check.rule (Rules.label b.name)
  let c ← Check.getReferenced (.cluster b.space cluster) (.clusterNotFound cluster)
  let _ ← usableStorage b.space storage
  match c.spec.engine.engine with
  | .pxc => pure ()
  | .psmdb =>
    match Resource.activeStorage c with
    | none => pure ()
    | some active => Check.require (active = storage) (.activeStorageMismatch active)
  | .postgresql => repositoryBudget p b.space cluster c.spec.backup.schedules (some storage)

/-- A backup that a restore names, if it names one, is of the restored cluster. -/
def backupOfCluster (space cluster : String) : Option String → Check Unit
  | none => pure ()
  | some name => do
    let b ← Check.getReferenced (.backup space name) (.backupNotFound name)
    Check.require (b.spec.dbClusterName = cluster) (.backupClusterMismatch name cluster)

/-- A storage that a restore names, if it names one, is usable. -/
def sourceUsable (space : String) : Option BackupSource → Check Unit
  | none => pure ()
  | some source => do
    let _ ← usableStorage space source.backupStorageName
    return ()

/-- A restore: its cluster exists, and its source is a usable backup. -/
def restoreCreate (r : DatabaseClusterRestore) : Check Unit := do
  let cluster := r.spec.dbClusterName
  let source := r.spec.dataSource
  let _ ← Check.getReferenced (.cluster r.space cluster) (.clusterNotFound cluster)
  Check.rule (Rules.dataSource source)
  backupOfCluster r.space cluster source.dbClusterBackupName
  sourceUsable r.space source.backupSource

end ClusterAdmission.Policy
