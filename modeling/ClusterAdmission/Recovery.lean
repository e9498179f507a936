import ClusterAdmission.Resource

/-!
# Recovery windows

A cluster can be restored to any instant from its latest successful backup to the last upload of its
log that is certain to be finished.
-/

namespace ClusterAdmission

/-- The instants to which a cluster can be restored. -/
structure RecoveryWindow where
  earliest : Timestamp
  latest : Timestamp
  deriving DecidableEq, Repr

namespace Recovery

/-- Whether `a` was created before `b`; a backup without a time comes before all others. -/
def isCreatedBefore (a b : DatabaseClusterBackup) : Bool :=
  match Resource.created a, Resource.created b with
  | some s, some t => s.nanoseconds < t.nanoseconds
  | none, some _ => true
  | _, none => false

/-- The later of two backups, and the second of two equally late ones. -/
def later (a b : DatabaseClusterBackup) : DatabaseClusterBackup :=
  if isCreatedBefore b a then a else b

/-- The latest of backups, and the last of equally late ones. -/
def latest? : List DatabaseClusterBackup → Option DatabaseClusterBackup
  | [] => none
  | b :: bs => some (bs.foldl later b)

/-- The latest backup in the state by which an engine reports success. -/
def latestSuccessful? (engine : EngineType) (backups : List DatabaseClusterBackup) :
    Option DatabaseClusterBackup :=
  latest? (backups.filter fun b => Resource.backupState b = engine.succeededState)

/-- The last multiple of an engine's upload interval that is not after the second of an instant. -/
def latestRestorable? (engine : EngineType) (now : Timestamp) : Option Timestamp :=
  Timestamp.ofSecond? (now.second - now.second % engine.uploadInterval)

/-- The recovery window of backups, if one of the successful ones is dated. -/
def window? (engine : EngineType) (backups : List DatabaseClusterBackup) (now : Timestamp) :
    Option RecoveryWindow := do
  let backup ← latestSuccessful? engine backups
  let earliest ← Resource.created backup
  let latest ← latestRestorable? engine now
  return { earliest, latest }

example :
    ((Timestamp.parse? "2024-05-01T10:17:42.512Z").bind (latestRestorable? .psmdb)).map
      Timestamp.text = some "2024-05-01T10:10:00Z" := by
  decide +kernel

end Recovery

end ClusterAdmission
