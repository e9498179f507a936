import ClusterAdmission.Resource.Cluster.Codec

/-!
# Backups and restores of clusters
-/

namespace ClusterAdmission

/-- A backup of a cluster onto a storage. -/
structure BackupRequest where
  dbClusterName : String
  backupStorageName : String
  deriving DecidableEq, Inhabited

/-- What the operators report of a backup. -/
structure BackupStatus where
  /-- The name of the state, which differs between engines. -/
  state : String := ""
  created : Option Timestamp := none
  completed : Option Timestamp := none
  destination : Option String := none
  deriving DecidableEq, Inhabited

/-- A restore of an existing cluster. -/
structure RestoreRequest where
  dbClusterName : String
  dataSource : DataSource
  deriving DecidableEq, Inhabited

/-- What the operators report of a restore. -/
structure RestoreStatus where
  state : String := ""
  message : Option String := none
  deriving DecidableEq, Inhabited

namespace BackupRequest

/-- The JSON object of a backup. -/
def toJson (b : BackupRequest) : Json :=
  .ofFields
    [("backupStorageName", some (.str b.backupStorageName)),
      ("dbClusterName", some (.str b.dbClusterName))]

/-- Reads a backup. -/
def ofJson? (j : Json) : Option BackupRequest := do
  let r ← j.record? ["dbClusterName", "backupStorageName"]
  let dbClusterName ← r.required "dbClusterName" Json.string?
  let backupStorageName ← r.required "backupStorageName" Json.string?
  return { dbClusterName, backupStorageName }

end BackupRequest

namespace BackupStatus

/-- The JSON object of a backup status. -/
def toJson (s : BackupStatus) : Json :=
  .ofFields
    [("completed", s.completed.map Timestamp.toJson),
      ("created", s.created.map Timestamp.toJson),
      ("destination", s.destination.map Json.str),
      ("state", some (.str s.state))]

/-- Reads a backup status. -/
def ofJson? (j : Json) : Option BackupStatus := do
  let r ← j.record? ["state", "created", "completed", "destination"]
  let state ← r.withDefault "state" Json.string? ""
  let created ← r.optional "created" Timestamp.ofJson?
  let completed ← r.optional "completed" Timestamp.ofJson?
  let destination ← r.optional "destination" Json.string?
  return { state, created, completed, destination }

end BackupStatus

namespace RestoreRequest

/-- The JSON object of a restore. -/
def toJson (r : RestoreRequest) : Json :=
  .ofFields
    [("dataSource", some r.dataSource.toJson), ("dbClusterName", some (.str r.dbClusterName))]

/-- Reads a restore. -/
def ofJson? (j : Json) : Option RestoreRequest := do
  let r ← j.record? ["dbClusterName", "dataSource"]
  let dbClusterName ← r.required "dbClusterName" Json.string?
  let dataSource ← r.required "dataSource" DataSource.ofJson?
  return { dbClusterName, dataSource }

end RestoreRequest

namespace RestoreStatus

/-- The JSON object of a restore status. -/
def toJson (s : RestoreStatus) : Json :=
  .ofFields [("message", s.message.map Json.str), ("state", some (.str s.state))]

/-- Reads a restore status. -/
def ofJson? (j : Json) : Option RestoreStatus := do
  let r ← j.record? ["state", "message"]
  let state ← r.withDefault "state" Json.string? ""
  let message ← r.optional "message" Json.string?
  return { state, message }

end RestoreStatus

end ClusterAdmission
