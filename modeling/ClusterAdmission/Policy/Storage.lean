import ClusterAdmission.Policy
import ClusterAdmission.Request.Payload
import ClusterAdmission.Rules.Storage

/-!
# Policies for storages

No two storages of a namespace point at one location. Credentials are complete, for an update after
it is laid over the stored ones, and a probe accepts them. The bucket and region of a storage in use
are fixed, and it cannot be deleted.
-/

namespace ClusterAdmission.Policy

/-- No other storage of the namespace has the location, and the fields are in order. -/
def storageFields (space : String) (s : BackupStorage) : Check Unit := do
  let existing ← Check.get (.storages space)
  Check.require (Rules.duplicate? s existing).isNone .duplicateBackupStorage
  Check.rule (Rules.storageFields s)

/-- Credentials are complete and accepted by the storage. -/
def acceptedCredentials (s : BackupStorage) (c : StorageCredentials) : Check Unit := do
  Check.require c.isComplete .credentialsRequired
  Check.mustAccept s c

/-- A new storage. -/
def storageCreate (r : NewStorage) : Check Unit := do
  storageFields r.storage.space r.storage
  acceptedCredentials r.storage r.credentials

/-- The field of a storage that an update changes and that is fixed while it is in use. -/
def changedField (old new : BackupStorageSpec) : Option FixedField :=
  if new.bucket ≠ old.bucket then some .bucket
  else if new.region ≠ old.region then some .region
  else none

/-- A fixed field changes only while no cluster uses the storage. -/
def changeUnused (space name : String) : Option FixedField → Check Unit
  | none => pure ()
  | some field => do
    let used ← isStorageUsed space name
    Check.require (!used) (.storageInUse field)

/-- An update of a storage. -/
def storageUpdate (u : StorageUpdate) : Check Unit := do
  let current ← Check.get (.storage u.space u.name)
  let updated := u.apply current
  storageFields u.space updated
  changeUnused u.space u.name (changedField current.spec updated.spec)
  let stored ← Check.get (.secret u.space current.spec.credentialsSecretName)
  acceptedCredentials updated
    (u.applyCredentials (.ofSecret current.spec.storageType stored))

/-- A deletion of a storage. -/
def storageDelete (space name : String) : Check Unit := do
  let used ← isStorageUsed space name
  Check.require (!used) (.storageInUseDelete name)

end ClusterAdmission.Policy
