import ClusterAdmission.Resource
import ClusterAdmission.Rules

/-!
# Rules for storages

The syntax of a storage, and its remote location, which no other storage of the namespace has.
-/

namespace ClusterAdmission.Rules

/-- Another storage with the location of a candidate. Storages of its own name do not count. -/
def duplicate? (candidate : BackupStorage) (existing : List BackupStorage) :
    Option BackupStorage :=
  existing.find? fun s =>
    s.name ≠ candidate.name && s.spec.location = candidate.spec.location

/-- The name, bucket, region and address of a storage. -/
def storageFields (s : BackupStorage) : Verdict := do
  label s.name
  bucketName s.spec.bucket
  require (!(s.spec.storageType = .s3 && Text.trimmed s.spec.region = "")) .regionRequired
  if s.spec.endpointUrl ≠ "" then url s.spec.endpointUrl

end ClusterAdmission.Rules
