import ClusterAdmission.Json

/-!
# Backup storages

A storage binds a bucket of S3 or a container of Azure as a destination of backups.
-/

namespace ClusterAdmission

/-- The provider of a storage. -/
inductive StorageType where
  | s3
  | azure
  deriving DecidableEq, Repr, Inhabited

/-- What a storage asks for. -/
structure BackupStorageSpec where
  storageType : StorageType
  bucket : String
  region : String := ""
  /-- The address of a service other than that of the provider. -/
  endpointUrl : String := ""
  description : Option String := none
  /-- The secret that holds the credentials. -/
  credentialsSecretName : String
  /-- The namespaces that may use the storage; none allows all. -/
  allowedNamespaces : List String := []
  verifyTls : Option Bool := none
  forcePathStyle : Option Bool := none
  deriving DecidableEq, Inhabited

/-- The remote location that a storage points at. -/
structure StorageLocation where
  region : String
  bucket : String
  endpointUrl : String
  deriving DecidableEq, Repr

namespace StorageType

/-- The name of a provider. -/
def name : StorageType → String
  | s3 => "s3"
  | azure => "azure"

/-- The providers by name. -/
def table : List (String × StorageType) := [s3, azure].map fun t => (t.name, t)

end StorageType

namespace BackupStorageSpec

/-- The remote location. -/
def location (s : BackupStorageSpec) : StorageLocation :=
  { region := s.region, bucket := s.bucket, endpointUrl := s.endpointUrl }

/-- Whether clusters of a namespace may use the storage. -/
def isAllowedIn (s : BackupStorageSpec) (space : String) : Bool :=
  s.allowedNamespaces.isEmpty || s.allowedNamespaces.contains space

/-- The JSON object of a storage. -/
def toJson (s : BackupStorageSpec) : Json :=
  .ofFields
    [("allowedNamespaces", Json.nonemptyList Json.str s.allowedNamespaces),
      ("bucket", some (.str s.bucket)),
      ("credentialsSecretName", some (.str s.credentialsSecretName)),
      ("description", s.description.map Json.str),
      ("endpointURL", some (.str s.endpointUrl)),
      ("forcePathStyle", s.forcePathStyle.map Json.bool),
      ("region", some (.str s.region)),
      ("type", some (.str s.storageType.name)),
      ("verifyTLS", s.verifyTls.map Json.bool)]

/-- Reads a storage. -/
def ofJson? (j : Json) : Option BackupStorageSpec := do
  let r ← j.record? ["type", "bucket", "region", "endpointURL", "description",
    "credentialsSecretName", "allowedNamespaces", "verifyTLS", "forcePathStyle"]
  let storageType ← r.required "type" (Json.tag? StorageType.table)
  let bucket ← r.required "bucket" Json.string?
  let region ← r.withDefault "region" Json.string? ""
  let endpointUrl ← r.withDefault "endpointURL" Json.string? ""
  let description ← r.optional "description" Json.string?
  let credentialsSecretName ← r.required "credentialsSecretName" Json.string?
  let allowedNamespaces ← r.withDefault "allowedNamespaces" (Json.list? Json.string?) []
  let verifyTls ← r.optional "verifyTLS" Json.bool?
  let forcePathStyle ← r.optional "forcePathStyle" Json.bool?
  return { storageType, bucket, region, endpointUrl, description, credentialsSecretName,
           allowedNamespaces, verifyTls, forcePathStyle }

end BackupStorageSpec

end ClusterAdmission
