import ClusterAdmission.Binary64.Shortest
import ClusterAdmission.Request.Payload
import ClusterAdmission.Text.Outline

/-!
# Payloads in logs

The text under which credentials and payloads appear in logs. Credentials show a placeholder in
place of keys and passwords.
-/

namespace ClusterAdmission

open Text (Outline)

namespace LogText

/-- What stands in place of a secret value. -/
def redacted : Outline := .text "<redacted>"

/-- An optional text. -/
def optionalText (s : Option String) : Outline := .ofOption .text s

/-- An optional truth value. -/
def optionalBool (b : Option Bool) : Outline := .ofOption .ofBool b

/-- A list of texts. -/
def texts (xs : List String) : Outline := .list (xs.map .text)

/-- A map of texts. -/
def textMap (m : SortedMap String String) : Outline :=
  .map (m.entries.map fun e => (e.1, .text e.2))

mutual

/-- A JSON value. -/
def json : Json → Outline
  | .null => .word "Null"
  | .bool b => .word ("Bool(" ++ (if b then "true" else "false") ++ ")")
  | .int n => .word ("Number(" ++ toString n ++ ")")
  | .real x => .word ("Number(" ++ x.text ++ ")")
  | .str s => .word ("String(" ++ Text.outlineText s ++ ")")
  | .arr xs => .word ("Array " ++ (Outline.list (jsonElements xs)).render)
  | .obj ms => .word ("Object " ++ (Outline.map (jsonMembers ms)).render)

/-- The elements of a JSON array. -/
def jsonElements : List Json → List Outline
  | [] => []
  | x :: xs => json x :: jsonElements xs

/-- The members of a JSON object. -/
def jsonMembers : List (String × Json) → List (String × Outline)
  | [] => []
  | (key, x) :: ms => (key, json x) :: jsonMembers ms

end

/-- An integer. -/
def integer (n : Int64) : Outline := .word (toString n.toInt)

/-- An instant. -/
def time (t : Timestamp) : Outline := .word ("Time(" ++ t.text ++ ")")

/-- A record of what one writer looks after. -/
def managedFields (e : ManagedFields) : Outline :=
  .record "ManagedFieldsEntry"
    [("api_version", optionalText e.apiVersion),
      ("fields_type", optionalText e.fieldsType),
      ("fields_v1",
        .ofOption (fun f => .word ("FieldsV1(" ++ (json f.json).render ++ ")")) e.fields),
      ("manager", optionalText e.manager),
      ("operation", optionalText e.operation),
      ("subresource", optionalText e.subresource),
      ("time", .ofOption time e.time)]

/-- An owner. -/
def ownerReference (o : OwnerReference) : Outline :=
  .record "OwnerReference"
    [("api_version", .text o.apiVersion),
      ("block_owner_deletion", optionalBool o.blockOwnerDeletion),
      ("controller", optionalBool o.controller),
      ("kind", .text o.kind),
      ("name", .text o.name),
      ("uid", .text o.uid)]

/-- Metadata. -/
def metadata (m : Metadata) : Outline :=
  .record "ObjectMeta"
    [("annotations", .ofOption textMap m.annotations),
      ("creation_timestamp", .ofOption time m.creationTimestamp),
      ("deletion_grace_period_seconds", .ofOption integer m.deletionGracePeriodSeconds),
      ("deletion_timestamp", .ofOption time m.deletionTimestamp),
      ("finalizers", .ofOption texts m.finalizers),
      ("generate_name", optionalText m.generateName),
      ("generation", .ofOption integer m.generation),
      ("labels", .ofOption textMap m.labels),
      ("managed_fields", .ofOption (fun es => .list (es.map managedFields)) m.managedFields),
      ("name", optionalText m.name),
      ("namespace", optionalText m.space),
      ("owner_references", .ofOption (fun os => .list (os.map ownerReference)) m.ownerReferences),
      ("resource_version", optionalText m.resourceVersion),
      ("self_link", optionalText m.selfLink),
      ("uid", optionalText m.uid)]

/-- A storage. -/
def storage (s : BackupStorage) : Outline :=
  .record "BackupStorage"
    [("metadata", metadata s.metadata),
      ("spec", .record "BackupStorageSpec"
        [("type_", .word (match s.spec.storageType with | .s3 => "S3" | .azure => "Azure")),
          ("bucket", .text s.spec.bucket),
          ("region", .text s.spec.region),
          ("endpoint_url", .text s.spec.endpointUrl),
          ("description", optionalText s.spec.description),
          ("credentials_secret_name", .text s.spec.credentialsSecretName),
          ("allowed_namespaces", texts s.spec.allowedNamespaces),
          ("verify_tls", optionalBool s.spec.verifyTls),
          ("force_path_style", optionalBool s.spec.forcePathStyle)])]

/-- A monitoring instance. -/
def monitoring (m : MonitoringConfig) : Outline :=
  .record "MonitoringConfig"
    [("metadata", metadata m.metadata),
      ("spec", .record "MonitoringConfigSpec"
        [("type_", .word "Pmm"),
          ("pmm", .record "PmmConfig"
            [("url", .text m.spec.pmm.url), ("image", .text m.spec.pmm.image)]),
          ("credentials_secret_name", .text m.spec.credentialsSecretName),
          ("allowed_namespaces", texts m.spec.allowedNamespaces),
          ("verify_tls", optionalBool m.spec.verifyTls)])]

/-- A split-horizon config. -/
def splitHorizon (c : SplitHorizonDnsConfig) : Outline :=
  .record "SplitHorizonDNSConfig"
    [("metadata", metadata c.metadata),
      ("spec", .record "SplitHorizonDNSConfigSpec"
        [("base_domain_name_suffix", .text c.spec.baseDomainNameSuffix),
          ("tls", .record "SplitHorizonTls" [("secret_name", .text c.spec.tls.secretName)])])]

end LogText

open LogText

/-- Storage credentials: both keys are hidden. -/
def StorageCredentials.outline (_ : StorageCredentials) : Outline :=
  .record "StorageCredentials" [("access_key", redacted), ("secret_key", redacted)]

/-- Monitoring credentials: the user is shown, and of the others whether they are given. -/
def MonitoringCredentials.outline (c : MonitoringCredentials) : Outline :=
  .record "MonitoringCredentials"
    [("api_key", .ofOption (fun _ => redacted) c.apiKey),
      ("user", optionalText c.user),
      ("password", .ofOption (fun _ => redacted) c.password)]

/-- A certificate authority: the private key is hidden. -/
def CertificateAuthority.outline (ca : CertificateAuthority) : Outline :=
  .record "CertificateAuthority" [("cert", .text ca.cert), ("key", redacted)]

/-- A new storage. -/
def NewStorage.outline (r : NewStorage) : Outline :=
  .record "CreateBackupStorageRequest"
    [("storage", LogText.storage r.storage), ("credentials", r.credentials.outline)]

/-- An update of a storage. -/
def StorageUpdate.outline (u : StorageUpdate) : Outline :=
  .record "UpdateBackupStorageRequest"
    [("namespace", .text u.space),
      ("name", .text u.name),
      ("bucket", optionalText u.bucket),
      ("region", optionalText u.region),
      ("endpoint_url", optionalText u.endpointUrl),
      ("description", optionalText u.description),
      ("access_key", optionalText u.accessKey),
      ("secret_key", optionalText u.secretKey),
      ("allowed_namespaces", .ofOption texts u.allowedNamespaces),
      ("verify_tls", optionalBool u.verifyTls),
      ("force_path_style", optionalBool u.forcePathStyle)]

/-- A new monitoring instance. -/
def NewMonitoring.outline (r : NewMonitoring) : Outline :=
  .record "CreateMonitoringInstanceRequest"
    [("config", monitoring r.config), ("credentials", r.credentials.outline)]

/-- An update of a monitoring instance. -/
def MonitoringUpdate.outline (u : MonitoringUpdate) : Outline :=
  .record "UpdateMonitoringInstanceRequest"
    [("namespace", .text u.space),
      ("name", .text u.name),
      ("url", optionalText u.url),
      ("allowed_namespaces", .ofOption texts u.allowedNamespaces),
      ("verify_tls", optionalBool u.verifyTls),
      ("credentials", .ofOption MonitoringCredentials.outline u.credentials)]

/-- A new split-horizon config. -/
def NewSplitHorizon.outline (r : NewSplitHorizon) : Outline :=
  .record "CreateSplitHorizonDnsConfigRequest"
    [("config", splitHorizon r.config), ("ca", r.ca.outline)]

/-- An update of a split-horizon config. -/
def SplitHorizonUpdate.outline (u : SplitHorizonUpdate) : Outline :=
  .record "UpdateSplitHorizonDnsConfigRequest"
    [("namespace", .text u.space),
      ("name", .text u.name),
      ("base_domain_name_suffix", optionalText u.baseDomainNameSuffix),
      ("ca", .ofOption CertificateAuthority.outline u.ca)]

end ClusterAdmission
