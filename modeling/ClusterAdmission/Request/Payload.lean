import ClusterAdmission.Credentials
import ClusterAdmission.Resource

/-!
# Payloads with credentials

Requests that carry more than a resource: credentials beside a new resource, or an update of single
fields, in which what is left out keeps the stored value.
-/

namespace ClusterAdmission

/-- A new storage with its credentials. -/
structure NewStorage where
  storage : BackupStorage
  credentials : StorageCredentials
  deriving DecidableEq

/-- An update of a storage. -/
structure StorageUpdate where
  space : String := ""
  name : String := ""
  bucket : Option String := none
  region : Option String := none
  endpointUrl : Option String := none
  description : Option String := none
  accessKey : Option String := none
  secretKey : Option String := none
  allowedNamespaces : Option (List String) := none
  verifyTls : Option Bool := none
  forcePathStyle : Option Bool := none
  deriving DecidableEq

/-- A new monitoring instance with its credentials. -/
structure NewMonitoring where
  config : MonitoringConfig
  credentials : MonitoringCredentials
  deriving DecidableEq

/-- An update of a monitoring instance. -/
structure MonitoringUpdate where
  space : String := ""
  name : String := ""
  url : Option String := none
  allowedNamespaces : Option (List String) := none
  verifyTls : Option Bool := none
  credentials : Option MonitoringCredentials := none
  deriving DecidableEq

/-- A new split-horizon config with its certificate authority. -/
structure NewSplitHorizon where
  config : SplitHorizonDnsConfig
  ca : CertificateAuthority
  deriving DecidableEq

/-- An update of a split-horizon config. -/
structure SplitHorizonUpdate where
  space : String := ""
  name : String := ""
  baseDomainNameSuffix : Option String := none
  ca : Option CertificateAuthority := none
  deriving DecidableEq

namespace StorageUpdate

/-- The fields of a storage after the update. -/
def applySpec (u : StorageUpdate) (s : BackupStorageSpec) : BackupStorageSpec :=
  { s with
    bucket := u.bucket.getD s.bucket
    region := u.region.getD s.region
    endpointUrl := u.endpointUrl.getD s.endpointUrl
    description := u.description.or s.description
    allowedNamespaces := u.allowedNamespaces.getD s.allowedNamespaces
    verifyTls := u.verifyTls.or s.verifyTls
    forcePathStyle := u.forcePathStyle.or s.forcePathStyle }

/-- The storage after the update. -/
def apply (u : StorageUpdate) (storage : BackupStorage) : BackupStorage :=
  { storage with spec := u.applySpec storage.spec }

/-- The credentials after the update. -/
def applyCredentials (u : StorageUpdate) (stored : StorageCredentials) : StorageCredentials :=
  { accessKey := u.accessKey.getD stored.accessKey
    secretKey := u.secretKey.getD stored.secretKey }

/-- Whether the update names a key. -/
def changesCredentials (u : StorageUpdate) : Bool := u.accessKey.isSome || u.secretKey.isSome

end StorageUpdate

namespace MonitoringUpdate

/-- The fields of a monitoring instance after the update. -/
def applySpec (u : MonitoringUpdate) (m : MonitoringConfigSpec) : MonitoringConfigSpec :=
  { m with
    pmm := { m.pmm with url := u.url.getD m.pmm.url }
    allowedNamespaces := u.allowedNamespaces.getD m.allowedNamespaces
    verifyTls := u.verifyTls.or m.verifyTls }

/-- The monitoring instance after the update. -/
def apply (u : MonitoringUpdate) (config : MonitoringConfig) : MonitoringConfig :=
  { config with spec := u.applySpec config.spec }

end MonitoringUpdate

namespace SplitHorizonUpdate

/-- The fields of a split-horizon config after the update. -/
def applySpec (u : SplitHorizonUpdate) (c : SplitHorizonDnsConfigSpec) :
    SplitHorizonDnsConfigSpec :=
  { c with baseDomainNameSuffix := u.baseDomainNameSuffix.getD c.baseDomainNameSuffix }

/-- The split-horizon config after the update. -/
def apply (u : SplitHorizonUpdate) (config : SplitHorizonDnsConfig) : SplitHorizonDnsConfig :=
  { config with spec := u.applySpec config.spec }

end SplitHorizonUpdate

end ClusterAdmission
