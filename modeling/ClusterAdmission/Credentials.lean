import ClusterAdmission.Resource.BackupStorage

/-!
# Credentials

What a storage, a monitoring instance and a split-horizon config keep in their secrets, and under
which keys.
-/

namespace ClusterAdmission

/-- The access key and secret key of a storage, or the account and key of Azure. -/
structure StorageCredentials where
  accessKey : String := ""
  secretKey : String := ""
  deriving DecidableEq, Inhabited

/-- An API key, or a user with a password. -/
structure MonitoringCredentials where
  apiKey : Option String := none
  user : Option String := none
  password : Option String := none
  deriving DecidableEq, Inhabited

/-- A certificate and a private key in PEM. -/
structure CertificateAuthority where
  cert : String := ""
  key : String := ""
  deriving DecidableEq, Inhabited

/-- The contents of a secret. -/
abbrev SecretData := SortedMap String String

/-- The contents with the values that are there. -/
def SecretData.ofOptional (entries : List (String × Option String)) : SecretData :=
  .ofList (entries.filterMap fun (key, value) => value.map fun v => (key, v))

namespace StorageType

/-- The keys under which a secret holds the access key and the secret key. -/
def secretKeys : StorageType → String × String
  | s3 => ("AWS_ACCESS_KEY_ID", "AWS_SECRET_ACCESS_KEY")
  | azure => ("AZURE_STORAGE_ACCOUNT_NAME", "AZURE_STORAGE_ACCOUNT_KEY")

end StorageType

namespace StorageCredentials

/-- Whether both keys are given. -/
def isComplete (c : StorageCredentials) : Bool := c.accessKey ≠ "" && c.secretKey ≠ ""

/-- The credentials that a secret holds; a missing key is empty. -/
def ofSecret (type : StorageType) (data : SecretData) : StorageCredentials :=
  { accessKey := (data.get? type.secretKeys.1).getD ""
    secretKey := (data.get? type.secretKeys.2).getD "" }

/-- The contents of the secret for the keys that are given. -/
def secretData (type : StorageType) (accessKey secretKey : Option String) : SecretData :=
  .ofOptional [(type.secretKeys.1, accessKey), (type.secretKeys.2, secretKey)]

theorem ofSecret_secretData (type : StorageType) (c : StorageCredentials) :
    ofSecret type (secretData type (some c.accessKey) (some c.secretKey)) = c := by
  cases type <;>
    simp [ofSecret, secretData, SecretData.ofOptional, SortedMap.ofList, StorageType.secretKeys,
      SortedMap.get?_insert_of_ne]

end StorageCredentials

namespace MonitoringCredentials

/-- Whether a value is there and not empty. -/
def isSet (value : Option String) : Bool := value.any fun v => v ≠ ""

/-- Whether there is an API key, or both a user and a password. -/
def isComplete (c : MonitoringCredentials) : Bool :=
  isSet c.apiKey || isSet c.user && isSet c.password

/-- The contents of the secret for the values that are given. -/
def secretData (c : MonitoringCredentials) : SecretData :=
  .ofOptional [("apiKey", c.apiKey), ("username", c.user), ("password", c.password)]

end MonitoringCredentials

namespace CertificateAuthority

/-- The contents of the secret. -/
def secretData (ca : CertificateAuthority) : SecretData :=
  .ofList [("ca.crt", ca.cert), ("ca.key", ca.key)]

end CertificateAuthority

end ClusterAdmission
