/-!
# Kinds of resources

The nine kinds of resources that the platform defines, with what its API knows of each, and the
collections in which the API keeps objects: one for each kind, and one for secrets.
-/

namespace ClusterAdmission

/-- A kind of resource. -/
inductive Kind where
  | databaseCluster
  | databaseEngine
  | databaseClusterBackup
  | databaseClusterRestore
  | backupStorage
  | monitoringConfig
  | podSchedulingPolicy
  | loadBalancerConfig
  | splitHorizonDnsConfig
  deriving DecidableEq, Repr

/-- A column that clients show of a resource. -/
structure Column where
  name : String
  type : String
  jsonPath : String

namespace Kind

/-- The group of the API that defines the kinds. -/
def group : String := "dbaas.io"

/-- The version of that group. -/
def version : String := "v1alpha1"

/-- The group and version as objects carry them. -/
def apiVersion : String := group ++ "/" ++ version

/-- The name of a kind. -/
def name : Kind → String
  | databaseCluster => "DatabaseCluster"
  | databaseEngine => "DatabaseEngine"
  | databaseClusterBackup => "DatabaseClusterBackup"
  | databaseClusterRestore => "DatabaseClusterRestore"
  | backupStorage => "BackupStorage"
  | monitoringConfig => "MonitoringConfig"
  | podSchedulingPolicy => "PodSchedulingPolicy"
  | loadBalancerConfig => "LoadBalancerConfig"
  | splitHorizonDnsConfig => "SplitHorizonDNSConfig"

/-- Every kind. -/
def all : List Kind :=
  [databaseCluster, databaseEngine, databaseClusterBackup, databaseClusterRestore, backupStorage,
    monitoringConfig, podSchedulingPolicy, loadBalancerConfig, splitHorizonDnsConfig]

/-- The kind of a name. -/
def ofName? (name : String) : Option Kind := all.find? fun k => k.name = name

/-- The name of the collection of a kind. -/
def plural : Kind → String
  | databaseCluster => "databaseclusters"
  | databaseEngine => "databaseengines"
  | databaseClusterBackup => "databaseclusterbackups"
  | databaseClusterRestore => "databaseclusterrestores"
  | backupStorage => "backupstorages"
  | monitoringConfig => "monitoringconfigs"
  | podSchedulingPolicy => "podschedulingpolicies"
  | loadBalancerConfig => "loadbalancerconfigs"
  | splitHorizonDnsConfig => "splithorizondnsconfigs"

/-- The short name of a kind. -/
def shortName : Kind → String
  | databaseCluster => "dbc"
  | databaseEngine => "dbengine"
  | databaseClusterBackup => "dbbackup"
  | databaseClusterRestore => "dbrestore"
  | backupStorage => "bs"
  | monitoringConfig => "mc"
  | podSchedulingPolicy => "psp"
  | loadBalancerConfig => "lbc"
  | splitHorizonDnsConfig => "shdc"

/-- Whether the resources of a kind live in namespaces. -/
def isNamespaced : Kind → Bool
  | podSchedulingPolicy | loadBalancerConfig => false
  | _ => true

/-- The scope of a kind. -/
def scope (k : Kind) : String := if k.isNamespaced then "Namespaced" else "Cluster"

/-- Whether the status of a kind is a part of its own of the API, which it is for every kind. -/
def hasStatusPart (_ : Kind) : Bool := true

/-- The columns that clients show of a kind. -/
def columns : Kind → List Column
  | databaseCluster =>
    [⟨"Engine", "string", ".spec.engine.type"⟩, ⟨"Version", "string", ".spec.engine.version"⟩,
      ⟨"Status", "string", ".status.status"⟩, ⟨"Age", "date", ".metadata.creationTimestamp"⟩]
  | databaseEngine =>
    [⟨"Type", "string", ".spec.type"⟩, ⟨"Operator", "string", ".status.operatorVersion"⟩]
  | databaseClusterBackup =>
    [⟨"Cluster", "string", ".spec.dbClusterName"⟩, ⟨"Storage", "string", ".spec.backupStorageName"⟩,
      ⟨"State", "string", ".status.state"⟩]
  | databaseClusterRestore =>
    [⟨"Cluster", "string", ".spec.dbClusterName"⟩, ⟨"State", "string", ".status.state"⟩]
  | backupStorage =>
    [⟨"Type", "string", ".spec.type"⟩, ⟨"Bucket", "string", ".spec.bucket"⟩,
      ⟨"Region", "string", ".spec.region"⟩, ⟨"Age", "date", ".metadata.creationTimestamp"⟩]
  | monitoringConfig => [⟨"Type", "string", ".spec.type"⟩, ⟨"URL", "string", ".spec.pmm.url"⟩]
  | podSchedulingPolicy => [⟨"Engine", "string", ".spec.engineType"⟩]
  | loadBalancerConfig => []
  | splitHorizonDnsConfig => [⟨"Domain", "string", ".spec.baseDomainNameSuffix"⟩]

/-- The name of the definition of a kind. -/
def definitionName (k : Kind) : String := k.plural ++ "." ++ group

/-- The path of the resources of a kind in a namespace. -/
def pathIn (k : Kind) (space : String) : String :=
  "/apis/" ++ apiVersion ++ "/namespaces/" ++ space ++ "/" ++ k.plural

end Kind

/-- A collection of objects of the API. -/
inductive Collection where
  | resources (k : Kind)
  | secrets
  deriving DecidableEq, Repr

namespace Collection

/-- The name of a collection. -/
def plural : Collection → String
  | resources k => k.plural
  | secrets => "secrets"

/-- Whether the objects of a collection live in namespaces. -/
def isNamespaced : Collection → Bool
  | resources k => k.isNamespaced
  | secrets => true

/-- The collection of the objects that carry a kind. -/
def ofKindName? (name : String) : Option Collection :=
  if name = "Secret" then some secrets else (Kind.ofName? name).map resources

theorem plural_injective {c d : Collection} (h : c.plural = d.plural) : c = d := by
  revert h
  cases c with
  | secrets =>
    cases d with
    | secrets => intro; rfl
    | resources k => cases k <;> decide
  | resources j =>
    cases d with
    | secrets => cases j <;> decide
    | resources k => cases j <;> cases k <;> decide

end Collection

end ClusterAdmission
