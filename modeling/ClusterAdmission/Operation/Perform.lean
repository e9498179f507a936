import ClusterAdmission.Operation
import ClusterAdmission.Operation.SecretLink

/-!
# Performing operations

The requests to the API that an operation stands for. Nothing is checked here; that is the work of
policies in front.
-/

namespace ClusterAdmission

open Api (Program)

/-- The texts of the secret that an update of a storage sets, if it names a key. -/
def StorageUpdate.secretData? (u : StorageUpdate) (current : BackupStorage) : Option SecretData :=
  if u.changesCredentials then
    some (StorageCredentials.secretData current.spec.storageType u.accessKey u.secretKey)
  else
    none

namespace Operation

/-- Creates a storage with its credentials. -/
def performCreateStorage (r : NewStorage) : Program BackupStorage :=
  SecretLink.storage.create r.storage
    (StorageCredentials.secretData r.storage.spec.storageType r.credentials.accessKey
      r.credentials.secretKey)

/-- Updates a storage and the keys that are given. -/
def performUpdateStorage (u : StorageUpdate) : Program BackupStorage :=
  SecretLink.storage.update u.space u.name u.secretData? u.apply

/-- Updates a monitoring instance and the credentials that are given. -/
def performUpdateMonitoring (u : MonitoringUpdate) : Program MonitoringConfig :=
  SecretLink.monitoring.update u.space u.name
    (fun _ => u.credentials.map MonitoringCredentials.secretData) u.apply

/-- Updates a split-horizon config and, if one is given, its certificate authority. -/
def performUpdateSplitHorizon (u : SplitHorizonUpdate) : Program SplitHorizonDnsConfig :=
  SecretLink.splitHorizon.update u.space u.name
    (fun _ => u.ca.map CertificateAuthority.secretData) u.apply

/-- The program of an operation. -/
def perform : (op : Operation) → Program op.Result
  | createCluster cluster => Api.createResource cluster
  | updateCluster cluster => Api.replaceResource cluster.space cluster.name cluster
  | deleteCluster space name => Api.deleteResource .databaseCluster space name
  | getCluster space name => Api.getResource .databaseCluster space name
  | listClusters space => Api.listResources .databaseCluster (some space)
  | createBackup backup => Api.createResource backup
  | createRestore restore => Api.createResource restore
  | createStorage request => performCreateStorage request
  | updateStorage request => performUpdateStorage request
  | deleteStorage space name => SecretLink.storage.delete space name
  | listStorages space => Api.listResources .backupStorage (some space)
  | createMonitoring request =>
    SecretLink.monitoring.create request.config request.credentials.secretData
  | updateMonitoring request => performUpdateMonitoring request
  | deleteMonitoring space name => SecretLink.monitoring.delete space name
  | createSchedulingPolicy policy => Api.createResource policy
  | updateSchedulingPolicy policy => Api.replaceResource "" policy.name policy
  | deleteSchedulingPolicy name => Api.deleteResource .podSchedulingPolicy "" name
  | createLoadBalancer config => Api.createResource config
  | updateLoadBalancer config => Api.replaceResource "" config.name config
  | deleteLoadBalancer name => Api.deleteResource .loadBalancerConfig "" name
  | createSplitHorizon request =>
    SecretLink.splitHorizon.create request.config request.ca.secretData
  | updateSplitHorizon request => performUpdateSplitHorizon request

end Operation

end ClusterAdmission
