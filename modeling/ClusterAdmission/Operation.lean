import ClusterAdmission.Request.Payload

/-!
# Operations

What the platform is asked to do, each with the type of its result. Resources that hold credentials
come with a payload of their own; all others are given as they are to be stored.
-/

namespace ClusterAdmission

/-- An operation on the platform. -/
inductive Operation where
  | createCluster (cluster : DatabaseCluster)
  | updateCluster (cluster : DatabaseCluster)
  | deleteCluster (space name : String)
  | getCluster (space name : String)
  | listClusters (space : String)
  | createBackup (backup : DatabaseClusterBackup)
  | createRestore (restore : DatabaseClusterRestore)
  | createStorage (request : NewStorage)
  | updateStorage (request : StorageUpdate)
  | deleteStorage (space name : String)
  | listStorages (space : String)
  | createMonitoring (request : NewMonitoring)
  | updateMonitoring (request : MonitoringUpdate)
  | deleteMonitoring (space name : String)
  | createSchedulingPolicy (policy : PodSchedulingPolicy)
  | updateSchedulingPolicy (policy : PodSchedulingPolicy)
  | deleteSchedulingPolicy (name : String)
  | createLoadBalancer (config : LoadBalancerConfig)
  | updateLoadBalancer (config : LoadBalancerConfig)
  | deleteLoadBalancer (name : String)
  | createSplitHorizon (request : NewSplitHorizon)
  | updateSplitHorizon (request : SplitHorizonUpdate)
  deriving DecidableEq

namespace Operation

/-- The name of an operation. -/
def name : Operation → String
  | createCluster _ => "create_database_cluster"
  | updateCluster _ => "update_database_cluster"
  | deleteCluster .. => "delete_database_cluster"
  | getCluster .. => "get_database_cluster"
  | listClusters _ => "list_database_clusters"
  | createBackup _ => "create_database_cluster_backup"
  | createRestore _ => "create_database_cluster_restore"
  | createStorage _ => "create_backup_storage"
  | updateStorage _ => "update_backup_storage"
  | deleteStorage .. => "delete_backup_storage"
  | listStorages _ => "list_backup_storages"
  | createMonitoring _ => "create_monitoring_instance"
  | updateMonitoring _ => "update_monitoring_instance"
  | deleteMonitoring .. => "delete_monitoring_instance"
  | createSchedulingPolicy _ => "create_pod_scheduling_policy"
  | updateSchedulingPolicy _ => "update_pod_scheduling_policy"
  | deleteSchedulingPolicy _ => "delete_pod_scheduling_policy"
  | createLoadBalancer _ => "create_load_balancer_config"
  | updateLoadBalancer _ => "update_load_balancer_config"
  | deleteLoadBalancer _ => "delete_load_balancer_config"
  | createSplitHorizon _ => "create_split_horizon_dns_config"
  | updateSplitHorizon _ => "update_split_horizon_dns_config"

/-- What an operation answers with. -/
@[reducible] def Result : Operation → Type
  | createCluster _ | updateCluster _ | getCluster .. => DatabaseCluster
  | listClusters _ => List DatabaseCluster
  | createBackup _ => DatabaseClusterBackup
  | createRestore _ => DatabaseClusterRestore
  | createStorage _ | updateStorage _ => BackupStorage
  | listStorages _ => List BackupStorage
  | createMonitoring _ | updateMonitoring _ => MonitoringConfig
  | createSchedulingPolicy _ | updateSchedulingPolicy _ => PodSchedulingPolicy
  | createLoadBalancer _ | updateLoadBalancer _ => LoadBalancerConfig
  | createSplitHorizon _ | updateSplitHorizon _ => SplitHorizonDnsConfig
  | deleteCluster .. | deleteStorage .. | deleteMonitoring .. | deleteSchedulingPolicy _
  | deleteLoadBalancer _ => Unit

/-- The JSON form of a result; deletions have `null`. -/
def resultJson : (op : Operation) → op.Result → Json
  | createCluster _ | updateCluster _ | getCluster .. => Resource.toJson
  | listClusters _ => .ofList Resource.toJson
  | createBackup _ | createRestore _ => Resource.toJson
  | createStorage _ | updateStorage _ => Resource.toJson
  | listStorages _ => .ofList Resource.toJson
  | createMonitoring _ | updateMonitoring _ => Resource.toJson
  | createSchedulingPolicy _ | updateSchedulingPolicy _ => Resource.toJson
  | createLoadBalancer _ | updateLoadBalancer _ => Resource.toJson
  | createSplitHorizon _ | updateSplitHorizon _ => Resource.toJson
  | deleteCluster .. | deleteStorage .. | deleteMonitoring .. | deleteSchedulingPolicy _
  | deleteLoadBalancer _ => fun _ => .null

/-- Whether an operation creates a cluster. -/
def isCreateCluster : Operation → Bool
  | createCluster _ => true
  | _ => false

end Operation

end ClusterAdmission
