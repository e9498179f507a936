import ClusterAdmission.Operation
import ClusterAdmission.Policy.Backup
import ClusterAdmission.Policy.Platform
import ClusterAdmission.Policy.Storage

/-!
# The policies of operations

Which check an operation has to pass. Reading, and deleting a cluster, is free.
-/

namespace ClusterAdmission

/-- The check of an operation, if it has one. -/
def Operation.policy (p : Policies) : Operation → Option (Check Unit)
  | createCluster cluster => some (Policy.clusterCreate p cluster)
  | updateCluster cluster => some (Policy.clusterUpdate p cluster)
  | deleteCluster .. | getCluster .. | listClusters _ | listStorages _ => none
  | createBackup backup => some (Policy.backupCreate p backup)
  | createRestore restore => some (Policy.restoreCreate restore)
  | createStorage request => some (Policy.storageCreate request)
  | updateStorage request => some (Policy.storageUpdate request)
  | deleteStorage space name => some (Policy.storageDelete space name)
  | createMonitoring request => some (Policy.monitoringCreate request)
  | updateMonitoring request => some (Policy.monitoringUpdate request)
  | deleteMonitoring space name => some (Policy.monitoringDelete space name)
  | createSchedulingPolicy policy => some (Policy.schedulingPolicyCreate policy)
  | updateSchedulingPolicy policy => some (Policy.schedulingPolicyUpdate policy)
  | deleteSchedulingPolicy name => some (Policy.schedulingPolicyDelete name)
  | createLoadBalancer config => some (Policy.loadBalancerCreate config)
  | updateLoadBalancer config => some (Policy.loadBalancerUpdate config)
  | deleteLoadBalancer name => some (Policy.loadBalancerDelete name)
  | createSplitHorizon request => some (Policy.splitHorizonCreate request)
  | updateSplitHorizon request => some (Policy.splitHorizonUpdate request)

end ClusterAdmission
