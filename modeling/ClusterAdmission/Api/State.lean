import ClusterAdmission.Api.Client
import ClusterAdmission.Check

/-!
# The state as the API shows it

Every read of a check is one request to the API. What a server answers to these requests in a state
is the view under which checks run.
-/

namespace ClusterAdmission

/-- The request of a read. -/
def Read.fetch : (r : Read) → Api.Program r.Answer
  | .cluster space name => Api.getResource .databaseCluster space name
  | .clusters space => Api.listResources .databaseCluster space
  | .engine space type => Api.getResource .databaseEngine space type.operatorName
  | .storage space name => Api.getResource .backupStorage space name
  | .storages space => Api.listResources .backupStorage (some space)
  | .backups space owner => do
    let backups ← Api.listResources .databaseClusterBackup (some space)
    return backups.filter fun b => b.spec.dbClusterName = owner
  | .backup space name => Api.getResource .databaseClusterBackup space name
  | .loadBalancer name => Api.getResource .loadBalancerConfig "" name
  | .monitoring space name => Api.getResource .monitoringConfig space name
  | .schedulingPolicy name => Api.getResource .podSchedulingPolicy "" name
  | .splitHorizon space name => Api.getResource .splitHorizonDnsConfig space name
  | .secret space name => Api.getSecret space name

/-- The view of a state through a server. -/
def View.through {σ : Type} (serve : σ → Api.Request → σ × Api.Response) (s : σ) : View :=
  fun r => (r.fetch.run serve s).answer

end ClusterAdmission
