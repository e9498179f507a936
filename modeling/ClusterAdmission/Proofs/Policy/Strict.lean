import ClusterAdmission.Operation.Policy
import ClusterAdmission.Proofs.Check.Monotone

/-!
# What checks ask for

Every check ends where a read fails, and treats each read in one way (`Operation.strict_policy`): an
object that the request refers to has a rejection of its own for when it is missing
(`Read.missing`), and anything else has none (`Operation.missing`). That goes for lists, for secrets
and for the object that the request is to update or delete (`Operation.target?`).
-/

namespace ClusterAdmission

/-- The rejection for when the object of a read is missing and the request refers to it. -/
def Read.missing : Read → Option Violation
  | .cluster _ name => some (.clusterNotFound name)
  | .engine _ type => some (.unsupportedEngine type)
  | .storage _ name => some (.backupStorageNotFound name)
  | .backup _ name => some (.backupNotFound name)
  | .loadBalancer name => some (.loadBalancerConfigNotFound name)
  | .monitoring _ name => some (.monitoringConfigNotFound name)
  | .schedulingPolicy name => some (.podSchedulingPolicyNotFound name)
  | .splitHorizon _ name => some (.splitHorizonConfigNotFound name)
  | .clusters _ | .storages _ | .backups .. | .secret .. => none

namespace Operation

/-- The read of the object that an operation updates or deletes, if its check looks at it. -/
def target? : Operation → Option Read
  | updateCluster c => some (.cluster c.space c.name)
  | updateStorage u => some (.storage u.space u.name)
  | updateMonitoring u => some (.monitoring u.space u.name)
  | updateSchedulingPolicy s => some (.schedulingPolicy s.name)
  | deleteSchedulingPolicy name => some (.schedulingPolicy name)
  | updateLoadBalancer c => some (.loadBalancer c.name)
  | deleteLoadBalancer name => some (.loadBalancer name)
  | updateSplitHorizon u => some (.splitHorizon u.space u.name)
  | createCluster _ | deleteCluster .. | getCluster .. | listClusters _ | createBackup _
  | createRestore _ | createStorage _ | deleteStorage .. | listStorages _ | createMonitoring _
  | deleteMonitoring .. | createSchedulingPolicy _ | createLoadBalancer _ | createSplitHorizon _ =>
    none

/-- The rejection that an operation has for when the object of a read is missing, if it has one. -/
def missing (op : Operation) (r : Read) : Option Violation :=
  if op.target? = some r then none else r.missing

end Operation

namespace Policy

open Check (strict_pure strict_rule strict_require strict_get strict_getReferenced
  strict_mustAccept)

variable {steps : Check.Step → Prop} {p : Policies} {space : String}

/-! ## Rules -/

theorem strict_nodesAndProxy {c : ClusterSpec} {between : Verdict} :
    (nodesAndProxy p c between).Strict steps :=
  (strict_rule _).bind fun _ => (strict_rule _).bind fun _ => (strict_rule _).bind fun _ =>
    strict_rule _

theorem strict_shardingAndBackups {c : ClusterSpec} {engine : DatabaseEngine} :
    (shardingAndBackups p c engine).Strict steps :=
  (strict_rule _).bind fun _ => (strict_rule _).bind fun _ => strict_rule _

theorem strict_versionChange {engine : DatabaseEngine} {old new : EngineSpec} :
    (versionChange engine old new).Strict steps :=
  .ite (strict_pure ()) ((strict_rule _).bind fun _ => strict_require _ _)

/-! ## What clusters, backups and restores refer to -/

section References

section Objects

variable (h : ∀ r : Read, r.OfObject → steps (.read r r.missing))

include h

theorem strict_installedEngine {engine : EngineType} :
    (installedEngine space engine).Strict steps :=
  (strict_getReferenced (h (.engine space engine) trivial)).bind fun _ =>
    (strict_require _ _).bind fun _ => strict_pure _

theorem strict_usableStorage {name : String} : (usableStorage space name).Strict steps :=
  (strict_getReferenced (h (.storage space name) trivial)).bind fun _ =>
    (strict_require _ _).bind fun _ => strict_pure _

theorem strict_usableStorages {recovery : Option String} {names : List String} :
    (usableStorages space recovery names).Strict steps := by
  induction names with
  | nil => exact strict_pure ()
  | cons name rest ih =>
    exact (strict_usableStorage h).bind fun _ => (strict_require _ _).bind fun _ => ih

theorem strict_storageTopology {c : ClusterSpec} {active : Option String} {withSource : Bool} :
    (storageTopology space c active withSource).Strict steps :=
  .ite ((strict_rule _).bind fun _ => strict_usableStorages h) (strict_usableStorages h)

omit h in
theorem strict_exists? {name : Option String} {read : String → Read}
    {missing : String → Violation} (hread : ∀ n, steps (.read (read n) (some (missing n)))) :
    (exists? name read missing).Strict steps := by
  cases name with
  | none => exact strict_pure ()
  | some n => exact (strict_getReferenced (hread n)).bind fun _ => strict_pure ()

theorem strict_schedulingPolicyFits {c : ClusterSpec} : (schedulingPolicyFits c).Strict steps := by
  unfold schedulingPolicyFits
  split
  · exact strict_pure ()
  · next name _ =>
    exact (strict_getReferenced (h (.schedulingPolicy name) trivial)).bind fun _ =>
      strict_require _ _

theorem strict_splitHorizonFits {c : ClusterSpec} : (splitHorizonFits space c).Strict steps := by
  unfold splitHorizonFits
  split
  · exact strict_pure ()
  · next name _ =>
    exact (strict_require _ _).bind fun _ =>
      (strict_getReferenced (h (.splitHorizon space name) trivial)).bind fun _ => strict_pure ()

theorem strict_references {c : ClusterSpec} : (references space c).Strict steps :=
  (strict_exists? fun name => h (.monitoring space name) trivial).bind fun _ =>
    (strict_exists? fun name => h (.loadBalancer name) trivial).bind fun _ =>
      (strict_schedulingPolicyFits h).bind fun _ => strict_splitHorizonFits h

end Objects

variable (h : ∀ r : Read, r.OfOthers → steps (.read r r.missing))

include h

theorem strict_repositoryBudget {owner : String} {schedules : List BackupSchedule}
    {inFlight : Option String} :
    (repositoryBudget p space owner schedules inFlight).Strict steps :=
  (strict_get (h (.backups space owner) trivial)).bind fun _ => strict_rule _

theorem strict_clusterCreate {c : DatabaseCluster} : (clusterCreate p c).Strict steps :=
  have hobject := fun r (hr : Read.OfObject r) => h r hr.ofOthers
  (strict_rule _).bind fun _ => (strict_installedEngine hobject).bind fun _ =>
    (strict_require _ _).bind fun _ => strict_nodesAndProxy.bind fun _ =>
      strict_shardingAndBackups.bind fun _ => (strict_storageTopology hobject).bind fun _ =>
        (strict_rule _).bind fun _ =>
          .ite ((strict_repositoryBudget h).bind fun _ => strict_references hobject)
            (strict_references hobject)

theorem strict_clusterUpdate {c : DatabaseCluster}
    (hown : steps (.read (.cluster c.space c.name) none)) : (clusterUpdate p c).Strict steps :=
  have hobject := fun r (hr : Read.OfObject r) => h r hr.ofOthers
  (strict_get hown).bind fun _ => (strict_installedEngine hobject).bind fun _ =>
    strict_versionChange.bind fun _ => strict_nodesAndProxy.bind fun _ =>
      (strict_rule _).bind fun _ => strict_shardingAndBackups.bind fun _ =>
        (strict_storageTopology hobject).bind fun _ =>
          .ite ((strict_rule _).bind fun _ => (strict_repositoryBudget h).bind fun _ =>
            strict_references hobject) (strict_references hobject)

theorem strict_backupCreate {b : DatabaseClusterBackup}
    (hcluster : steps (.read (.cluster b.space b.spec.dbClusterName)
      (some (.clusterNotFound b.spec.dbClusterName)))) : (backupCreate p b).Strict steps := by
  refine (strict_rule _).bind fun _ => (strict_getReferenced hcluster).bind fun c =>
    (strict_usableStorage fun r hr => h r hr.ofOthers).bind fun _ => ?_
  split
  · exact strict_pure ()
  · split
    · exact strict_pure ()
    · exact strict_require _ _
  · exact strict_repositoryBudget h

theorem strict_restoreCreate {r : DatabaseClusterRestore}
    (hcluster : steps (.read (.cluster r.space r.spec.dbClusterName)
      (some (.clusterNotFound r.spec.dbClusterName)))) : (restoreCreate r).Strict steps := by
  have hbackup (name : Option String) :
      (backupOfCluster r.space r.spec.dbClusterName name).Strict steps := by
    cases name with
    | none => exact strict_pure ()
    | some name =>
      exact (strict_getReferenced (h (.backup r.space name) trivial)).bind fun _ =>
        strict_require _ _
  have hsource (source : Option BackupSource) : (sourceUsable r.space source).Strict steps := by
    cases source with
    | none => exact strict_pure ()
    | some source =>
      exact (strict_usableStorage fun r hr => h r hr.ofOthers).bind fun _ => strict_pure ()
  exact (strict_getReferenced hcluster).bind fun _ => (strict_rule _).bind fun _ =>
    (hbackup _).bind fun _ => hsource _

end References

/-! ## Storages and what comes with the platform -/

section Own

variable (h : ∀ r : Read, r.missing = none → steps (.read r none)) {name : String}

include h

theorem strict_isStorageUsed : (isStorageUsed space name).Strict steps :=
  (strict_get (h (.clusters (some space)) rfl)).bind fun _ => strict_pure _

theorem strict_storageFields {s : BackupStorage} : (storageFields space s).Strict steps :=
  (strict_get (h (.storages space) rfl)).bind fun _ => (strict_require _ _).bind fun _ =>
    strict_rule _

theorem strict_changeUnused {field : Option FixedField} :
    (changeUnused space name field).Strict steps := by
  cases field with
  | none => exact strict_pure ()
  | some field => exact (strict_isStorageUsed h).bind fun _ => strict_require _ _

omit h in
theorem strict_acceptedCredentials {s : BackupStorage} {c : StorageCredentials}
    (hprobe : steps (.probe ⟨s, c⟩)) : (acceptedCredentials s c).Strict steps :=
  (strict_require _ _).bind fun _ => strict_mustAccept hprobe

theorem strict_storageUpdate {u : StorageUpdate}
    (hown : steps (.read (.storage u.space u.name) none)) (hprobe : ∀ call, steps (.probe call)) :
    (storageUpdate u).Strict steps :=
  (strict_get hown).bind fun current => (strict_storageFields h).bind fun _ =>
    (strict_changeUnused h).bind fun _ =>
      (strict_get (h (.secret u.space current.spec.credentialsSecretName) rfl)).bind fun _ =>
        strict_acceptedCredentials (hprobe _)

theorem strict_storageDelete : (storageDelete space name).Strict steps :=
  (strict_isStorageUsed h).bind fun _ => strict_require _ _

theorem strict_monitoringDelete : (monitoringDelete space name).Strict steps :=
  ((strict_get (h (.clusters (some space)) rfl)).bind fun _ => strict_pure _).bind fun _ =>
    strict_require _ _

theorem strict_schedulingPolicyDelete (hown : steps (.read (.schedulingPolicy name) none)) :
    (schedulingPolicyDelete name).Strict steps :=
  (strict_get hown).bind fun _ => (strict_require _ _).bind fun _ =>
    ((strict_get (h (.clusters none) rfl)).bind fun _ => strict_pure _).bind fun _ =>
      strict_require _ _

end Own

theorem strict_monitoringUpdate {u : MonitoringUpdate}
    (hown : steps (.read (.monitoring u.space u.name) none)) :
    (monitoringUpdate u).Strict steps := by
  unfold monitoringUpdate
  refine (strict_get hown).bind fun _ => ?_
  split
  · exact (strict_pure ()).bind fun _ => strict_require _ _
  · exact (strict_rule _).bind fun _ => strict_require _ _

theorem strict_splitHorizonUpdate {u : SplitHorizonUpdate}
    (hown : steps (.read (.splitHorizon u.space u.name) none)) :
    (splitHorizonUpdate u).Strict steps := by
  unfold splitHorizonUpdate
  refine (strict_get hown).bind fun _ => ?_
  cases u.baseDomainNameSuffix <;> cases u.ca
  · exact strict_pure ()
  · exact strict_rule _
  · exact (strict_rule _).bind fun _ => strict_pure ()
  · exact (strict_rule _).bind fun _ => strict_rule _

theorem strict_ownLoadBalancer {name : String} (hown : steps (.read (.loadBalancer name) none)) :
    (ownLoadBalancer name).Strict steps :=
  (strict_get hown).bind fun _ => strict_require _ _

end Policy

namespace Operation

/-- The steps that the check of an operation takes. -/
def Takes (op : Operation) : Check.Step → Prop
  | .read r missing => missing = op.missing r
  | .probe _ => True

theorem takes_of_missing {op : Operation} (r : Read) (h : r.missing = none) :
    op.Takes (.read r none) := by
  change none = op.missing r
  rw [missing, h, ite_self]

theorem takes_target {op : Operation} {r : Read} (h : op.target? = some r) :
    op.Takes (.read r none) :=
  (if_pos h).symm

theorem takes_reference {op : Operation} {r : Read} (h : op.target? ≠ some r) :
    op.Takes (.read r r.missing) :=
  (if_neg h).symm

theorem takes_references {op : Operation} (h : op.target? = none) (r : Read) :
    op.Takes (.read r r.missing) :=
  takes_reference (by rw [h]; exact nofun)

open Check (strict_rule strict_require strict_get)
open Policy

/-- Every check ends where a read fails, and has rejections for the missing objects that its
operation refers to. -/
theorem strict_policy {op : Operation} {p : Policies} {check : Check Unit}
    (h : op.policy p = some check) : check.Strict op.Takes := by
  cases op with
  | deleteCluster | getCluster | listClusters | listStorages => cases h
  | createCluster c =>
    cases h
    exact strict_clusterCreate fun r _ => takes_references rfl r
  | updateCluster c =>
    cases h
    refine strict_clusterUpdate (fun r hr => takes_reference ?_) (takes_target rfl)
    rintro ⟨⟩
    exact hr
  | createBackup b =>
    cases h
    exact strict_backupCreate (fun r _ => takes_references rfl r) (takes_references rfl _)
  | createRestore r =>
    cases h
    exact strict_restoreCreate (fun r _ => takes_references rfl r) (takes_references rfl _)
  | createStorage r =>
    cases h
    exact (strict_storageFields takes_of_missing).bind fun _ => strict_acceptedCredentials trivial
  | updateStorage u =>
    cases h
    exact strict_storageUpdate takes_of_missing (takes_target rfl) fun _ => trivial
  | deleteStorage space name =>
    cases h
    exact strict_storageDelete takes_of_missing
  | createMonitoring r =>
    cases h
    exact (strict_rule _).bind fun _ => (strict_rule _).bind fun _ => strict_require _ _
  | updateMonitoring u =>
    cases h
    exact strict_monitoringUpdate (takes_target rfl)
  | deleteMonitoring space name =>
    cases h
    exact strict_monitoringDelete takes_of_missing
  | createSchedulingPolicy s =>
    cases h
    exact (strict_rule _).bind fun _ => strict_rule _
  | updateSchedulingPolicy s =>
    cases h
    exact (strict_get (takes_target rfl)).bind fun _ => (strict_require _ _).bind fun _ =>
      (strict_require _ _).bind fun _ => strict_rule _
  | deleteSchedulingPolicy name =>
    cases h
    exact strict_schedulingPolicyDelete takes_of_missing (takes_target rfl)
  | createLoadBalancer c =>
    cases h
    exact strict_rule _
  | updateLoadBalancer c =>
    cases h
    exact (strict_ownLoadBalancer (takes_target rfl)).bind fun _ => strict_rule _
  | deleteLoadBalancer name =>
    cases h
    exact strict_ownLoadBalancer (takes_target rfl)
  | createSplitHorizon r =>
    cases h
    exact (strict_rule _).bind fun _ => (strict_rule _).bind fun _ => strict_rule _
  | updateSplitHorizon u =>
    cases h
    exact strict_splitHorizonUpdate (takes_target rfl)

end Operation

end ClusterAdmission
