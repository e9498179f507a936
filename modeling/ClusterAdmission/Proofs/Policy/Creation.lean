import ClusterAdmission.Proofs.Policy.References

/-!
# What a new cluster has to fulfil

The check of a new cluster goes through families of rules in order (`CreateFamily.all`). It passes
exactly the clusters of which all of them hold, and it rejects for the first one that does not hold
(`clusterCreate_exact`).
-/

namespace ClusterAdmission

/-- A family of rules for new clusters. -/
inductive CreateFamily where
  | name | engine | version | replicas | resources | proxy | sharding | schedules | pitr | binding
  | storages | source | repositories | references
  deriving DecidableEq, Repr

/-- The storages that schedules, enabled recovery or the restore source name can be used, and a
MySQL cluster recovers to S3. -/
def Policy.StoragesFit (view : View) (space : String) (c : ClusterSpec) : Prop :=
  ∀ name, name ≠ "" →
    (name ∈ c.scheduleStorages ∨
      (c.backup.pitr.enabled ∧ c.backup.pitr.backupStorageName = some name) ∨
      c.sourceStorage = some name) →
    ∃ b, StorageUsable view space name b ∧
      (c.engine.engine = .pxc → c.backup.pitr.enabled →
        c.backup.pitr.backupStorageName = some name → b.spec.storageType = .s3)

namespace CreateFamily

/-- The families in the order in which they are checked. -/
def all : List CreateFamily :=
  [name, engine, version, replicas, resources, proxy, sharding, schedules, pitr, binding, storages,
    source, repositories, references]

/-- What a family asks of a new cluster. -/
def Holds (p : Policies) (view : View) (c : DatabaseCluster) : CreateFamily → Prop
  | name => Names.Label c.name ∧ c.name.utf8ByteSize ≤ p.config.maxClusterNameLength
  | engine => ∃ e : DatabaseEngine, view (.engine c.space c.spec.engine.engine) = .ok e ∧
      e.Installed
  | version => ∀ e : DatabaseEngine, view (.engine c.space c.spec.engine.engine) = .ok e →
      e.Permits c.spec.engine.version
  | replicas => 0 ≤ c.spec.engine.replicas.toInt ∧
      (c.spec.engine.engine ≠ .postgresql →
        c.spec.engine.replicas.toInt = 0 ∨ c.spec.engine.replicas.toInt % 2 = 1) ∧
      (c.spec.engine.engine = .pxc → c.spec.engine.replicas.toInt ≤ p.config.pxcMaxReplicas)
  | resources => Rules.Sized c.spec.engine p.floors
  | proxy => Rules.ProxyFits c.spec
  | sharding => ∀ e : DatabaseEngine, view (.engine c.space c.spec.engine.engine) = .ok e →
      ∀ s, c.spec.sharding = some s → s.enabled →
        Rules.ShardsFit c.spec.engine s (Resource.operatorVersion e)
          p.config.minShardingOperatorVersion
  | schedules => (c.spec.backup.enabled → c.spec.backup.schedules ≠ []) ∧
      Rules.SchedulesFit [] c.spec.backup.schedules
  | pitr => c.spec.backup.pitr.enabled →
      (c.spec.engine.engine = .pxc →
        ∃ name, c.spec.backup.pitr.backupStorageName = some name ∧ name ≠ "") ∧
      ∀ n, c.spec.backup.pitr.uploadIntervalSec = some n → 0 < n.toInt
  | binding => c.spec.engine.engine = .psmdb →
      Rules.SingleStorage c.spec.backup.schedules ∧
      ∀ a, Resource.activeStorage c = some a →
        ∀ s ∈ c.spec.backup.schedules, s.backupStorageName ≠ "" → s.backupStorageName = a
  | storages => Policy.StoragesFit view c.space c.spec
  | source => ∀ d, c.spec.dataSource = some d → Rules.SourceFits d
  | repositories => c.spec.engine.engine = .postgresql →
      Policy.RepositoriesFit view p.config.pgMaxRepositories c.space c.name
        c.spec.backup.schedules none
  | references => Policy.ReferencesFit view c.space c.spec

/-- The violations that a family rejects a new cluster for. -/
def violations (p : Policies) (c : DatabaseCluster) : CreateFamily → List Violation
  | name => [.invalidName c.name, .nameTooLong c.name p.config.maxClusterNameLength]
  | engine => [.unsupportedEngine c.spec.engine.engine]
  | version => [.unsupportedVersion c.spec.engine.version]
  | replicas => [.negativeReplicas, .evenReplicas c.spec.engine.engine,
      .tooManyReplicas c.spec.engine.engine p.config.pxcMaxReplicas]
  | resources => Rules.sizeViolations c.spec.engine p.config
  | proxy => Rules.proxyViolations c.spec
  | sharding => Rules.shardingViolations c.spec.engine p.config.minShardingOperatorVersion
  | schedules => Rules.scheduleViolations c.spec.backup.schedules
  | pitr => [.pitrStorageRequired, .invalidUploadInterval]
  | binding => .multipleStorages :: (Resource.activeStorage c).toList.map .activeStorageMismatch
  | storages => Policy.storageViolations c.space (Policy.topologyStorages c.spec true)
  | source => [.dataSourceAmbiguous, .incompleteBackupSource, .unsupportedPitrType,
      .invalidPitrDate]
  | repositories => [.tooManySchedules p.config.pgMaxRepositories,
      .tooManyRepositories p.config.pgMaxRepositories]
  | references => Policy.referenceViolations c.spec

/-- What a family reports is one of its violations. The backups of a cluster are listed and not
referred to, so where the API does not find the listing, that is reported as it is. -/
def Reports (p : Policies) (view : View) (c : DatabaseCluster) (family : CreateFamily)
    (f : Failure) : Prop :=
  f.RejectedFor (family.violations p c) ∨
    family = repositories ∧ f.isNotFound ∧ view (.backups c.space c.name) = .error f

end CreateFamily

namespace Policy

open Check (Decides Judges)
open CreateFamily (Holds Reports)

variable {p : Policies} {view : View} {prober : Prober} {c : DatabaseCluster}

/-! ## Stages -/

theorem judges {α : Type} {check : Check α} (family : CreateFamily)
    (h : Decides view prober check (family.Holds p view c)
      (Failure.RejectedFor (family.violations p c))) :
    Judges view prober check (Holds p view c) (Reports p view c) [family] :=
  (h.mono fun _ hf => .inl hf).judges

theorem nodesAndProxy_judges :
    Judges view prober (nodesAndProxy p c.spec (.ok ())) (Holds p view c) (Reports p view c)
      [.replicas, .resources, .proxy] :=
  .bind (judges .replicas (.rule (Rules.replicas_decides _ _))) fun _ _ =>
  .bind (.pass ()) fun _ _ =>
  .bind (judges .resources (.rule (Rules.resources_decides _ _ _))) fun _ _ =>
  judges .proxy (.rule (Rules.proxy_decides _))

theorem shardingAndBackups_judges {e : DatabaseEngine}
    (he : view (.engine c.space c.spec.engine.engine) = .ok e) :
    Judges view prober (shardingAndBackups p c.spec e) (Holds p view c) (Reports p view c)
      [.sharding, .schedules, .pitr] := by
  refine .bind (judges .sharding (.congr (.rule (Rules.shardingIfEnabled_decides _ _ _)) ?_))
    fun _ _ => .bind (judges .schedules (.rule (Rules.schedules_decides _))) fun _ _ =>
      judges .pitr (.rule (Rules.pitr_decides _))
  constructor
  · intro h e' he'
    rw [he] at he'
    obtain rfl := Except.ok.inj he'
    exact h
  · exact fun h => h e he

theorem recoveryStorage_eq_some {c : ClusterSpec} {name : String} :
    recoveryStorage c = some name ↔ c.engine.engine = .pxc ∧ c.backup.pitr.enabled ∧
      c.backup.pitr.backupStorageName = some name := by
  unfold recoveryStorage
  by_cases h : c.backup.pitr.enabled ∧ c.engine.engine = .pxc
  · simp [h.1, h.2]
  · rw [if_neg h]
    refine iff_of_false nofun fun ⟨hengine, henabled, _⟩ => h ⟨henabled, hengine⟩

theorem storagesFit_iff {space : String} {c : ClusterSpec} :
    StoragesFit view space c ↔ ∀ name ∈ topologyStorages c true,
      ∃ b, StorageUsable view space name b ∧
        (recoveryStorage c = some name → b.spec.storageType = .s3) := by
  have hmem (name : String) : name ∈ topologyStorages c true ↔
      name ≠ "" ∧ (name ∈ c.scheduleStorages ∨
        (c.backup.pitr.enabled ∧ c.backup.pitr.backupStorageName = some name) ∨
        c.sourceStorage = some name) := by
    rw [mem_topologyStorages, ClusterSpec.Needs]
    tauto
  simp only [StoragesFit, hmem, recoveryStorage_eq_some, and_imp]

theorem storageTopology_judges :
    Judges view prober (storageTopology c.space c.spec (Resource.activeStorage c) true)
      (Holds p view c) (Reports p view c) [.binding, .storages] := by
  unfold storageTopology
  refine .ite (fun hengine => judges .binding (.congr
    (.rule (Rules.psmdbStorages_decides _ _)) (imp_iff_right hengine).symm))
    (fun hengine h => absurd h hengine) ?_
  exact judges .storages ((usableStorages_decides _ _).congr storagesFit_iff.symm)

theorem restoreSource_decides (c : ClusterSpec) :
    Rules.Decides (restoreSource c) (∀ d, c.dataSource = some d → Rules.SourceFits d)
      [.dataSourceAmbiguous, .incompleteBackupSource, .unsupportedPitrType, .invalidPitrDate] := by
  unfold restoreSource
  cases c.dataSource with
  | none => exact .congr .pass (by simp)
  | some d => exact (Rules.dataSource_decides d).congr (by simp)

theorem repositoryBudget_judges (hengine : c.spec.engine.engine = .postgresql) :
    Judges view prober (repositoryBudget p c.space c.name c.spec.backup.schedules none)
      (Holds p view c) (Reports p view c) [.repositories] := by
  refine Decides.judges (.mono ((repositoryBudget_decides _ _ _).congr
    (imp_iff_right hengine).symm) fun f hf => ?_)
  exact hf.imp_right fun hmissing => ⟨rfl, hmissing⟩

theorem clusterCreate_judges :
    Judges view prober (clusterCreate p c) (Holds p view c) (Reports p view c)
      CreateFamily.all := by
  unfold clusterCreate
  refine .bind (judges .name (.rule (Rules.shortLabel_decides _ _))) fun _ _ =>
    .bind (judges .engine (installedEngine_decides _)) fun e he => ?_
  obtain ⟨he, -⟩ := installedEngine_eq_ok.1 he
  have hversion : e.Permits c.spec.engine.version ↔ CreateFamily.version.Holds p view c := by
    constructor
    · intro h e' he'
      rw [he] at he'
      obtain rfl := Except.ok.inj he'
      exact h
    · exact fun h => h e he
  exact .bind (judges .version (.rule (.require (Resource.permitsVersion_iff.trans hversion)
      List.mem_cons_self))) fun _ _ =>
    .bind nodesAndProxy_judges fun _ _ => .bind (shardingAndBackups_judges he) fun _ _ =>
    .bind storageTopology_judges fun _ _ => .bind (judges .source (.rule (restoreSource_decides _)))
      fun _ _ => .ite repositoryBudget_judges (fun hengine h => absurd h hengine)
        (judges .references (references_decides _))

end Policy

theorem CreateFamily.mem_all (family : CreateFamily) : family ∈ all := by
  cases family <;> decide

/-- A new cluster passes if and only if every family of rules holds of it. Where it does not pass,
either a read has failed, other than by finding nothing, and its failure is passed on, or what is
reported belongs to the first family in order that does not hold. -/
theorem clusterCreate_exact (p : Policies) (view : View) (prober : Prober) (c : DatabaseCluster) :
    ((Policy.clusterCreate p c).run view prober = .ok () ↔
      ∀ family : CreateFamily, family.Holds p view c) ∧
    ∀ f, (Policy.clusterCreate p c).run view prober = .error f →
      (Policy.clusterCreate p c).Outage view prober f ∨
      ∃ before family after, CreateFamily.all = before ++ family :: after ∧
        (∀ earlier ∈ before, earlier.Holds p view c) ∧ ¬ family.Holds p view c ∧
        family.Reports p view c f := by
  have hjudges : Check.Judges view prober (Policy.clusterCreate p c) (CreateFamily.Holds p view c)
      (CreateFamily.Reports p view c) CreateFamily.all := Policy.clusterCreate_judges
  refine ⟨?_, fun f hrun => hjudges.first_of_error hrun⟩
  constructor
  · exact fun hrun family => hjudges.ok_iff.1 ⟨(), hrun⟩ family family.mem_all
  · intro hall
    obtain ⟨_, hrun⟩ := hjudges.ok_iff.2 fun family _ => hall family
    exact hrun

namespace Sample

/-- A platform on which every operator is installed and nothing else is there. -/
def operatorsOnly : View
  | .engine _ engine =>
    .ok { metadata := {}, spec := { engine }, status := some { status := .installed } }
  | _ => .error (.notFound "")

/-- A small cluster with a count of nodes, and a name of a monitoring instance. -/
def small (replicas : Int32) (monitoring : Option String) : DatabaseCluster where
  metadata := { name := some "orders", space := some "ns" }
  spec :=
    { engine :=
        { engine := .pxc, replicas, storage := { size := "10G" }
          resources := { cpu := some "1", memory := some "2G" } }
      monitoring := some { monitoringConfigName := monitoring } }

end Sample

/-- Of a cluster with an even count of nodes and a monitoring instance that does not exist, the
count of nodes is reported. -/
theorem clusterCreate_exact_of_sample :
    (∀ family : CreateFamily, family.Holds .default Sample.operatorsOnly (Sample.small 3 none)) ∧
    (Policy.clusterCreate .default (Sample.small 2 "pmm")).run Sample.operatorsOnly
      (fun _ => .accepted) = .error (.rejected (.evenReplicas .pxc)) ∧
    ∃ before family after, CreateFamily.all = before ++ family :: after ∧
      (∀ earlier ∈ before,
        earlier.Holds .default Sample.operatorsOnly (Sample.small 2 "pmm")) ∧
      ¬ family.Holds .default Sample.operatorsOnly (Sample.small 2 "pmm") ∧
      family.Reports .default Sample.operatorsOnly (Sample.small 2 "pmm")
        (.rejected (.evenReplicas .pxc)) := by
  have hpasses : (Policy.clusterCreate .default (Sample.small 3 none)).run Sample.operatorsOnly
      (fun _ => .accepted) = .ok () := by
    decide +kernel
  have hfails : (Policy.clusterCreate .default (Sample.small 2 "pmm")).run Sample.operatorsOnly
      (fun _ => .accepted) = .error (.rejected (.evenReplicas .pxc)) := by
    decide +kernel
  refine ⟨(clusterCreate_exact _ _ _ _).1.1 hpasses, hfails, ?_⟩
  refine ((clusterCreate_exact _ _ _ _).2 _ hfails).resolve_left ?_
  rintro ⟨-, r, -, hr⟩
  cases r <;> cases hr

end ClusterAdmission
