import ClusterAdmission.Proofs.Rules.Cluster

/-!
# Well-formed clusters

New and updated clusters pass different lists of rules, which share those that matter here
(`Policy.ClusterPasses`), and so a cluster of either is well formed
(`Policy.ClusterPasses.wellFormed`).
-/

namespace ClusterAdmission

/-- A cluster that is in order by itself, without a look at other objects. -/
structure ClusterSpec.WellFormed (config : PolicyConfig) (c : ClusterSpec) : Prop where
  replicas_nonneg : 0 ≤ c.engine.replicas.toInt
  replicas_odd : c.engine.engine ≠ .postgresql →
    c.engine.replicas.toInt = 0 ∨ c.engine.replicas.toInt % 2 = 1
  replicas_max : c.engine.engine = .pxc → c.engine.replicas.toInt ≤ config.pxcMaxReplicas
  proxy_type (t : ProxyType) : c.proxy.proxyType = some t → c.engine.engine.supportsProxy t
  proxy_replicas_nonneg (n : Int32) : c.proxy.replicas = some n → 0 ≤ n.toInt
  proxy_replicas_pxc (n : Int32) : c.proxy.replicas = some n → c.engine.engine = .pxc →
    1 < c.engine.replicas.toInt → 2 ≤ n.toInt
  sharding_engine (s : ShardingSpec) : c.sharding = some s → s.enabled → c.engine.engine = .psmdb
  sharding_shards (s : ShardingSpec) : c.sharding = some s → s.enabled → 1 ≤ s.shards.toInt
  config_servers_odd (s : ShardingSpec) : c.sharding = some s → s.enabled →
    s.configServer.replicas.toInt % 2 = 1
  config_servers_min (s : ShardingSpec) : c.sharding = some s → s.enabled →
    (if c.engine.replicas.toInt = 1 then 1 else 3) ≤ s.configServer.replicas.toInt
  schedule_names (s : BackupSchedule) : s ∈ c.backup.schedules → Text.trimmed s.name ≠ ""
  schedule_crons : (c.backup.schedules.map (·.schedule)).Nodup
  schedule_storages (s : BackupSchedule) : s ∈ c.backup.schedules → s.enabled →
    s.backupStorageName ≠ ""
  backups_scheduled : c.backup.enabled → c.backup.schedules ≠ []
  pitr_interval (n : Int32) : c.backup.pitr.enabled → c.backup.pitr.uploadIntervalSec = some n →
    0 < n.toInt
  pitr_storage : c.backup.pitr.enabled → c.engine.engine = .pxc →
    ∃ name, c.backup.pitr.backupStorageName = some name ∧ name ≠ ""
  /-- A MongoDB cluster backs up to one storage at most. -/
  single_storage : c.engine.engine = .psmdb →
    ∀ s ∈ c.backup.schedules, s.backupStorageName ≠ "" →
      ∀ s' ∈ c.backup.schedules, s'.backupStorageName ≠ "" →
        s.backupStorageName = s'.backupStorageName
  load_balancer (name : String) : c.proxy.expose.loadBalancerConfigName = some name →
    Text.trimmed name ≠ "" → c.proxy.expose.exposeType = .loadBalancer

/-! ## Clusters that pass -/

namespace Policy

variable {p : Policies} {view : View} {prober : Prober}

/-- The checks that new and updated clusters share have passed. -/
structure ClusterPasses (p : Policies) (view : View) (prober : Prober) (c : DatabaseCluster) :
    Prop where
  nodes : ∃ between, (nodesAndProxy p c.spec between).run view prober = .ok ()
  backups : ∃ engine, (installedEngine c.space c.spec.engine.engine).run view prober = .ok engine ∧
    (shardingAndBackups p c.spec engine).run view prober = .ok ()
  storages : ∃ active withSource,
    (storageTopology c.space c.spec active withSource).run view prober = .ok ()
  budget : c.spec.engine.engine = .postgresql →
    (repositoryBudget p c.space c.name c.spec.backup.schedules none).run view prober = .ok ()
  named : (references c.space c.spec).run view prober = .ok ()

theorem ClusterPasses.of_create {c : DatabaseCluster}
    (h : (clusterCreate p c).run view prober = .ok ()) : ClusterPasses p view prober c := by
  simp only [clusterCreate, Check.run_bind_eq_ok] at h
  obtain ⟨_, -, engine, hengine, _, -, _, hnodes, _, hbackups, _, hstorages, _, -, hrest⟩ := h
  split at hrest
  · obtain ⟨_, hbudget, hreferences⟩ := Check.run_bind_eq_ok.1 hrest
    exact ⟨⟨_, hnodes⟩, ⟨_, hengine, hbackups⟩, ⟨_, _, hstorages⟩, fun _ => hbudget,
      hreferences⟩
  · next hother =>
    exact ⟨⟨_, hnodes⟩, ⟨_, hengine, hbackups⟩, ⟨_, _, hstorages⟩,
      fun h => absurd h hother, hrest⟩

/-- An update passes exactly if it passes each of its steps, the stored cluster being there. -/
theorem clusterUpdate_eq_ok {c : DatabaseCluster} :
    (clusterUpdate p c).run view prober = .ok () ↔
      ∃ old : DatabaseCluster, view (.cluster c.space c.name) = .ok old ∧
      ∃ engine, (installedEngine c.space c.spec.engine.engine).run view prober = .ok engine ∧
        (versionChange engine old.spec.engine c.spec.engine).run view prober = .ok () ∧
        (nodesAndProxy p c.spec (Rules.scaleDown old.spec.engine c.spec.engine)).run view prober =
          .ok () ∧
        Rules.shardingChange old.spec c.spec = .ok () ∧
        (shardingAndBackups p c.spec engine).run view prober = .ok () ∧
        (storageTopology c.space c.spec (Resource.activeStorage old) false).run view prober =
          .ok () ∧
        (c.spec.engine.engine = .postgresql →
          Rules.scheduleStorages old.spec.backup.schedules c.spec.backup.schedules = .ok () ∧
          (repositoryBudget p c.space c.name c.spec.backup.schedules none).run view prober =
            .ok ()) ∧
        (references c.space c.spec).run view prober = .ok () := by
  rw [clusterUpdate, Check.run_bind_eq_ok]
  refine exists_congr fun old => and_congr Check.run_get_eq_ok ?_
  rw [Check.run_bind_eq_ok]
  refine exists_congr fun engine => and_congr_right fun _ => ?_
  by_cases hengine : c.spec.engine.engine = .postgresql
  · simp only [hengine, ↓reduceIte, Check.run_then_eq_ok, Check.run_rule_eq_ok, and_assoc,
      true_imp_iff]
  · simp only [hengine, ↓reduceIte, Check.run_then_eq_ok, Check.run_rule_eq_ok, false_imp_iff,
      true_and]

theorem ClusterPasses.of_update {c : DatabaseCluster}
    (h : (clusterUpdate p c).run view prober = .ok ()) : ClusterPasses p view prober c := by
  obtain ⟨old, -, engine, hengine, -, hnodes, -, hbackups, hstorages, hpostgresql, hreferences⟩ :=
    clusterUpdate_eq_ok.1 h
  exact ⟨⟨_, hnodes⟩, ⟨engine, hengine, hbackups⟩, ⟨_, _, hstorages⟩,
    fun hengine => (hpostgresql hengine).2, hreferences⟩

/-- A cluster that passes is well formed. -/
theorem ClusterPasses.wellFormed {c : DatabaseCluster} (h : ClusterPasses p view prober c) :
    c.spec.WellFormed p.config := by
  obtain ⟨between, hnodes⟩ := h.nodes
  obtain ⟨engine, -, hbackups⟩ := h.backups
  obtain ⟨active, withSource, hstorages⟩ := h.storages
  simp only [nodesAndProxy, Check.run_bind_eq_ok, Check.run_rule_eq_ok, exists_const] at hnodes
  obtain ⟨hreplicas, -, -, hproxy⟩ := hnodes
  simp only [shardingAndBackups, Check.run_bind_eq_ok, Check.run_rule_eq_ok, exists_const]
    at hbackups
  obtain ⟨hsharding, hschedules, hpitr⟩ := hbackups
  obtain ⟨hnonneg, hodd, hmax⟩ := (Rules.replicas_decides _ _).ok_iff.1 hreplicas
  have hfits := (Rules.proxy_decides _).ok_iff.1 hproxy
  have hsharded := (Rules.shardingIfEnabled_decides _ _ _).ok_iff.1 hsharding
  obtain ⟨hscheduled, hinOrder⟩ := (Rules.schedules_decides _).ok_iff.1 hschedules
  have hrecovery := (Rules.pitr_decides _).ok_iff.1 hpitr
  refine
    { replicas_nonneg := hnonneg
      replicas_odd := hodd
      replicas_max := hmax
      proxy_type := hfits.type
      proxy_replicas_nonneg := fun n hn => (hfits.replicas n hn).1
      proxy_replicas_pxc := fun n hn => (hfits.replicas n hn).2
      sharding_engine := fun s hs henabled => (hsharded s hs henabled).engine
      sharding_shards := fun s hs henabled => (hsharded s hs henabled).shards
      config_servers_odd := fun s hs henabled => (hsharded s hs henabled).servers_odd
      config_servers_min := fun s hs henabled => (hsharded s hs henabled).servers_min
      schedule_names := hinOrder.names
      schedule_crons := hinOrder.distinct
      schedule_storages := hinOrder.storages
      backups_scheduled := hscheduled
      pitr_interval := fun n henabled => (hrecovery henabled).2 n
      pitr_storage := fun henabled => (hrecovery henabled).1
      single_storage := ?_
      load_balancer := hfits.loadBalancer }
  intro hengine
  simp only [storageTopology, hengine, ↓reduceIte, Check.run_bind_eq_ok, Check.run_rule_eq_ok,
    exists_const] at hstorages
  exact ((Rules.psmdbStorages_decides _ _).ok_iff.1 hstorages.1).1

end Policy

end ClusterAdmission
