import ClusterAdmission.Proofs.Policy.Creation
import ClusterAdmission.Proofs.Policy.Strict

/-!
# Updates that change nothing

A cluster that has passed a check, new or updated, passes another one as an update of itself, if it
agrees with itself in the two ways that updates look at (`Policy.ClusterPasses.clusterUpdate_iff`):
schedules of one name have one storage, and schedules name the active storage only. Between the two
checks other objects may be added (`Policy.ClusterPasses.extend`).
-/

namespace ClusterAdmission

/-- Schedules of a PostgreSQL cluster that share a name share a storage. -/
def ClusterSpec.SchedulesAgree (c : ClusterSpec) : Prop :=
  c.engine.engine = .postgresql → ∀ s ∈ c.backup.schedules, ∀ s' ∈ c.backup.schedules,
    s.name = s'.name → s.backupStorageName = s'.backupStorageName

/-- The schedules of a MongoDB cluster name the storage that it is bound to, if any. -/
def Resource.BindingAgrees (c : DatabaseCluster) : Prop :=
  c.spec.engine.engine = .psmdb → ∀ a, Resource.activeStorage c = some a →
    ∀ s ∈ c.spec.backup.schedules, s.backupStorageName ≠ "" → s.backupStorageName = a

namespace Rules

/-- Every schedule keeps the storage of the first old one of its name. -/
theorem scheduleStorages_eq_ok {old new : List BackupSchedule} :
    scheduleStorages old new = .ok () ↔ ∀ s ∈ new, ∀ o,
      old.find? (fun o => o.name = s.name) = some o →
        o.backupStorageName = s.backupStorageName := by
  induction new with
  | nil => simp [scheduleStorages]
  | cons s rest ih =>
    simp only [scheduleStorages, bind_eq_ok, require_eq_ok, ih, List.forall_mem_cons,
      Option.all_eq_true, decide_eq_true_eq]

theorem scheduleStorages_self {schedules : List BackupSchedule} :
    scheduleStorages schedules schedules = .ok () ↔ ∀ s ∈ schedules, ∀ s' ∈ schedules,
      s.name = s'.name → s.backupStorageName = s'.backupStorageName := by
  rw [scheduleStorages_eq_ok]
  constructor
  · intro h
    -- Both have the storage of the first schedule of their name.
    have hfirst (s : BackupSchedule) (hs : s ∈ schedules) : ∃ o,
        schedules.find? (fun o => o.name = s.name) = some o ∧
          o.backupStorageName = s.backupStorageName := by
      obtain ⟨o, ho⟩ : ∃ o, schedules.find? (fun o => o.name = s.name) = some o :=
        Option.isSome_iff_exists.1 (List.find?_isSome.2 ⟨s, hs, decide_eq_true rfl⟩)
      exact ⟨o, ho, h s hs o ho⟩
    intro s hs s' hs' hname
    obtain ⟨o, ho, hstorage⟩ := hfirst s hs
    obtain ⟨o', ho', hstorage'⟩ := hfirst s' hs'
    rw [hname, ho'] at ho
    obtain rfl := Option.some.inj ho
    rw [← hstorage, hstorage']
  · intro h s hs o ho
    exact h o (List.mem_of_find?_eq_some ho) s hs (by simpa using List.find?_some ho)

theorem scaleDown_self (e : EngineSpec) : scaleDown e e = .ok () := by
  rw [scaleDown, require_eq_ok]
  by_cases hone : e.replicas.toInt = 1 <;> simp [hone]

theorem shardingChange_self (c : ClusterSpec) : shardingChange c c = .ok () := by
  cases hsharded : c.shardingEnabled <;> simp [shardingChange, hsharded]

end Rules

namespace Policy

variable {p : Policies} {view view' : View} {prober prober' : Prober} {c c' : DatabaseCluster}

/-! ## Later views -/

/-- What has passed for a cluster passes again where more is answered of other objects. -/
theorem ClusterPasses.extend (h : ClusterPasses p view prober c)
    (hext : view.Extends Read.OfOthers view') (hspace : c'.space = c.space)
    (hname : c'.name = c.name) (hspec : c'.spec = c.spec) : ClusterPasses p view' prober' c' := by
  obtain ⟨⟨between, hnodes⟩, ⟨engine, hengine, hbackups⟩, ⟨active, withSource, hstorages⟩, hbudget,
    hnamed⟩ := h
  rw [← hspec] at hnodes hengine hbackups hstorages hbudget hnamed
  rw [← hspace] at hengine hstorages hbudget hnamed
  rw [← hname] at hbudget
  have hothers (r : Read) (hr : r.OfOthers) :
      Check.Step.IsRead Read.OfOthers (.read r r.missing) := hr
  have hobject (r : Read) (hr : r.OfObject) := hothers r hr.ofOthers
  exact
    { nodes := ⟨between, strict_nodesAndProxy.run_of_extends hext hnodes⟩
      backups := ⟨engine, (strict_installedEngine hobject).run_of_extends hext hengine,
        strict_shardingAndBackups.run_of_extends hext hbackups⟩
      storages :=
        ⟨active, withSource, (strict_storageTopology hobject).run_of_extends hext hstorages⟩
      budget := fun hpostgresql =>
        (strict_repositoryBudget hothers).run_of_extends hext (hbudget hpostgresql)
      named := (strict_references hobject).run_of_extends hext hnamed }

/-! ## Comparison with itself -/

theorem clusterCreate_holds (h : (clusterCreate p c).run view prober = .ok ())
    (family : CreateFamily) : family.Holds p view c :=
  clusterCreate_judges.ok_iff.1 ⟨(), h⟩ family family.mem_all

theorem ClusterPasses.singleStorage (h : ClusterPasses p view prober c)
    (hengine : c.spec.engine.engine = .psmdb) : Rules.SingleStorage c.spec.backup.schedules :=
  h.wellFormed.single_storage hengine

/-- What has passed for a new or updated cluster passes for an update, but for the storage that the
cluster is bound to. -/
theorem ClusterPasses.storageTopology_iff (h : ClusterPasses p view prober c) :
    (storageTopology c.space c.spec (Resource.activeStorage c) false).run view prober = .ok () ↔
      c.BindingAgrees := by
  have husable : (usableStorages c.space (recoveryStorage c.spec)
      (topologyStorages c.spec false)).run view prober = .ok () := by
    have hall (name : String) (hname : name ∈ topologyStorages c.spec false) :
        ∃ b, StorageUsable view c.space name b ∧
          (recoveryStorage c.spec = some name → b.spec.storageType = .s3) := by
      rcases mem_topologyStorages.1 hname with hneeds | ⟨-, hsource, -⟩
      · exact h.storage hneeds
      · cases hsource
    obtain ⟨_, hrun⟩ := (usableStorages_decides (recoveryStorage c.spec) _).ok_iff.2 hall
    exact hrun
  unfold storageTopology Resource.BindingAgrees
  by_cases hengine : c.spec.engine.engine = .psmdb
  · simp only [hengine, ↓reduceIte, Check.run_bind_eq_ok, Check.run_rule_eq_ok, husable,
      exists_const, and_true, true_imp_iff]
    rw [(Rules.psmdbStorages_decides _ _).ok_iff, and_iff_right (h.singleStorage hengine)]
  · simp only [hengine, ↓reduceIte, husable, false_imp_iff]

/-- A cluster that passes fits an update of itself exactly if it agrees with itself. -/
theorem ClusterPasses.clusterUpdate_iff (h : ClusterPasses p view prober c)
    (hstored : view (.cluster c.space c.name) = .ok c) :
    (clusterUpdate p c).run view prober = .ok () ↔
      c.spec.SchedulesAgree ∧ c.BindingAgrees := by
  rw [← h.storageTopology_iff, clusterUpdate_eq_ok]
  constructor
  · rintro ⟨old, hold, engine, -, -, -, -, -, hstorages, hpostgresql, -⟩
    rw [hstored] at hold
    obtain rfl := Except.ok.inj hold
    exact ⟨fun hengine => Rules.scheduleStorages_self.1 (hpostgresql hengine).1, hstorages⟩
  · rintro ⟨hschedules, hstorages⟩
    obtain ⟨between, hnodes⟩ := h.nodes
    obtain ⟨engine, hengine, hbackups⟩ := h.backups
    have hnodes' : (nodesAndProxy p c.spec (Rules.scaleDown c.spec.engine c.spec.engine)).run view
        prober = .ok () := by
      simp only [nodesAndProxy, Check.run_then_eq_ok, Check.run_rule_eq_ok] at hnodes ⊢
      exact ⟨hnodes.1, Rules.scaleDown_self _, hnodes.2.2⟩
    have hversion :
        (versionChange engine c.spec.engine c.spec.engine).run view prober = .ok () := by
      rw [versionChange, if_pos rfl, Check.run_pure]
    exact ⟨c, hstored, engine, hengine, hversion, hnodes', Rules.shardingChange_self c.spec,
      hbackups, hstorages, fun hpostgresql =>
        ⟨Rules.scheduleStorages_self.2 (hschedules hpostgresql), h.budget hpostgresql⟩, h.named⟩

end Policy

end ClusterAdmission
