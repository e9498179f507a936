import ClusterAdmission.Policy.Platform
import ClusterAdmission.Proofs.Policy.Objects
import ClusterAdmission.Proofs.Policy.WellFormed

/-!
# What checks find out about other objects

A cluster that passes has been shown the storages, the monitoring instance and the scheduling policy
that it refers to. A deletion of a monitoring instance or a scheduling policy that passes has been
shown that no cluster refers to it, and an update of a scheduling policy that the engine stays.
-/

namespace ClusterAdmission

/-- The storages that a cluster works with: those of its schedules, and the one of recovery while
that is switched on. -/
def ClusterSpec.Needs (c : ClusterSpec) (name : String) : Prop :=
  name ≠ "" ∧ (name ∈ c.scheduleStorages ∨
    c.backup.pitr.enabled ∧ c.backup.pitr.backupStorageName = some name)

/-- The name of the monitoring instance of a cluster, as it is written. -/
def ClusterSpec.writtenMonitoring (c : ClusterSpec) : Option String :=
  c.monitoring.bind (·.monitoringConfigName)

namespace Policy

variable {p : Policies} {view : View} {prober : Prober} {c : DatabaseCluster}

/-! ## Storages -/

theorem mem_topologyStorages {c : ClusterSpec} {name : String} {withSource : Bool} :
    name ∈ topologyStorages c withSource ↔
      c.Needs name ∨ name ≠ "" ∧ withSource ∧ c.sourceStorage = some name := by
  rw [topologyStorages, Rules.mem_namedStorages]
  cases withSource <;> cases henabled : c.backup.pitr.enabled <;>
    simp [ClusterSpec.Needs, henabled] <;> tauto

/-- Whatever a cluster works with blocks a deletion. -/
theorem mem_referencedStorages {c : ClusterSpec} {name : String} (h : c.Needs name) :
    name ∈ c.referencedStorages := by
  obtain ⟨hne, hneeds⟩ := h
  refine List.mem_filter.2 ⟨?_, by simpa using hne⟩
  rcases hneeds with hschedule | ⟨-, hpitr⟩
  · exact List.mem_append_left _ (List.mem_append_left _ hschedule)
  · refine List.mem_append_left _ (List.mem_append_right _ ?_)
    rw [hpitr]
    exact List.mem_singleton_self name

theorem ClusterPasses.storage (h : ClusterPasses p view prober c) {name : String}
    (hname : c.spec.Needs name) :
    ∃ s : BackupStorage, StorageUsable view c.space name s ∧
      (recoveryStorage c.spec = some name → s.spec.storageType = .s3) := by
  obtain ⟨active, withSource, hstorages⟩ := h.storages
  have hmem : name ∈ topologyStorages c.spec withSource := mem_topologyStorages.2 (.inl hname)
  have husable : (usableStorages c.space (recoveryStorage c.spec)
      (topologyStorages c.spec withSource)).run view prober = .ok () := by
    unfold storageTopology at hstorages
    split at hstorages
    · obtain ⟨_, -, husable⟩ := Check.run_bind_eq_ok.1 hstorages
      exact husable
    · exact hstorages
  exact (usableStorages_decides _ _).ok_iff.1 ⟨(), husable⟩ name hmem

/-! ## Monitoring instances and scheduling policies -/

theorem ClusterPasses.references (h : ClusterPasses p view prober c) :
    ReferencesFit view c.space c.spec :=
  (references_decides c.spec).ok_iff.1 ⟨(), h.named⟩

theorem monitoringDelete_ok {space name : String}
    (h : (monitoringDelete space name).run view prober = .ok ()) :
    ∃ clusters : List DatabaseCluster, view (.clusters (some space)) = .ok clusters ∧
      ∀ c ∈ clusters, c.spec.writtenMonitoring ≠ some name := by
  simp only [monitoringDelete, isMonitoringUsed, Check.run_bind_eq_ok, Check.run_pure,
    Except.ok.injEq, Check.run_require_eq_ok, Bool.not_eq_eq_eq_not, Bool.not_true,
    exists_eq_right, List.any_eq_false, beq_iff_eq] at h
  obtain ⟨clusters, hclusters, hunused⟩ := h
  exact ⟨clusters, Check.run_get_eq_ok.1 hclusters, hunused⟩

theorem schedulingPolicyUpdate_ok {s : PodSchedulingPolicy}
    (h : (schedulingPolicyUpdate s).run view prober = .ok ()) :
    ∃ current : PodSchedulingPolicy, view (.schedulingPolicy s.name) = .ok current ∧
      current.spec.engineType = s.spec.engineType := by
  simp only [schedulingPolicyUpdate, Check.run_bind_eq_ok, Check.run_require_eq_ok,
    Bool.not_eq_eq_eq_not, Bool.not_true, decide_eq_true_eq, Check.run_rule_eq_ok, exists_const]
    at h
  obtain ⟨current, hcurrent, -, htype, -⟩ := h
  exact ⟨current, Check.run_get_eq_ok.1 hcurrent, htype⟩

theorem schedulingPolicyDelete_ok {name : String}
    (h : (schedulingPolicyDelete name).run view prober = .ok ()) :
    ∃ clusters : List DatabaseCluster, view (.clusters none) = .ok clusters ∧
      ∀ c ∈ clusters, c.spec.podSchedulingPolicyName ≠ some name := by
  simp only [schedulingPolicyDelete, isSchedulingPolicyUsed, Check.run_bind_eq_ok,
    Check.run_require_eq_ok, Bool.not_eq_eq_eq_not, Bool.not_true, Check.run_pure, Except.ok.injEq,
    exists_eq_right, List.any_eq_false, beq_iff_eq, exists_const] at h
  obtain ⟨current, -, -, clusters, hclusters, hunused⟩ := h
  exact ⟨clusters, Check.run_get_eq_ok.1 hclusters, hunused⟩

theorem run_monitoringDelete {space name : String} {clusters : List DatabaseCluster}
    (h : view (.clusters (some space)) = .ok clusters) :
    (monitoringDelete space name).run view prober =
      if ∃ c ∈ clusters, c.spec.writtenMonitoring = some name then
        .error (.rejected (.monitoringConfigInUse name))
      else .ok () := by
  have hget : (Check.get (.clusters (some space))).run view prober = .ok clusters :=
    Check.run_get_eq_ok.2 h
  simp only [monitoringDelete, isMonitoringUsed, Check.run_bind, hget, Check.run_pure,
    Check.run_require]
  by_cases hused : ∃ c ∈ clusters, c.spec.writtenMonitoring = some name
  · rw [if_pos hused, if_neg (by simpa [ClusterSpec.writtenMonitoring] using hused)]
  · rw [if_neg hused, if_pos (by simpa [ClusterSpec.writtenMonitoring] using hused)]

theorem run_schedulingPolicyDelete {name : String} {clusters : List DatabaseCluster}
    {current : PodSchedulingPolicy}
    (hcurrent : view (.schedulingPolicy name) = .ok current)
    (hown : Resource.isDefaultPolicy current = false) (h : view (.clusters none) = .ok clusters) :
    (schedulingPolicyDelete name).run view prober =
      if ∃ c ∈ clusters, c.spec.podSchedulingPolicyName = some name then
        .error (.rejected (.podSchedulingPolicyInUse name))
      else .ok () := by
  have hget : (Check.get (.clusters none)).run view prober = .ok clusters :=
    Check.run_get_eq_ok.2 h
  have hread : (Check.get (.schedulingPolicy name)).run view prober = .ok current :=
    Check.run_get_eq_ok.2 hcurrent
  simp only [schedulingPolicyDelete, isSchedulingPolicyUsed, Check.run_bind, hget, hread, hown,
    Check.run_pure, Check.run_require, Bool.not_false, if_true]
  by_cases hused : ∃ c ∈ clusters, c.spec.podSchedulingPolicyName = some name
  · rw [if_pos hused, if_neg (by simpa using hused)]
  · rw [if_neg hused, if_pos (by simpa using hused)]

end Policy

end ClusterAdmission
