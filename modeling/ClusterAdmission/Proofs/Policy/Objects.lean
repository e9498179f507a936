import ClusterAdmission.Policy.Cluster
import ClusterAdmission.Proofs.Check.Decides
import ClusterAdmission.Proofs.Rules.Cluster

/-!
# What clusters need of other objects

The parts of the checks of clusters that look at other objects, each with what it decides: whether
the engine is installed, which storages can be used, whether there are repositories for the backups,
and whether every object that is named exists and fits.
-/

namespace ClusterAdmission

/-! ## Engines -/

namespace Resource

/-- An engine is installed, or about to be. -/
def Installed (e : DatabaseEngine) : Prop :=
  ∃ s : DatabaseEngineStatus, e.status = some s ∧ s.status ≠ .notInstalled

/-- An engine permits a version: the empty one, or one of the allowed versions if there are any, or
else one that is available. -/
def Permits (e : DatabaseEngine) (version : String) : Prop :=
  version = "" ∨
    (e.spec.allowedVersions ≠ [] ∧ version ∈ e.spec.allowedVersions) ∨
    (e.spec.allowedVersions = [] ∧ ∃ s : DatabaseEngineStatus, e.status = some s ∧
      (s.availableVersions.engine.get? version).isSome)

theorem isInstalled_iff {e : DatabaseEngine} : isInstalled e ↔ e.Installed := by
  simp [isInstalled, Installed, Option.any_eq_true]

theorem permitsVersion_iff {e : DatabaseEngine} {version : String} :
    permitsVersion e version ↔ e.Permits version := by
  unfold permitsVersion Permits
  by_cases hempty : version = ""
  · simp [hempty]
  · cases hallowed : e.spec.allowedVersions with
    | nil => simp [hempty, Option.any_eq_true, SortedMap.contains]
    | cons v vs => simp [hempty]

end Resource

namespace Policy

open Check (Decides)

variable {p : Policies} {view : View} {prober : Prober} {space : String}

theorem installedEngine_eq_ok {engine : EngineType} {e : DatabaseEngine} :
    (installedEngine space engine).run view prober = .ok e ↔
      view (.engine space engine) = .ok e ∧ e.Installed := by
  simp only [installedEngine, Check.run_bind_eq_ok, Check.run_require_eq_ok, Check.run_pure,
    Except.ok.injEq, exists_const]
  constructor
  · rintro ⟨_, he, hinstalled, rfl⟩
    exact ⟨Check.run_getReferenced_eq_ok.1 he, Resource.isInstalled_iff.1 hinstalled⟩
  · rintro ⟨he, hinstalled⟩
    exact ⟨e, Check.run_getReferenced_eq_ok.2 he, Resource.isInstalled_iff.2 hinstalled, rfl⟩

theorem installedEngine_decides (engine : EngineType) :
    Decides view prober (installedEngine space engine)
      (∃ e : DatabaseEngine, view (.engine space engine) = .ok e ∧ e.Installed)
      (Failure.RejectedFor [.unsupportedEngine engine]) := by
  unfold installedEngine
  refine .bind_value (.getReferenced _ List.mem_cons_self)
    (fun _ => Check.run_getReferenced_eq_ok) fun e _ => ?_
  refine .congr (.bind (.rule (.require Resource.isInstalled_iff List.mem_cons_self))
    fun _ _ => .pass e) (and_iff_left trivial)

/-! ## Storages -/

/-- A storage exists and allows the namespace. -/
def StorageUsable (view : View) (space name : String) (b : BackupStorage) : Prop :=
  view (.storage space name) = .ok b ∧
    (b.spec.allowedNamespaces = [] ∨ space ∈ b.spec.allowedNamespaces)

theorem usableStorage_decides (name : String) {violations : List Violation}
    (hmissing : .backupStorageNotFound name ∈ violations)
    (hforbidden : .backupStorageNotAllowed name space ∈ violations) :
    Decides view prober (usableStorage space name) (∃ b, StorageUsable view space name b)
      (Failure.RejectedFor violations) := by
  unfold usableStorage
  refine .bind_value (.getReferenced _ hmissing) (fun _ => Check.run_getReferenced_eq_ok)
    fun b _ => ?_
  refine .congr (.bind (.rule (.require Iff.rfl hforbidden)) fun _ _ => .pass b) ?_
  simp [BackupStorageSpec.isAllowedIn]

theorem usableStorage_eq_ok {name : String} {b : BackupStorage} :
    (usableStorage space name).run view prober = .ok b ↔ StorageUsable view space name b := by
  simp only [usableStorage, BackupStorageSpec.isAllowedIn, Check.run_bind_eq_ok,
    Check.run_require_eq_ok, Check.run_pure, Except.ok.injEq, exists_const, Bool.or_eq_true,
    List.isEmpty_iff, List.contains_iff_mem]
  constructor
  · rintro ⟨_, hb, hallowed, rfl⟩
    exact ⟨Check.run_getReferenced_eq_ok.1 hb, hallowed⟩
  · rintro ⟨hb, hallowed⟩
    exact ⟨b, Check.run_getReferenced_eq_ok.2 hb, hallowed, rfl⟩

/-- The violations for storages that cannot be used. -/
def storageViolations (space : String) (names : List String) : List Violation :=
  .pitrRequiresS3 :: names.flatMap fun name =>
    [.backupStorageNotFound name, .backupStorageNotAllowed name space]

theorem usableStorages_decides (recovery : Option String) (names : List String) :
    Decides view prober (usableStorages space recovery names)
      (∀ name ∈ names, ∃ b, StorageUsable view space name b ∧
        (recovery = some name → b.spec.storageType = .s3))
      (Failure.RejectedFor (storageViolations space names)) := by
  induction names with
  | nil => exact .congr (.pass ()) (by simp)
  | cons name rest ih =>
    have hrest : storageViolations space rest ⊆ storageViolations space (name :: rest) := by
      intro w hw
      simp only [storageViolations, List.flatMap_cons, List.mem_cons, List.mem_append] at hw ⊢
      tauto
    unfold usableStorages
    refine .congr (.bind_value
      (Q := fun b => (recovery = some name → b.spec.storageType = .s3) ∧
        ∀ name ∈ rest, ∃ b, StorageUsable view space name b ∧
          (recovery = some name → b.spec.storageType = .s3))
      (usableStorage_decides name ?_ ?_) (fun _ => usableStorage_eq_ok) fun b _ =>
      .bind (.rule (.require ?_ ?_)) fun _ _ => ih.mono fun f hf => hf.mono hrest) ?_
    · simp [storageViolations]
    · simp [storageViolations]
    · simp [imp_iff_not_or]
    · simp [storageViolations]
    · simp only [List.forall_mem_cons, ← and_assoc, exists_and_right]

/-! ## Repositories -/

/-- The schedules and the backups of a cluster, with one in flight, need no more repositories than
there can be. -/
def RepositoriesFit (view : View) (max : Nat) (space owner : String)
    (schedules : List BackupSchedule) (inFlight : Option String) : Prop :=
  ∃ backups : List DatabaseClusterBackup, view (.backups space owner) = .ok backups ∧
    schedules.length ≤ max ∧
    ((schedules.map (·.backupStorageName) ++
      (backups.map (·.spec.backupStorageName) ++ inFlight.toList)).filter
        (· ≠ "")).toFinset.card ≤ max

theorem repositoryBudget_decides (owner : String) (schedules : List BackupSchedule)
    (inFlight : Option String) :
    Decides view prober (repositoryBudget p space owner schedules inFlight)
      (RepositoriesFit view p.config.pgMaxRepositories space owner schedules inFlight)
      fun f => f.RejectedFor [.tooManySchedules p.config.pgMaxRepositories,
        .tooManyRepositories p.config.pgMaxRepositories] ∨
        f.isNotFound ∧ view (.backups space owner) = .error f := by
  unfold repositoryBudget
  refine .bind_value (.get _ fun f hfound hf => .inr ⟨hfound, hf⟩) (fun _ => Check.run_get_eq_ok)
    fun backups _ => ?_
  exact (Decides.rule (Rules.pgRepositories_decides _ _ _)).mono fun f hf => .inl hf

/-! ## References -/

/-- Every object that a cluster names exists and fits. -/
@[mk_iff]
structure ReferencesFit (view : View) (space : String) (c : ClusterSpec) : Prop where
  monitoring (name : String) : monitoringReference c = some name →
    ∃ m : MonitoringConfig, view (.monitoring space name) = .ok m
  loadBalancer (name : String) : loadBalancerReference c = some name →
    ∃ l : LoadBalancerConfig, view (.loadBalancer name) = .ok l
  scheduling (name : String) : schedulingReference c = some name →
    ∃ s : PodSchedulingPolicy, view (.schedulingPolicy name) = .ok s ∧
      s.spec.engineType = c.engine.engine
  splitHorizon (name : String) : splitHorizonReference c = some name →
    c.engine.engine = .psmdb ∧ ∃ h : SplitHorizonDnsConfig, view (.splitHorizon space name) = .ok h

/-- The violations for objects that a cluster names. -/
def referenceViolations (c : ClusterSpec) : List Violation :=
  (monitoringReference c).toList.map .monitoringConfigNotFound ++
  (loadBalancerReference c).toList.map .loadBalancerConfigNotFound ++
  ((schedulingReference c).toList.flatMap fun policy =>
    .podSchedulingPolicyNotFound policy ::
      [EngineType.pxc, .psmdb, .postgresql].map fun expected =>
        .podSchedulingPolicyEngineMismatch policy expected c.engine.engine) ++
  .splitHorizonNotSupported :: (splitHorizonReference c).toList.map .splitHorizonConfigNotFound

theorem exists?_decides (name : Option String) (read : String → Read)
    (missing : String → Violation) :
    Decides view prober (exists? name read missing)
      (∀ n, name = some n → ∃ a, view (read n) = .ok a)
      (Failure.RejectedFor (name.toList.map missing)) := by
  cases name with
  | none => exact .congr (.pass ()) (by simp)
  | some n =>
    refine .congr (.bind (.getReferenced (read n) (by simp)) fun _ _ => .pass ()) ?_
    simp

theorem schedulingPolicyFits_decides (c : ClusterSpec) :
    Decides view prober (schedulingPolicyFits c)
      (∀ name, schedulingReference c = some name →
        ∃ s : PodSchedulingPolicy, view (.schedulingPolicy name) = .ok s ∧
          s.spec.engineType = c.engine.engine)
      (Failure.RejectedFor ((schedulingReference c).toList.flatMap fun policy =>
        .podSchedulingPolicyNotFound policy ::
          [EngineType.pxc, .psmdb, .postgresql].map fun expected =>
            .podSchedulingPolicyEngineMismatch policy expected c.engine.engine)) := by
  unfold schedulingPolicyFits
  cases schedulingReference c with
  | none => exact .congr (.pass ()) (by simp)
  | some name =>
    refine .congr (.bind_value (.getReferenced (.schedulingPolicy name) (by simp))
      (fun _ => Check.run_getReferenced_eq_ok) fun s _ =>
        .rule (.require decide_eq_true_iff ?_)) (by simp)
    cases s.spec.engineType <;> simp

theorem splitHorizonFits_decides (c : ClusterSpec) :
    Decides view prober (splitHorizonFits space c)
      (∀ name, splitHorizonReference c = some name →
        c.engine.engine = .psmdb ∧
          ∃ h : SplitHorizonDnsConfig, view (.splitHorizon space name) = .ok h)
      (Failure.RejectedFor (.splitHorizonNotSupported ::
        (splitHorizonReference c).toList.map .splitHorizonConfigNotFound)) := by
  unfold splitHorizonFits
  cases splitHorizonReference c with
  | none => exact .congr (.pass ()) (by simp)
  | some name =>
    refine .congr (.bind (.rule (.require decide_eq_true_iff (by simp))) fun _ _ =>
      .bind (.getReferenced (.splitHorizon space name) (by simp)) fun _ _ => .pass ()) (by simp)

theorem references_decides (c : ClusterSpec) :
    Decides view prober (references space c) (ReferencesFit view space c)
      (Failure.RejectedFor (referenceViolations c)) := by
  unfold references
  refine .congr (.bind ((exists?_decides _ _ _).mono fun f hf => hf.mono ?_) fun _ _ =>
    .bind ((exists?_decides _ _ _).mono fun f hf => hf.mono ?_) fun _ _ =>
    .bind ((schedulingPolicyFits_decides c).mono fun f hf => hf.mono ?_) fun _ _ =>
    (splitHorizonFits_decides c).mono fun f hf => hf.mono ?_) (referencesFit_iff _ _ _).symm
  · exact fun w hw => List.mem_append_left _ (List.mem_append_left _ (List.mem_append_left _ hw))
  · exact fun w hw => List.mem_append_left _ (List.mem_append_left _ (List.mem_append_right _ hw))
  · exact fun w hw => List.mem_append_left _ (List.mem_append_right _ hw)
  · exact List.subset_append_right _ _

end Policy

end ClusterAdmission
