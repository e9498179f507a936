import ClusterAdmission.Policy.Cluster
import ClusterAdmission.Proofs.Rules.RecoveryDate
import ClusterAdmission.Proofs.Version.Precedence
import Mathlib.Data.Finset.Card
import Mathlib.Tactic.MkIffOfInductiveProp

/-!
# What the rules for clusters decide

Each rule for clusters with the property that it stands for and the violations that it names. The
rules on storages count distinct names, which is told here by sets (`Rules.length_namedStorages`).
-/

namespace ClusterAdmission.Rules

/-! ## Nodes and resources -/

theorem replicas_decides (e : EngineSpec) (max : Int) :
    Decides (replicas e max)
      (0 ≤ e.replicas.toInt ∧
        (e.engine ≠ .postgresql → e.replicas.toInt = 0 ∨ e.replicas.toInt % 2 = 1) ∧
        (e.engine = .pxc → e.replicas.toInt ≤ max))
      [.negativeReplicas, .evenReplicas e.engine, .tooManyReplicas e.engine max] := by
  unfold replicas
  refine .bind (.require (by simp) (by simp)) fun _ => ?_
  cases hengine : e.engine with
  | pxc =>
    refine .congr (.bind (.require decide_eq_true_iff (by simp))
      fun _ => .require decide_eq_true_iff (by simp)) ?_
    simp
  | psmdb => exact .congr (.require decide_eq_true_iff (by simp)) (by simp)
  | postgresql => exact .congr .pass (by simp)

/-- A text is a quantity that is not below a floor. -/
def AtLeast (floor : Binary64) (text : String) : Prop :=
  ∃ x, Quantity.valueOf? text = some x ∧ x.lt floor = false

theorem quantity_eq_ok {text : String} {x : Binary64} :
    quantity text = .ok x ↔ Quantity.valueOf? text = some x := by
  unfold quantity
  cases Quantity.valueOf? text with
  | none => simp
  | some y => simp

theorem quantity_eq_error {text : String} {w : Violation} (h : quantity text = .error w) :
    w = .invalidQuantity text := by
  unfold quantity at h
  cases hvalue : Quantity.valueOf? text with
  | none =>
    rw [hvalue] at h
    exact (Except.error.inj h).symm
  | some y =>
    rw [hvalue] at h
    cases h

theorem atLeastFloor_decides {text : String} {floor : Binary64} {w : Violation}
    {violations : List Violation} (htext : .invalidQuantity text ∈ violations)
    (hw : w ∈ violations) :
    Decides (atLeastFloor text floor w) (AtLeast floor text) violations := by
  refine .bind_value (fun _ => quantity_eq_ok) (fun _ herror => ?_) fun x _ =>
    .require (by simp) hw
  rw [quantity_eq_error herror]
  exact htext

theorem nonblank?_eq_some {text : Option String} {name : String} :
    Text.nonblank? text = some name ↔
      ∃ raw, text = some raw ∧ Text.trimmed raw = name ∧ name ≠ "" := by
  cases text with
  | none => simp [Text.nonblank?]
  | some raw =>
    simp only [Text.nonblank?, Option.map_some, Option.filter_eq_some_iff, Option.some.injEq,
      Bool.not_eq_true', String.isEmpty_eq_false_iff]
    constructor
    · rintro ⟨rfl, hne⟩
      exact ⟨raw, rfl, rfl, hne⟩
    · rintro ⟨_, rfl, rfl, hne⟩
      exact ⟨rfl, hne⟩

theorem forall_nonblank? {text : Option String} {P : Prop} :
    (∀ name, Text.nonblank? text = some name → P) ↔
      ∀ raw, text = some raw → Text.trimmed raw ≠ "" → P := by
  constructor
  · exact fun h raw hraw hne => h _ (nonblank?_eq_some.2 ⟨raw, hraw, rfl, hne⟩)
  · intro h name hname
    obtain ⟨raw, hraw, rfl, hne⟩ := nonblank?_eq_some.1 hname
    exact h raw hraw hne

/-- CPU, memory and the size of the volume are given, and none is below its floor. -/
structure Sized (e : EngineSpec) (floors : ResourceFloors) : Prop where
  cpu : ∃ text, Text.nonblank? e.resources.cpu = some text ∧ AtLeast floors.cpu text
  memory : ∃ text, Text.nonblank? e.resources.memory = some text ∧ AtLeast floors.memory text
  volume : Text.trimmed e.storage.size ≠ "" ∧
    AtLeast floors.storage (Text.trimmed e.storage.size)

/-- The violations of the rule on resources. -/
def sizeViolations (e : EngineSpec) (config : PolicyConfig) : List Violation :=
  [.resourcesMissing, .cpuMissing, .memoryMissing, .storageMissing,
    .cpuBelowMinimum config.minCpu, .memoryBelowMinimum config.minMemory,
    .storageBelowMinimum config.minStorage] ++
  (e.resources.cpu.toList ++ e.resources.memory.toList ++ [e.storage.size]).map
    fun text => .invalidQuantity (Text.trimmed text)

theorem computeGiven_eq_ok {c : ComputeSpec} {given : String × String} :
    computeGiven c = .ok given ↔
      Text.nonblank? c.cpu = some given.1 ∧ Text.nonblank? c.memory = some given.2 := by
  unfold computeGiven
  cases Text.nonblank? c.cpu with
  | none => cases Text.nonblank? c.memory <;> simp
  | some cpu =>
    cases Text.nonblank? c.memory with
    | none => simp
    | some memory => simp [Prod.ext_iff]

theorem computeGiven_eq_error {c : ComputeSpec} {w : Violation} (h : computeGiven c = .error w) :
    w = .resourcesMissing ∨ w = .cpuMissing ∨ w = .memoryMissing := by
  unfold computeGiven at h
  split at h
  · cases h
    exact .inl rfl
  · cases h
    exact .inr (.inl rfl)
  · cases h
    exact .inr (.inr rfl)
  · cases h

theorem invalidQuantity_mem {e : EngineSpec} {config : PolicyConfig} {text : Option String}
    {name : String} (h : Text.nonblank? text = some name)
    (htext : text = e.resources.cpu ∨ text = e.resources.memory) :
    .invalidQuantity name ∈ sizeViolations e config := by
  obtain ⟨raw, hraw, rfl, -⟩ := nonblank?_eq_some.1 h
  refine List.mem_append_right _ (List.mem_map_of_mem (List.mem_append_left _ ?_))
  rcases htext with rfl | rfl
  · exact List.mem_append_left _ (Option.mem_toList.2 hraw)
  · exact List.mem_append_right _ (Option.mem_toList.2 hraw)

theorem resources_decides (e : EngineSpec) (config : PolicyConfig) (floors : ResourceFloors) :
    Decides (resources e config floors) (Sized e floors) (sizeViolations e config) := by
  unfold resources
  refine .congr (.bind_value
    (R := fun given => AtLeast floors.cpu given.1 ∧ AtLeast floors.memory given.2 ∧
      Text.trimmed e.storage.size ≠ "" ∧ AtLeast floors.storage (Text.trimmed e.storage.size))
    (fun _ => computeGiven_eq_ok) (fun w herror => ?_) ?_) ?_
  · rcases computeGiven_eq_error herror with rfl | rfl | rfl <;> simp [sizeViolations]
  · rintro ⟨cpu, memory⟩ ⟨hcpu, hmemory⟩
    refine .bind (atLeastFloor_decides (invalidQuantity_mem hcpu (.inl rfl)) ?_) fun _ =>
      .bind (atLeastFloor_decides (invalidQuantity_mem hmemory (.inr rfl)) ?_) fun _ =>
      .bind (.require (by simp) ?_) fun _ => atLeastFloor_decides ?_ ?_
    all_goals simp [sizeViolations]
  · constructor
    · rintro ⟨⟨cpu, memory⟩, ⟨hcpu, hmemory⟩, hcpuLeast, hmemoryLeast, hvolume⟩
      exact ⟨⟨cpu, hcpu, hcpuLeast⟩, ⟨memory, hmemory, hmemoryLeast⟩, hvolume⟩
    · rintro ⟨⟨cpu, hcpu, hcpuLeast⟩, ⟨memory, hmemory, hmemoryLeast⟩, hvolume⟩
      exact ⟨(cpu, memory), ⟨hcpu, hmemory⟩, hcpuLeast, hmemoryLeast, hvolume⟩

/-! ## Proxy -/

/-- The proxy fits the engine, and a load balancer config goes with exposure by one. -/
@[mk_iff]
structure ProxyFits (c : ClusterSpec) : Prop where
  type (t : ProxyType) : c.proxy.proxyType = some t → c.engine.engine.supportsProxy t
  replicas (n : Int32) : c.proxy.replicas = some n →
    0 ≤ n.toInt ∧ (c.engine.engine = .pxc → 1 < c.engine.replicas.toInt → 2 ≤ n.toInt)
  loadBalancer (name : String) : c.proxy.expose.loadBalancerConfigName = some name →
    Text.trimmed name ≠ "" → c.proxy.expose.exposeType = .loadBalancer

/-- The violations of the rule on proxies. -/
def proxyViolations (c : ClusterSpec) : List Violation :=
  [.negativeReplicas, .insufficientProxyReplicas, .loadBalancerConfigRequiresLoadBalancer] ++
    c.proxy.proxyType.toList.map (.unsupportedProxy c.engine.engine)

theorem proxyType_decides (engine : EngineType) (chosen : Option ProxyType) :
    Decides (proxyType engine chosen) (∀ t, chosen = some t → engine.supportsProxy t)
      (chosen.toList.map (.unsupportedProxy engine)) := by
  cases chosen with
  | none => exact .congr .pass (by simp)
  | some t => exact .congr (.require Iff.rfl (by simp)) (by simp)

theorem proxyReplicas_decides (e : EngineSpec) (chosen : Option Int32) :
    Decides (proxyReplicas e chosen)
      (∀ n, chosen = some n →
        0 ≤ n.toInt ∧ (e.engine = .pxc → 1 < e.replicas.toInt → 2 ≤ n.toInt))
      [.negativeReplicas, .insufficientProxyReplicas] := by
  cases chosen with
  | none => exact .congr .pass (by simp)
  | some n =>
    refine .congr (.bind (.require decide_eq_true_iff (by simp)) fun _ =>
      .require (P := e.engine = .pxc → 1 < e.replicas.toInt → 2 ≤ n.toInt) ?_ (by simp)) (by simp)
    rw [imp_iff_not_or, imp_iff_not_or, ← or_assoc]
    simp only [Bool.not_and, Bool.or_eq_true, Bool.not_eq_eq_eq_not, Bool.not_true,
      decide_eq_false_iff_not, Int.not_lt]

theorem exposure_decides (e : ExposeSpec) :
    Decides (exposure e)
      (∀ name, e.loadBalancerConfigName = some name → Text.trimmed name ≠ "" →
        e.exposeType = .loadBalancer)
      [.loadBalancerConfigRequiresLoadBalancer] := by
  refine .require ?_ (by simp)
  rw [← forall_nonblank?]
  cases Text.nonblank? e.loadBalancerConfigName with
  | none => simp
  | some name => simp

theorem proxy_decides (c : ClusterSpec) :
    Decides (proxy c) (ProxyFits c) (proxyViolations c) := by
  unfold proxy
  refine .congr (.bind ((proxyType_decides _ _).mono (List.subset_append_right _ _)) fun _ =>
    .bind ((proxyReplicas_decides _ _).mono (by simp [proxyViolations])) fun _ =>
    (exposure_decides _).mono (by simp [proxyViolations])) (proxyFits_iff c).symm

/-! ## Sharding -/

/-- An engine can be sharded as a specification says, under an operator of a version. -/
@[mk_iff]
structure ShardsFit (e : EngineSpec) (s : ShardingSpec) (operatorVersion minimum : String) :
    Prop where
  engine : e.engine = .psmdb
  operator : ∃ v m, Version.parse? operatorVersion = some v ∧ Version.parse? minimum = some m ∧
    v.below m = false
  shards : 1 ≤ s.shards.toInt
  servers_odd : s.configServer.replicas.toInt % 2 = 1
  servers_min : (if e.replicas.toInt = 1 then 1 else 3) ≤ s.configServer.replicas.toInt

/-- The violations of the rule on sharding. -/
def shardingViolations (e : EngineSpec) (minimum : String) : List Violation :=
  [.shardingNotSupported e.engine, .shardingVersionTooOld minimum, .insufficientShards,
    .evenConfigServers, .insufficientConfigServers (minConfigServers e)]

theorem sharding_decides (e : EngineSpec) (s : ShardingSpec) (operatorVersion minimum : String) :
    Decides (sharding e s operatorVersion minimum) (ShardsFit e s operatorVersion minimum)
      (shardingViolations e minimum) := by
  unfold sharding
  refine .congr (.bind (.require decide_eq_true_iff (by simp [shardingViolations])) fun _ =>
    .bind (.require Version.atLeast_iff (by simp [shardingViolations])) fun _ =>
    .bind (.require decide_eq_true_iff (by simp [shardingViolations])) fun _ =>
    .bind (.require (P := s.configServer.replicas.toInt % 2 = 1) ?_ (by simp [shardingViolations]))
      fun _ => .require decide_eq_true_iff (by simp [shardingViolations]))
    (shardsFit_iff _ _ _ _).symm
  rw [decide_eq_true_iff]
  omega

theorem shardingIfEnabled_decides (c : ClusterSpec) (operatorVersion minimum : String) :
    Decides (shardingIfEnabled c operatorVersion minimum)
      (∀ s, c.sharding = some s → s.enabled → ShardsFit c.engine s operatorVersion minimum)
      (shardingViolations c.engine minimum) := by
  unfold shardingIfEnabled
  cases hfilter : c.sharding.filter (·.enabled) with
  | none =>
    refine .congr .pass ⟨fun _ s hs henabled => ?_, fun _ => trivial⟩
    simp [hs, henabled] at hfilter
  | some s =>
    obtain ⟨hs, henabled⟩ := Option.filter_eq_some_iff.1 hfilter
    refine (sharding_decides c.engine s operatorVersion minimum).congr ⟨fun h s' hs' _ => ?_,
      fun h => h s hs henabled⟩
    rw [hs] at hs'
    obtain rfl := Option.some.inj hs'
    exact h

/-! ## Backups -/

/-- Schedules are in order, given the cron expressions of those before them. -/
structure SchedulesFit (seen : List String) (schedules : List BackupSchedule) : Prop where
  names (s : BackupSchedule) : s ∈ schedules → Text.trimmed s.name ≠ ""
  storages (s : BackupSchedule) : s ∈ schedules → s.enabled → s.backupStorageName ≠ ""
  fresh (s : BackupSchedule) : s ∈ schedules → s.schedule ∉ seen
  distinct : (schedules.map (·.schedule)).Nodup

theorem schedulesFit_cons {seen : List String} {s : BackupSchedule} {rest : List BackupSchedule} :
    SchedulesFit seen (s :: rest) ↔ Text.trimmed s.name ≠ "" ∧
      (s.enabled → s.backupStorageName ≠ "") ∧ s.schedule ∉ seen ∧
      SchedulesFit (s.schedule :: seen) rest := by
  constructor
  · rintro ⟨hnames, hstorages, hfresh, hdistinct⟩
    obtain ⟨hhere, hnodup⟩ := List.nodup_cons.1 hdistinct
    refine ⟨hnames s List.mem_cons_self, hstorages s List.mem_cons_self,
      hfresh s List.mem_cons_self, fun t ht => hnames t (List.mem_cons_of_mem s ht),
      fun t ht => hstorages t (List.mem_cons_of_mem s ht), fun t ht hseen => ?_, hnodup⟩
    rcases List.mem_cons.1 hseen with heq | hseen
    · exact hhere (List.mem_map.2 ⟨t, ht, heq⟩)
    · exact hfresh t (List.mem_cons_of_mem s ht) hseen
  · rintro ⟨hname, hstorage, hfresh, hrest⟩
    refine ⟨List.forall_mem_cons.2 ⟨hname, hrest.names⟩,
      List.forall_mem_cons.2 ⟨hstorage, hrest.storages⟩,
      List.forall_mem_cons.2 ⟨hfresh, fun t ht hseen =>
        hrest.fresh t ht (List.mem_cons_of_mem _ hseen)⟩,
      List.nodup_cons.2 ⟨fun hmem => ?_, hrest.distinct⟩⟩
    obtain ⟨t, ht, heq⟩ := List.mem_map.1 hmem
    exact hrest.fresh t ht (heq ▸ List.mem_cons_self)

/-- The violations of the rule on schedules. -/
def scheduleViolations (schedules : List BackupSchedule) : List Violation :=
  [.noBackupSchedules, .emptyScheduleName] ++
    (schedules.map fun s => .emptyScheduleStorage s.name) ++
    schedules.map fun s => .duplicateSchedule s.schedule

theorem schedulesAfter_decides (seen : List String) (schedules : List BackupSchedule) :
    Decides (schedulesAfter seen schedules) (SchedulesFit seen schedules)
      (scheduleViolations schedules) := by
  -- Over the schedules, for any expressions seen before: the rest is checked against one more.
  induction schedules generalizing seen with
  | nil => exact .congr .pass ⟨fun _ => ⟨by simp, by simp, by simp, by simp⟩, fun _ => trivial⟩
  | cons s rest ih =>
    have hrest : scheduleViolations rest ⊆ scheduleViolations (s :: rest) := by
      intro w
      simp only [scheduleViolations, List.map_cons, List.mem_append, List.mem_cons]
      tauto
    unfold schedulesAfter
    refine .congr (.bind (.require (P := Text.trimmed s.name ≠ "") (by simp) ?_) fun _ =>
      .bind (.require (P := s.enabled → s.backupStorageName ≠ "") ?_ ?_) fun _ =>
      .bind (.require (P := s.schedule ∉ seen) (by simp) ?_) fun _ => (ih _).mono hrest)
      schedulesFit_cons.symm
    · simp [scheduleViolations]
    · simp [imp_iff_not_or]
    · simp [scheduleViolations]
    · simp [scheduleViolations]

theorem schedules_decides (b : BackupSpec) :
    Decides (schedules b) ((b.enabled → b.schedules ≠ []) ∧ SchedulesFit [] b.schedules)
      (scheduleViolations b.schedules) := by
  refine .bind (.require ?_ ?_) fun _ => schedulesAfter_decides [] b.schedules
  · simp [imp_iff_not_or]
  · simp [scheduleViolations]

theorem pitr_decides (c : ClusterSpec) :
    Decides (pitr c)
      (c.backup.pitr.enabled →
        (c.engine.engine = .pxc → ∃ name, c.backup.pitr.backupStorageName = some name ∧ name ≠ "") ∧
          ∀ n, c.backup.pitr.uploadIntervalSec = some n → 0 < n.toInt)
      [.pitrStorageRequired, .invalidUploadInterval] := by
  unfold pitr
  by_cases henabled : c.backup.pitr.enabled
  · rw [if_neg (by simpa using henabled)]
    refine .congr (.bind (.require ?_ (by simp)) fun _ => .require ?_ (by simp))
      (imp_iff_right henabled).symm
    · simp [imp_iff_not_or, Option.any_eq_true]
    · simp [Option.all_eq_true]
  · rw [if_pos (by simpa using henabled)]
    exact .congr .pass (by simp [henabled])

/-! ## Storages -/

theorem nodup_namedStorages (names : List String) : (namedStorages names).Nodup := by
  refine List.pairwise_map.2 (List.Pairwise.imp ?_ (SortedMap.sorted _))
  rintro ⟨a, _⟩ ⟨_, _⟩ hlt rfl
  have hself : compare a a = .eq := Std.ReflCmp.compare_self
  rw [hself] at hlt
  cases hlt

theorem mem_namedStorages {names : List String} {name : String} :
    name ∈ namedStorages names ↔ name ∈ names ∧ name ≠ "" := by
  rw [namedStorages, SortedMap.mem_distinct, List.mem_filter, decide_eq_true_iff]

theorem length_namedStorages (names : List String) :
    (namedStorages names).length = (names.filter (· ≠ "")).toFinset.card := by
  rw [← List.toFinset_card_of_nodup (nodup_namedStorages names)]
  congr 1
  ext name
  simp [mem_namedStorages]

/-- The schedules use one storage at most. -/
def SingleStorage (schedules : List BackupSchedule) : Prop :=
  ∀ s ∈ schedules, s.backupStorageName ≠ "" → ∀ s' ∈ schedules, s'.backupStorageName ≠ "" →
    s.backupStorageName = s'.backupStorageName

theorem length_namedStorages_le_one {schedules : List BackupSchedule} :
    (namedStorages (schedules.map (·.backupStorageName))).length ≤ 1 ↔
      SingleStorage schedules := by
  rw [length_namedStorages, Finset.card_le_one]
  simp only [List.mem_toFinset, List.mem_filter, List.mem_map, decide_eq_true_eq]
  constructor
  · intro h s hs hne s' hs' hne'
    exact h _ ⟨⟨s, hs, rfl⟩, hne⟩ _ ⟨⟨s', hs', rfl⟩, hne'⟩
  · rintro h _ ⟨⟨s, hs, rfl⟩, hne⟩ _ ⟨⟨s', hs', rfl⟩, hne'⟩
    exact h s hs hne s' hs' hne'

theorem psmdbStorages_decides (schedules : List BackupSchedule) (active : Option String) :
    Decides (psmdbStorages schedules active)
      (SingleStorage schedules ∧ ∀ a, active = some a →
        ∀ s ∈ schedules, s.backupStorageName ≠ "" → s.backupStorageName = a)
      (.multipleStorages :: active.toList.map .activeStorageMismatch) := by
  unfold psmdbStorages
  refine .bind (.require ?_ (by simp)) fun _ => ?_
  · rw [decide_eq_true_iff]
    exact length_namedStorages_le_one
  cases active with
  | none => exact .congr .pass (by simp)
  | some a =>
    refine .require ?_ (by simp)
    simp only [List.all_eq_true, mem_namedStorages, List.mem_map, decide_eq_true_eq]
    constructor
    · rintro h _ ⟨⟩ s hs hne
      exact h _ ⟨⟨s, hs, rfl⟩, hne⟩
    · rintro h _ ⟨⟨s, hs, rfl⟩, hne⟩
      exact h a rfl s hs hne

theorem pgRepositories_decides (schedules : List BackupSchedule) (others : List String)
    (max : Nat) :
    Decides (pgRepositories schedules others max)
      (schedules.length ≤ max ∧
        ((schedules.map (·.backupStorageName) ++ others).filter (· ≠ "")).toFinset.card ≤ max)
      [.tooManySchedules max, .tooManyRepositories max] := by
  refine .bind (.require decide_eq_true_iff (by simp)) fun _ => .require ?_ (by simp)
  rw [decide_eq_true_iff, length_namedStorages]

/-! ## Restore source -/

/-- A source names either a backup or a place on a storage, and only a date to recover to. -/
@[mk_iff]
structure SourceFits (d : DataSource) : Prop where
  one : (∃ name, d.dbClusterBackupName = some name ∧ name ≠ "") ↔ d.backupSource = none
  place (s : BackupSource) : d.backupSource = some s → s.backupStorageName ≠ "" ∧ s.path ≠ ""
  date (p : PitrSelector) : d.pitr = some p →
    p.pitrType = .date ∧ RecoveryDate (p.date.getD "").toList

theorem dataSource_decides (d : DataSource) :
    Decides (dataSource d) (SourceFits d)
      [.dataSourceAmbiguous, .incompleteBackupSource, .unsupportedPitrType, .invalidPitrDate] := by
  have hfits : SourceFits d ↔
      ((d.dbClusterBackupName.any (· ≠ "") = true ↔ d.backupSource = none) ∧
        ∀ s, d.backupSource = some s → s.backupStorageName ≠ "" ∧ s.path ≠ "") ∧
      ∀ p, d.pitr = some p → p.pitrType = .date ∧ RecoveryDate (p.date.getD "").toList := by
    have hnamed : d.dbClusterBackupName.any (· ≠ "") = true ↔
        ∃ name, d.dbClusterBackupName = some name ∧ name ≠ "" := by
      simp [Option.any_eq_true]
    rw [hnamed, sourceFits_iff, and_assoc]
  unfold dataSource
  extract_lets rest
  have hrest : Decides (rest ())
      (∀ p, d.pitr = some p → p.pitrType = .date ∧ RecoveryDate (p.date.getD "").toList)
      [.dataSourceAmbiguous, .incompleteBackupSource, .unsupportedPitrType, .invalidPitrDate] := by
    unfold rest
    cases d.pitr with
    | none => exact .congr .pass (by simp)
    | some p =>
      refine .congr (.bind (.require decide_eq_true_iff (by simp)) fun _ =>
        (pitrDate_decides _).mono (by simp)) (by simp)
  refine .congr ?_ hfits.symm
  cases d.dbClusterBackupName.any (· ≠ "") with
  | false =>
    cases d.backupSource with
    | none => exact ⟨⟨nofun, by simp⟩, fun herror => by cases herror; simp⟩
    | some s => exact .bind (.congr (.require (P := s.backupStorageName ≠ "" ∧ s.path ≠ "")
        (by simp) (by simp)) (by simp)) fun _ => hrest
  | true =>
    cases d.backupSource with
    | none => exact .bind (.congr .pass (by simp)) fun _ => hrest
    | some s => exact ⟨⟨nofun, by simp⟩, fun herror => by cases herror; simp⟩

end ClusterAdmission.Rules
