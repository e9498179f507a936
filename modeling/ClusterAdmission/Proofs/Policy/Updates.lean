import ClusterAdmission.Proofs.Policy.WellFormed
import ClusterAdmission.Proofs.Rules.Upgrade

/-!
# What an update keeps

An update is compared with the stored cluster, and nothing older than that is known to it
(`Policy.UpdatePasses`). Between two versions that are both there it does not go down
(`Policy.UpdatePasses.version_kept`), and several nodes do not become one
(`Policy.UpdatePasses.several_nodes`).
-/

namespace ClusterAdmission

/-! ## Versions -/

/-- What a change from a version keeps: the new one can be read as well and is not below, and only a
MongoDB cluster moves to another major version. -/
def KeepsVersion (engine : EngineType) (v : Version) (text : String) : Prop :=
  ∃ w, Version.parse? text = some w ∧ w.below v = false ∧
    (engine ≠ .psmdb → w.major = v.major)

theorem KeepsVersion.self {engine : EngineType} {v : Version} {text : String}
    (hv : Version.parse? text = some v) : KeepsVersion engine v text :=
  ⟨v, hv, v.not_below_self, fun _ => rfl⟩

theorem KeepsVersion.trans {engine : EngineType} {u v : Version} {text : String}
    (hbelow : v.below u = false) (hmajor : engine ≠ .psmdb → v.major = u.major)
    (h : KeepsVersion engine v text) : KeepsVersion engine u text := by
  obtain ⟨w, hw, hwv, hmajor'⟩ := h
  exact ⟨w, hw, Version.not_below_trans hbelow hwv, fun hengine =>
    (hmajor' hengine).trans (hmajor hengine)⟩

namespace Rules

theorem upgrade_eq_ok {engine : EngineType} {old new : String} {v : Version}
    (h : upgrade engine old new = .ok ()) (hv : Version.parse? old = some v) (hnew : new ≠ "") :
    KeepsVersion engine v new := by
  by_cases hsame : old = new
  · rw [← hsame]
    exact .self hv
  have hold : old ≠ "" := by
    rintro rfl
    cases hv
  cases hw : Version.parse? new with
  | none =>
    rw [upgrade_of_invalid_new hold hnew hsame hv hw] at h
    cases h
  | some w =>
    obtain ⟨hbelow, hmajor⟩ := (upgrade_eq_ok_iff hv hw).1 h
    refine ⟨w, hw, hbelow, fun hengine => ?_⟩
    -- The major version neither rises nor falls.
    rw [maxMajorRise_eq_zero hengine] at hmajor
    exact UInt64.le_antisymm (UInt64.le_iff_toNat_le.2 hmajor)
      (Version.major_le_of_not_below hbelow)

theorem scaleDown_eq_ok {old new : EngineSpec} :
    scaleDown old new = .ok () ↔ (1 < old.replicas.toInt → new.replicas.toInt ≠ 1) := by
  simp only [scaleDown, require_eq_ok, Bool.not_and, Bool.or_eq_true, Bool.not_eq_eq_eq_not,
    Bool.not_true, decide_eq_false_iff_not, imp_iff_not_or, ne_eq]

end Rules

/-! ## Updates that pass -/

namespace Policy

variable {p : Policies} {view : View} {prober : Prober}

/-- What an update to `new` has passed, compared with the stored cluster `old`. -/
structure UpdatePasses (p : Policies) (old new : ClusterSpec) : Prop where
  version : new.engine.version = old.engine.version ∨
    Rules.upgrade new.engine.engine old.engine.version new.engine.version = .ok ()
  replicas : Rules.replicas new.engine p.config.pxcMaxReplicas = .ok ()
  scaleDown : Rules.scaleDown old.engine new.engine = .ok ()
  sharding : Rules.shardingChange old new = .ok ()
  schedules : new.engine.engine = .postgresql →
    Rules.scheduleStorages old.backup.schedules new.backup.schedules = .ok ()

theorem versionChange_eq_ok {engine : DatabaseEngine} {old new : EngineSpec}
    (h : (versionChange engine old new).run view prober = .ok ()) :
    new.version = old.version ∨ Rules.upgrade new.engine old.version new.version = .ok () := by
  unfold versionChange at h
  split at h
  · next hsame => exact .inl hsame
  · obtain ⟨_, hupgrade, -⟩ := Check.run_bind_eq_ok.1 h
    exact .inr (Check.run_rule_eq_ok.1 hupgrade)

theorem clusterUpdate_ok {c : DatabaseCluster}
    (h : (clusterUpdate p c).run view prober = .ok ()) :
    ∃ old : DatabaseCluster, view (.cluster c.space c.name) = .ok old ∧
      UpdatePasses p old.spec c.spec := by
  obtain ⟨old, hold, engine, -, hversion, hnodes, hsharding, -, -, hpostgresql, -⟩ :=
    clusterUpdate_eq_ok.1 h
  simp only [nodesAndProxy, Check.run_then_eq_ok, Check.run_rule_eq_ok] at hnodes
  obtain ⟨hreplicas, hscale, -⟩ := hnodes
  exact ⟨old, hold, versionChange_eq_ok hversion, hreplicas, hscale, hsharding,
    fun hengine => (hpostgresql hengine).1⟩

namespace UpdatePasses

variable {old new : ClusterSpec}

theorem version_kept (h : UpdatePasses p old new) {v : Version}
    (hv : Version.parse? old.engine.version = some v) (hnew : new.engine.version ≠ "") :
    KeepsVersion new.engine.engine v new.engine.version := by
  rcases h.version with hsame | hupgrade
  · rw [hsame]
    exact .self hv
  · exact Rules.upgrade_eq_ok hupgrade hv hnew

/-- Of several nodes there stay several, or none. -/
theorem several_nodes (h : UpdatePasses p old new) (hold : 1 < old.engine.replicas.toInt) :
    1 < new.engine.replicas.toInt ∨ new.engine.replicas.toInt = 0 := by
  have hnonneg := ((Rules.replicas_decides _ _).ok_iff.1 h.replicas).1
  have hone := Rules.scaleDown_eq_ok.1 h.scaleDown hold
  omega

end UpdatePasses

end Policy

end ClusterAdmission
