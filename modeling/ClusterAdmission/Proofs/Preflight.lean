import ClusterAdmission.Preflight
import ClusterAdmission.Proofs.Version.Precedence
import Mathlib.Data.List.Forall2

/-!
# Preflights under a higher minimum

A preflight asks whether an engine is below a minimum, the admission of clusters whether it is at
least a minimum. Each is the opposite of the other (`Preflight.isBelow_eq`), also for texts that are
no versions. What is at least a minimum is at least every lower one
(`Version.atLeast_of_not_below`). So a higher minimum only asks for more upgrades of engines, and
leaves the other entries as they are (`Preflight.evaluate_monotone`).
-/

namespace ClusterAdmission

namespace Version

/-- What is at least a version is at least every version that is not above it. -/
theorem atLeast_of_not_below {version minimum higher : String} {v w : Version}
    (hminimum : parse? minimum = some v) (hhigher : parse? higher = some w)
    (hraised : ¬ w.Below v) (h : atLeast version higher) : atLeast version minimum := by
  obtain ⟨u, w', hu, hw', hatLeast⟩ := atLeast_iff.1 h
  cases hhigher.symm.trans hw'
  have hstep : w.below v = false := Bool.eq_false_iff.2 (mt below_iff.1 hraised)
  exact atLeast_iff.2 ⟨u, v, hu, hminimum, not_below_trans hstep hatLeast⟩

end Version

namespace Preflight

variable {minimum higher : String} {c : DatabaseCluster} {v w : Version}

theorem isBelow_eq (version minimum : String) :
    isBelow version minimum = !Version.atLeast version minimum := by
  unfold isBelow Version.atLeast
  cases Version.parse? version with
  | none => rfl
  | some v =>
    cases Version.parse? minimum with
    | none => rfl
    | some w => exact (Bool.not_not _).symm

/-! ## One cluster -/

theorem classify_eq (minimum : String) (c : DatabaseCluster) :
    classify minimum c = ⟨c.name, (task minimum c).1, (task minimum c).2⟩ := by
  unfold classify
  cases task minimum c
  rfl

/-- The task of a cluster whose engine is at least the minimum, with its message. The minimum is no
part of it. -/
def taskAtMinimum (c : DatabaseCluster) : PendingTask × Option String :=
  match recommendedVersion c with
  | some version => (.restart, some ("Update CRVersion to " ++ version))
  | none =>
    if Resource.runState c ≠ .ready then (.notReady, some "Database is not ready")
    else (.ready, none)

theorem task_eq (minimum : String) (c : DatabaseCluster) :
    task minimum c = if Version.atLeast c.spec.engine.version minimum then taskAtMinimum c
      else (.upgradeEngine, some ("Upgrade DB version to " ++ minimum)) := by
  unfold task taskAtMinimum
  rw [isBelow_eq]
  cases Version.atLeast c.spec.engine.version minimum <;> rfl

theorem taskAtMinimum_ne_upgradeEngine (c : DatabaseCluster) :
    (taskAtMinimum c).1 ≠ .upgradeEngine := by
  unfold taskAtMinimum
  cases recommendedVersion c with
  | some version => nofun
  | none => by_cases hstate : Resource.runState c = .ready <;> simp [hstate]

theorem taskAtMinimum_eq_ready :
    (taskAtMinimum c).1 = .ready ↔ recommendedVersion c = none ∧ Resource.runState c = .ready := by
  unfold taskAtMinimum
  cases recommendedVersion c with
  | some version => simp
  | none => by_cases hstate : Resource.runState c = .ready <;> simp [hstate]

/-- What the entry of a cluster under a minimum means. -/
structure Fits (minimum : String) (c : DatabaseCluster) (e : ClusterPreflight) : Prop where
  name : e.name = c.name
  upgradeEngine : e.task = .upgradeEngine ↔ ¬ Version.atLeast c.spec.engine.version minimum
  ready : e.task = .ready ↔ Version.atLeast c.spec.engine.version minimum ∧
    recommendedVersion c = none ∧ Resource.runState c = .ready

theorem fits_classify (minimum : String) (c : DatabaseCluster) :
    Fits minimum c (classify minimum c) := by
  rw [classify_eq, task_eq]
  by_cases hatLeast : Version.atLeast c.spec.engine.version minimum
  · rw [if_pos hatLeast]
    exact ⟨rfl, iff_of_false (taskAtMinimum_ne_upgradeEngine c) (not_not_intro hatLeast),
      taskAtMinimum_eq_ready.trans (and_iff_right hatLeast).symm⟩
  · rw [if_neg hatLeast]
    exact ⟨rfl, iff_of_true rfl hatLeast, iff_of_false nofun fun h => hatLeast h.1⟩

/-! ## Two minimums -/

/-- What a higher minimum does to the entry of a cluster: it may ask for an upgrade of the engine
instead, and does nothing else. -/
structure Raised (e e' : ClusterPreflight) : Prop where
  upgradeEngine : e.task = .upgradeEngine → e'.task = .upgradeEngine
  unchanged : e'.task ≠ .upgradeEngine → e.task = e'.task ∧ e.message = e'.message
  ready : e'.task = .ready → e.task = .ready

theorem raised_classify (hminimum : Version.parse? minimum = some v)
    (hhigher : Version.parse? higher = some w) (hraised : ¬ w.Below v) (c : DatabaseCluster) :
    Raised (classify minimum c) (classify higher c) := by
  by_cases hatLeast : Version.atLeast c.spec.engine.version higher
  · have hsame : task minimum c = task higher c := by
      rw [task_eq, task_eq, if_pos hatLeast,
        if_pos (Version.atLeast_of_not_below hminimum hhigher hraised hatLeast)]
    have heq : classify minimum c = classify higher c := by rw [classify_eq, classify_eq, hsame]
    rw [heq]
    exact ⟨id, fun _ => ⟨rfl, rfl⟩, id⟩
  · have hupgrade : (classify higher c).task = .upgradeEngine :=
      (fits_classify higher c).upgradeEngine.2 hatLeast
    refine ⟨fun _ => hupgrade, fun hne => absurd hupgrade hne, fun hready => ?_⟩
    cases hupgrade.symm.trans hready

/-- Preflights have one entry for each cluster, and a higher minimum turns entries into upgrades of
engines only. In particular it makes no further cluster ready. -/
theorem evaluate_monotone (hminimum : Version.parse? minimum = some v)
    (hhigher : Version.parse? higher = some w) (hraised : ¬ w.Below v) (current : String)
    (clusters : List DatabaseCluster) :
    List.Forall₂ (Fits minimum) clusters (evaluate current minimum clusters).clusters ∧
    List.Forall₂ (Fits higher) clusters (evaluate current higher clusters).clusters ∧
    List.Forall₂ Raised (evaluate current minimum clusters).clusters
      (evaluate current higher clusters).clusters := by
  have hfits (minimum : String) :
      List.Forall₂ (Fits minimum) clusters (evaluate current minimum clusters).clusters :=
    List.forall₂_map_right_iff.2 (List.forall₂_same.2 fun c _ => fits_classify minimum c)
  refine ⟨hfits minimum, hfits higher, ?_⟩
  rw [evaluate, evaluate, List.forall₂_map_left_iff, List.forall₂_map_right_iff, List.forall₂_same]
  exact fun c _ => raised_classify hminimum hhigher hraised c

namespace Sample

/-- A cluster that is ready, with a version of its engine. -/
def ready (version : String) : DatabaseCluster where
  metadata := { name := some "db", space := some "ns" }
  spec := { engine := { engine := .pxc, version, replicas := 3, storage := { size := "10G" } } }
  status := some { status := .ready }

end Sample

/-- Of three clusters two are ready at 8.0.30 and one at 8.0.36. -/
theorem evaluate_monotone_of_sample :
    (evaluate "1.0" "8.0.30" (["8.0.36", "v8.0.30", ""].map Sample.ready)).clusters.map (·.task) =
      [.ready, .ready, .upgradeEngine] ∧
    (evaluate "1.0" "8.0.36" (["8.0.36", "v8.0.30", ""].map Sample.ready)).clusters.map (·.task) =
      [.ready, .upgradeEngine, .upgradeEngine] ∧
    List.Forall₂ Raised
      (evaluate "1.0" "8.0.30" (["8.0.36", "v8.0.30", ""].map Sample.ready)).clusters
      (evaluate "1.0" "8.0.36" (["8.0.36", "v8.0.30", ""].map Sample.ready)).clusters := by
  have hminimum : Version.parse? "8.0.30" = some ⟨8, 0, 30, [], []⟩ := by decide
  have hhigher : Version.parse? "8.0.36" = some ⟨8, 0, 36, [], []⟩ := by decide
  have hraised : ¬ Version.Below ⟨8, 0, 36, [], []⟩ ⟨8, 0, 30, [], []⟩ := by
    rw [← Version.below_iff]
    decide
  obtain ⟨-, -, h⟩ := evaluate_monotone hminimum hhigher hraised "1.0"
    (["8.0.36", "v8.0.30", ""].map Sample.ready)
  exact ⟨by decide +kernel, by decide +kernel, h⟩

end Preflight

end ClusterAdmission
