import ClusterAdmission.Check
import ClusterAdmission.Version

/-!
# Preflight of operator upgrades

Before an operator is upgraded, every cluster that it manages is told what has to happen first: an
upgrade of its engine, a restart, waiting until it is ready, or nothing. The first of these that
applies counts. Nothing is changed.
-/

namespace ClusterAdmission

/-- What has to happen to a cluster before its operator is upgraded. -/
inductive PendingTask where
  | upgradeEngine
  | restart
  | notReady
  | ready
  deriving DecidableEq, Repr

/-- The task of a cluster, with a message unless there is nothing to do. -/
structure ClusterPreflight where
  name : String
  task : PendingTask
  message : Option String
  deriving DecidableEq, Repr

/-- The operator version that is installed, and the tasks of its clusters. -/
structure Preflight where
  currentVersion : String
  clusters : List ClusterPreflight
  deriving DecidableEq, Repr

namespace PendingTask

/-- The name of a task. -/
def name : PendingTask → String
  | upgradeEngine => "UpgradeEngine"
  | restart => "Restart"
  | notReady => "NotReady"
  | ready => "Ready"

end PendingTask

namespace Preflight

/-- Whether a version is below a minimum; what is no version is below. -/
def isBelow (version minimum : String) : Bool :=
  match Version.parse? version, Version.parse? minimum with
  | some v, some w => v.below w
  | _, _ => true

/-- The version of its resource that an operator recommends to a cluster. -/
def recommendedVersion (c : DatabaseCluster) : Option String :=
  c.status.bind ClusterStatus.recommendedCrdVersion

/-- The task of a cluster under a minimum version of its engine, with its message. -/
def task (minimum : String) (c : DatabaseCluster) : PendingTask × Option String :=
  if isBelow c.spec.engine.version minimum then
    (.upgradeEngine, some ("Upgrade DB version to " ++ minimum))
  else
    match recommendedVersion c with
    | some version => (.restart, some ("Update CRVersion to " ++ version))
    | none =>
      if Resource.runState c ≠ .ready then (.notReady, some "Database is not ready")
      else (.ready, none)

/-- The preflight of one cluster. -/
def classify (minimum : String) (c : DatabaseCluster) : ClusterPreflight :=
  let (task, message) := task minimum c
  { name := c.name, task, message }

/-- The preflight of clusters. -/
def evaluate (current minimum : String) (clusters : List DatabaseCluster) : Preflight where
  currentVersion := current
  clusters := clusters.map (classify minimum)

/-- The oldest engine version that a release of an operator supports, given what a version service
answers: the supported versions, oldest first, or nothing if it failed. -/
def minimum (operator target : String) :
    Option (List String) → Except DependencyFailure String
  | none => .error (.versionsUnavailable operator target)
  | some [] => .error (.noVersions operator target)
  | some (oldest :: _) =>
    if (Version.parse? oldest).isSome then .ok oldest
    else .error (.invalidMinimum oldest operator target)

/-- The preflight of the clusters of an engine in a namespace for an upgrade of its operator. -/
def check (space : String) (engine : EngineType) (target : String)
    (supported : Option (List String)) : Check Preflight := do
  let installed ← Check.get (.engine space engine)
  match minimum engine.operatorName target supported with
  | .error f => .fail (.dependency f)
  | .ok oldest =>
    let clusters ← Check.get (.clusters (some space))
    return evaluate (Resource.operatorVersion installed) oldest
      (clusters.filter fun c => c.spec.engine.engine = engine)

example : isBelow "0.4.9" "0.5.0" ∧ isBelow "custom" "0.5.0" ∧ ¬ isBelow "0.5.0+1" "0.5.0+2" := by
  decide

/-! ## JSON -/

/-- The JSON object of the preflight of a cluster. -/
def clusterJson (c : ClusterPreflight) : Json :=
  .ofFields
    [("message", c.message.map Json.str),
      ("name", some (.str c.name)),
      ("pendingTask", some (.str c.task.name))]

/-- The JSON object of a preflight. -/
def toJson (p : Preflight) : Json :=
  .obj [("currentVersion", .str p.currentVersion), ("databases", .ofList clusterJson p.clusters)]

end Preflight

end ClusterAdmission
