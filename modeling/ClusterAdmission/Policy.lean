import ClusterAdmission.Check
import ClusterAdmission.Config

/-!
# Policies

The settings with their floors, and the reads that several policies share: the installed engine, a
storage that a namespace may use, and whether clusters refer to an object.
-/

namespace ClusterAdmission

/-- The settings of the policies together with the floors that they denote. -/
structure Policies where
  config : PolicyConfig
  floors : ResourceFloors
  floors_eq : config.floors = .ok floors

namespace Policies

/-- The policies under settings; the minimums must be quantities. -/
def ofConfig (config : PolicyConfig) : Except Failure Policies :=
  match h : config.floors with
  | .ok floors => .ok ⟨config, floors, h⟩
  | .error f => .error f

/-- The policies under the settings that hold where none are given. -/
def default : Policies := (ofConfig {}).toOption.get (by decide +kernel)

instance : Inhabited Policies := ⟨default⟩

end Policies

namespace Policy

/-- The engine of a type in a namespace, which must be installed. -/
def installedEngine (space : String) (engine : EngineType) : Check DatabaseEngine := do
  let e ← Check.getReferenced (.engine space engine) (.unsupportedEngine engine)
  Check.require (Resource.isInstalled e) (.unsupportedEngine engine)
  return e

/-- A storage that exists and allows the namespace. -/
def usableStorage (space name : String) : Check BackupStorage := do
  let s ← Check.getReferenced (.storage space name) (.backupStorageNotFound name)
  Check.require (s.spec.isAllowedIn space) (.backupStorageNotAllowed name space)
  return s

/-- Whether a cluster of a namespace refers to a storage. -/
def isStorageUsed (space name : String) : Check Bool := do
  let clusters ← Check.get (.clusters (some space))
  return clusters.any fun c => c.spec.referencedStorages.contains name

/-- Whether a cluster of a namespace names a monitoring instance. -/
def isMonitoringUsed (space name : String) : Check Bool := do
  let clusters ← Check.get (.clusters (some space))
  return clusters.any fun c =>
    (c.spec.monitoring.bind (·.monitoringConfigName)) == some name

/-- Whether a cluster of any namespace names a scheduling policy. -/
def isSchedulingPolicyUsed (name : String) : Check Bool := do
  let clusters ← Check.get (.clusters none)
  return clusters.any fun c => c.spec.podSchedulingPolicyName == some name

end Policy

end ClusterAdmission
