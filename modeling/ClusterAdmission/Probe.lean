import ClusterAdmission.Endpoint
import ClusterAdmission.Resource

/-!
# Probes

A probe asks whether a storage can be used with credentials. It is accepted, fails with an account
of the provider, or is not over in time. The probe of an endpoint only connects to it.
-/

namespace ClusterAdmission

/-- A probe of a storage with credentials. -/
structure ProbeCall where
  storage : BackupStorage
  credentials : StorageCredentials
  deriving DecidableEq

/-- Why a probe fails. -/
inductive ProbeError where
  | endpoint (e : EndpointError)
  /-- The account of the network. -/
  | unreachable (cause : String)
  /-- The account of the provider. -/
  | rejected (detail : String)
  deriving DecidableEq, Repr

namespace ProbeError

/-- The message of an error. -/
def message : ProbeError → String
  | endpoint e => e.message
  | unreachable cause => "storage endpoint unreachable: " ++ cause
  | rejected detail => "storage rejected the probe: " ++ detail

end ProbeError

/-- How a probe ends. -/
inductive ProbeOutcome where
  | accepted
  | failed (e : ProbeError)
  /-- The probe is not over in time. -/
  | late
  deriving DecidableEq, Repr

/-- Whether the storage can be used. -/
def ProbeOutcome.isAccepted : ProbeOutcome → Bool
  | accepted => true
  | failed _ | late => false

/-- The outcomes of all probes. -/
abbrev Prober := ProbeCall → ProbeOutcome

/-- The probe of an endpoint: what its connections come to. -/
def Prober.ofConnections (connect : Endpoint → ProbeOutcome) : Prober := fun call =>
  match Endpoint.ofStorage call.storage.spec call.credentials with
  | .ok endpoint => connect endpoint
  | .error e => .failed (.endpoint e)

end ClusterAdmission
