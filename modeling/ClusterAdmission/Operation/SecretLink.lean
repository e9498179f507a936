import ClusterAdmission.Api.Client
import ClusterAdmission.Credentials

/-!
# Resources with a secret

A storage, a monitoring instance and a split-horizon config name a secret of their namespace that
holds their credentials. The two are written together: the secret comes first on creation, and is
taken back if the resource is refused; on an update it is patched before the resource is replaced;
on deletion it goes last.
-/

namespace ClusterAdmission

/-- How the resources of a kind name their secret. Nothing is reported on such resources. -/
structure SecretLink (k : Kind) where
  secretName : k.Spec → String
  withSecretName : String → k.Spec → k.Spec
  secretName_with (name : String) (spec : k.Spec) :
      secretName (withSecretName name spec) = name := by
    intros
    rfl
  unreported (fields : Json.Record) : k.status? fields = some none := by
    intros
    rfl

namespace SecretLink

/-- The secret of a storage. -/
def storage : SecretLink .backupStorage where
  secretName s := s.credentialsSecretName
  withSecretName name s := { s with credentialsSecretName := name }

/-- The secret of a monitoring instance. -/
def monitoring : SecretLink .monitoringConfig where
  secretName m := m.credentialsSecretName
  withSecretName name m := { m with credentialsSecretName := name }

/-- The secret of a split-horizon config. -/
def splitHorizon : SecretLink .splitHorizonDnsConfig where
  secretName c := c.tls.secretName
  withSecretName name c := { c with tls := { c.tls with secretName := name } }

variable {k : Kind} (link : SecretLink k)

/-- A resource that names its secret: the one that it asks for, or else one of its own name. -/
def filled (r : Resource k) : Resource k :=
  if link.secretName r.spec = "" then { r with spec := link.withSecretName r.name r.spec } else r

open Api (Program)

/-- Creates a resource after its secret. A secret whose resource is refused is removed again; the
failure is that of the resource, whether or not the removal succeeds. -/
def create (r : Resource k) (data : SecretData) : Program (Resource k) := do
  let filled := link.filled r
  let secret := link.secretName filled.spec
  Api.createSecret r.space secret data
  let created ← (Api.createResource filled).attempt
  match created with
  | .ok stored => return stored
  | .error f =>
    let _ ← (Api.deleteSecret r.space secret).attempt
    .fail f

/-- Updates a resource: sets texts of its secret, if the update has any for the stored resource,
and replaces the resource. -/
def update (space name : String) (data? : Resource k → Option SecretData)
    (apply : Resource k → Resource k) : Program (Resource k) := do
  let current ← Api.getResource k space name
  match data? current with
  | none => pure ()
  | some data => Api.patchSecret space (link.secretName current.spec) data
  Api.replaceResource space name (apply current)

/-- Deletes a resource and its secret. -/
def delete (space name : String) : Program Unit := do
  let current ← Api.getResource k space name
  Api.deleteResource k space name
  Api.deleteSecret space (link.secretName current.spec)

end SecretLink

end ClusterAdmission
