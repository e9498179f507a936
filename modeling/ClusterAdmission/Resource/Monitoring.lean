import ClusterAdmission.Json

/-!
# Monitoring instances

A monitoring config points clusters at a monitoring server.
-/

namespace ClusterAdmission

/-- The kind of a monitoring server. -/
inductive MonitoringType where
  | pmm
  deriving DecidableEq, Repr, Inhabited

/-- The address of a monitoring server and the image of its client. -/
structure PmmSpec where
  url : String := ""
  image : String := ""
  deriving DecidableEq, Inhabited

/-- What a monitoring config asks for. -/
structure MonitoringConfigSpec where
  monitoringType : MonitoringType
  pmm : PmmSpec := {}
  /-- The secret that holds the credentials. -/
  credentialsSecretName : String
  allowedNamespaces : List String := []
  verifyTls : Option Bool := none
  deriving DecidableEq, Inhabited

namespace MonitoringType

/-- The name of a kind of server. -/
def name : MonitoringType → String
  | pmm => "pmm"

/-- The kinds of servers by name. -/
def table : List (String × MonitoringType) := [(pmm.name, pmm)]

end MonitoringType

namespace PmmSpec

/-- The JSON object of a server. -/
def toJson (p : PmmSpec) : Json :=
  .ofFields [("image", some (.str p.image)), ("url", some (.str p.url))]

/-- Reads a server. -/
def ofJson? (j : Json) : Option PmmSpec := do
  let r ← j.record? ["url", "image"]
  let url ← r.withDefault "url" Json.string? ""
  let image ← r.withDefault "image" Json.string? ""
  return { url, image }

end PmmSpec

namespace MonitoringConfigSpec

/-- The JSON object of a monitoring config. -/
def toJson (m : MonitoringConfigSpec) : Json :=
  .ofFields
    [("allowedNamespaces", Json.nonemptyList Json.str m.allowedNamespaces),
      ("credentialsSecretName", some (.str m.credentialsSecretName)),
      ("pmm", some m.pmm.toJson),
      ("type", some (.str m.monitoringType.name)),
      ("verifyTLS", m.verifyTls.map Json.bool)]

/-- Reads a monitoring config. -/
def ofJson? (j : Json) : Option MonitoringConfigSpec := do
  let r ← j.record? ["type", "pmm", "credentialsSecretName", "allowedNamespaces", "verifyTLS"]
  let monitoringType ← r.required "type" (Json.tag? MonitoringType.table)
  let pmm ← r.withDefault "pmm" PmmSpec.ofJson? {}
  let credentialsSecretName ← r.required "credentialsSecretName" Json.string?
  let allowedNamespaces ← r.withDefault "allowedNamespaces" (Json.list? Json.string?) []
  let verifyTls ← r.optional "verifyTLS" Json.bool?
  return { monitoringType, pmm, credentialsSecretName, allowedNamespaces, verifyTls }

end MonitoringConfigSpec

end ClusterAdmission
