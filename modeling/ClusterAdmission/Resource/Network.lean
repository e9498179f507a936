import ClusterAdmission.Json

/-!
# Load balancer configs and split-horizon DNS configs
-/

namespace ClusterAdmission

/-- The annotations that a load balancer service gets. -/
structure LoadBalancerConfigSpec where
  annotations : SortedMap String String := .empty
  deriving DecidableEq, Inhabited

/-- The certificates of a split-horizon config. -/
structure SplitHorizonTls where
  /-- The secret that holds the certificate authority. -/
  secretName : String
  deriving DecidableEq, Inhabited

/-- The external names of the members of a replica set. -/
structure SplitHorizonDnsConfigSpec where
  /-- The domain after the generated names of members. -/
  baseDomainNameSuffix : String
  tls : SplitHorizonTls
  deriving DecidableEq, Inhabited

namespace LoadBalancerConfigSpec

/-- The JSON object of a load balancer config. -/
def toJson (c : LoadBalancerConfigSpec) : Json :=
  .ofFields [("annotations", Json.nonemptyMap Json.str c.annotations)]

/-- Reads a load balancer config. -/
def ofJson? (j : Json) : Option LoadBalancerConfigSpec := do
  let r ← j.record? ["annotations"]
  let annotations ← r.withDefault "annotations" (Json.map? Json.string?) .empty
  return { annotations }

end LoadBalancerConfigSpec

namespace SplitHorizonTls

/-- The JSON object of the certificates. -/
def toJson (t : SplitHorizonTls) : Json := .ofFields [("secretName", some (.str t.secretName))]

/-- Reads the certificates. -/
def ofJson? (j : Json) : Option SplitHorizonTls := do
  let r ← j.record? ["secretName"]
  let secretName ← r.required "secretName" Json.string?
  return { secretName }

end SplitHorizonTls

namespace SplitHorizonDnsConfigSpec

/-- The JSON object of a split-horizon config. -/
def toJson (c : SplitHorizonDnsConfigSpec) : Json :=
  .ofFields
    [("baseDomainNameSuffix", some (.str c.baseDomainNameSuffix)), ("tls", some c.tls.toJson)]

/-- Reads a split-horizon config. -/
def ofJson? (j : Json) : Option SplitHorizonDnsConfigSpec := do
  let r ← j.record? ["baseDomainNameSuffix", "tls"]
  let baseDomainNameSuffix ← r.required "baseDomainNameSuffix" Json.string?
  let tls ← r.required "tls" SplitHorizonTls.ofJson?
  return { baseDomainNameSuffix, tls }

end SplitHorizonDnsConfigSpec

end ClusterAdmission
