import ClusterAdmission.Engine
import ClusterAdmission.Resource.Affinity

/-!
# Pod scheduling policies

A policy carries the affinity rules for the pods of the clusters of one engine.
-/

namespace ClusterAdmission

/-- The affinity of the pods of an engine and of its proxy. -/
structure PodAffinity where
  engine : Option Affinity := none
  proxy : Option Affinity := none
  deriving DecidableEq, Inhabited

/-- The affinity of the pods of MongoDB clusters. -/
structure PsmdbAffinity where
  engine : Option Affinity := none
  proxy : Option Affinity := none
  configServer : Option Affinity := none
  deriving DecidableEq, Inhabited

/-- The affinity for each engine; only that of the policy's engine may be set. -/
structure AffinityConfig where
  pxc : Option PodAffinity := none
  psmdb : Option PsmdbAffinity := none
  postgresql : Option PodAffinity := none
  deriving DecidableEq, Inhabited

/-- What a scheduling policy asks for. -/
structure PodSchedulingPolicySpec where
  engineType : EngineType
  affinityConfig : Option AffinityConfig := none
  deriving DecidableEq, Inhabited

/-- Whether affinity rules are given and not empty. -/
def hasRules (a : Option Affinity) : Bool := a.any Affinity.hasRules

namespace PodAffinity

/-- Whether no rule is set. -/
def isEmpty (p : PodAffinity) : Bool := !hasRules p.engine && !hasRules p.proxy

/-- The JSON object of the affinity. -/
def toJson (p : PodAffinity) : Json :=
  .ofFields [("engine", p.engine.map Affinity.toJson), ("proxy", p.proxy.map Affinity.toJson)]

/-- Reads the affinity. -/
def ofJson? (j : Json) : Option PodAffinity := do
  let r ← j.record? ["engine", "proxy"]
  let engine ← r.optional "engine" Affinity.ofJson?
  let proxy ← r.optional "proxy" Affinity.ofJson?
  return { engine, proxy }

end PodAffinity

namespace PsmdbAffinity

/-- Whether no rule is set. -/
def isEmpty (p : PsmdbAffinity) : Bool :=
  !hasRules p.engine && !hasRules p.proxy && !hasRules p.configServer

/-- The JSON object of the affinity. -/
def toJson (p : PsmdbAffinity) : Json :=
  .ofFields
    [("configServer", p.configServer.map Affinity.toJson),
      ("engine", p.engine.map Affinity.toJson),
      ("proxy", p.proxy.map Affinity.toJson)]

/-- Reads the affinity. -/
def ofJson? (j : Json) : Option PsmdbAffinity := do
  let r ← j.record? ["engine", "proxy", "configServer"]
  let engine ← r.optional "engine" Affinity.ofJson?
  let proxy ← r.optional "proxy" Affinity.ofJson?
  let configServer ← r.optional "configServer" Affinity.ofJson?
  return { engine, proxy, configServer }

end PsmdbAffinity

namespace AffinityConfig

/-- The JSON object of the affinity for each engine. -/
def toJson (a : AffinityConfig) : Json :=
  .ofFields
    [("postgresql", a.postgresql.map PodAffinity.toJson),
      ("psmdb", a.psmdb.map PsmdbAffinity.toJson),
      ("pxc", a.pxc.map PodAffinity.toJson)]

/-- Reads the affinity for each engine. -/
def ofJson? (j : Json) : Option AffinityConfig := do
  let r ← j.record? ["pxc", "psmdb", "postgresql"]
  let pxc ← r.optional "pxc" PodAffinity.ofJson?
  let psmdb ← r.optional "psmdb" PsmdbAffinity.ofJson?
  let postgresql ← r.optional "postgresql" PodAffinity.ofJson?
  return { pxc, psmdb, postgresql }

/-- Whether the affinity of an engine is set. -/
def isSetFor (a : AffinityConfig) : EngineType → Bool
  | .pxc => a.pxc.isSome
  | .psmdb => a.psmdb.isSome
  | .postgresql => a.postgresql.isSome

/-- Whether the affinity of an engine holds a rule. -/
def hasRulesFor (a : AffinityConfig) : EngineType → Bool
  | .pxc => a.pxc.any fun p => !p.isEmpty
  | .psmdb => a.psmdb.any fun p => !p.isEmpty
  | .postgresql => a.postgresql.any fun p => !p.isEmpty

end AffinityConfig

namespace PodSchedulingPolicySpec

/-- The JSON object of a scheduling policy. -/
def toJson (p : PodSchedulingPolicySpec) : Json :=
  .ofFields
    [("affinityConfig", p.affinityConfig.map AffinityConfig.toJson),
      ("engineType", some p.engineType.toJson)]

/-- Reads a scheduling policy. -/
def ofJson? (j : Json) : Option PodSchedulingPolicySpec := do
  let r ← j.record? ["engineType", "affinityConfig"]
  let engineType ← r.required "engineType" EngineType.ofJson?
  let affinityConfig ← r.optional "affinityConfig" AffinityConfig.ofJson?
  return { engineType, affinityConfig }

end PodSchedulingPolicySpec

end ClusterAdmission
