import ClusterAdmission.Resource
import ClusterAdmission.Rules

/-!
# Rules for scheduling policies and load balancer configs
-/

namespace ClusterAdmission.Rules

/-- A policy with affinity carries a rule for its engine, and nothing for others. -/
def affinity (p : PodSchedulingPolicySpec) : Verdict :=
  match p.affinityConfig with
  | none => .ok ()
  | some a => do
    require ([EngineType.pxc, .psmdb, .postgresql].all fun e => e = p.engineType || !a.isSetFor e)
      (.foreignAffinityConfig p.engineType)
    require (a.hasRulesFor p.engineType) (.emptyAffinityConfig p.engineType)

/-- The keys of annotations, in their order. -/
def annotationKeys : List String → Verdict
  | [] => .ok ()
  | key :: keys => do
    annotationKey key
    annotationKeys keys

/-- The name and the annotations of a load balancer config. -/
def loadBalancer (c : LoadBalancerConfig) : Verdict := do
  label c.name
  annotationKeys c.spec.annotations.keys

end ClusterAdmission.Rules
