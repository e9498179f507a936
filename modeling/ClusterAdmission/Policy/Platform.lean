import ClusterAdmission.Policy
import ClusterAdmission.Request.Payload
import ClusterAdmission.Rules.Certificate
import ClusterAdmission.Rules.Platform

/-!
# Policies for monitoring, scheduling, load balancers and split-horizon DNS

What comes with the platform is read-only. An object to be updated or deleted that is missing is
reported as missing, not as a bad request.
-/

namespace ClusterAdmission.Policy

/-! ## Monitoring instances -/

/-- A new monitoring instance. -/
def monitoringCreate (r : NewMonitoring) : Check Unit := do
  Check.rule (Rules.label r.config.name)
  Check.rule (Rules.url r.config.spec.pmm.url)
  Check.require r.credentials.isComplete .monitoringCredentialsRequired

/-- An update of a monitoring instance. -/
def monitoringUpdate (u : MonitoringUpdate) : Check Unit := do
  let _ ← Check.get (.monitoring u.space u.name)
  match u.url with
  | none => pure ()
  | some url => Check.rule (Rules.url url)
  Check.require (u.credentials.all (·.isComplete)) .monitoringCredentialsRequired

/-- A deletion of a monitoring instance. -/
def monitoringDelete (space name : String) : Check Unit := do
  let used ← isMonitoringUsed space name
  Check.require (!used) (.monitoringConfigInUse name)

/-! ## Scheduling policies -/

/-- A new scheduling policy. -/
def schedulingPolicyCreate (s : PodSchedulingPolicy) : Check Unit := do
  Check.rule (Rules.label s.name)
  Check.rule (Rules.affinity s.spec)

/-- An update of a scheduling policy, whose engine is fixed. -/
def schedulingPolicyUpdate (s : PodSchedulingPolicy) : Check Unit := do
  let current ← Check.get (.schedulingPolicy s.name)
  Check.require (!Resource.isDefaultPolicy current) (.defaultPolicyReadOnly s.name)
  Check.require (current.spec.engineType = s.spec.engineType) .policyEngineTypeImmutable
  Check.rule (Rules.affinity s.spec)

/-- A deletion of a scheduling policy, which no cluster may use. -/
def schedulingPolicyDelete (name : String) : Check Unit := do
  let current ← Check.get (.schedulingPolicy name)
  Check.require (!Resource.isDefaultPolicy current) (.defaultPolicyReadOnly name)
  let used ← isSchedulingPolicyUsed name
  Check.require (!used) (.podSchedulingPolicyInUse name)

/-! ## Load balancer configs -/

/-- A new load balancer config. -/
def loadBalancerCreate (c : LoadBalancerConfig) : Check Unit := Check.rule (Rules.loadBalancer c)

/-- A load balancer config that does not come with the platform. -/
def ownLoadBalancer (name : String) : Check Unit := do
  let current ← Check.get (.loadBalancer name)
  Check.require (!Resource.isDefaultLoadBalancer current) (.defaultLoadBalancerConfigReadOnly name)

/-- An update of a load balancer config. -/
def loadBalancerUpdate (c : LoadBalancerConfig) : Check Unit := do
  ownLoadBalancer c.name
  Check.rule (Rules.loadBalancer c)

/-- A deletion of a load balancer config. -/
def loadBalancerDelete (name : String) : Check Unit := ownLoadBalancer name

/-! ## Split-horizon DNS configs -/

/-- A new split-horizon config. -/
def splitHorizonCreate (r : NewSplitHorizon) : Check Unit := do
  Check.rule (Rules.label r.config.name)
  Check.rule (Rules.domain r.config.spec.baseDomainNameSuffix)
  Check.rule (Rules.certificateAuthority r.ca)

/-- An update of a split-horizon config. -/
def splitHorizonUpdate (u : SplitHorizonUpdate) : Check Unit := do
  let _ ← Check.get (.splitHorizon u.space u.name)
  match u.baseDomainNameSuffix with
  | none => pure ()
  | some domain => Check.rule (Rules.domain domain)
  match u.ca with
  | none => pure ()
  | some ca => Check.rule (Rules.certificateAuthority ca)

end ClusterAdmission.Policy
