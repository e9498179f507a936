import ClusterAdmission.Chain
import ClusterAdmission.Proofs.Check.Program

/-!
# The policy layer as a filter

In front of the API the policy layer lets an operation through or stops it, and does nothing else.
It decides by reads alone. What it stops is answered with the failure of the check and nothing is
written; what it lets through is served as if the layer were not there (`Chain.FilteredBy`). Each
operation has its own check, but for four that always go through (`Chain.standard_filters`).
-/

namespace ClusterAdmission.Chain

open Api (Program)

/-- A chain without its layers. -/
def bare (c : Chain) : Chain := { c with layers := [] }

/-- Two replies have one answer, leave one store and made the same requests. -/
structure Reply.Agrees {α : Type} (r r' : Reply α) : Prop where
  answer : r.answer = r'.answer
  store : r.state.store = r'.state.store
  exchanges : r.exchanges = r'.exchanges

/-- A chain serves an operation as its end does. -/
def Forwards (c : Chain) (op : Operation) : Prop :=
  ∀ context s, (c.handle context op s).Agrees (c.bare.handle context op s)

/-- A chain serves an operation as its end does if a check passes, and otherwise answers with the
failure of the check. -/
structure FilteredBy (c : Chain) (op : Operation) (check : Check Unit) : Prop where
  /-- The check leaves the store alone. -/
  store_asked (s : State) : ((check.program c.prober).run c.serve s.store).state = s.store
  /-- The check sends reads only. -/
  reads (s : State) (e : Api.Exchange) :
    e ∈ ((check.program c.prober).run c.serve s.store).exchanges → e.1.isWrite = false
  /-- A failure of the check is the answer, and nothing is sent or changed. -/
  stops (context : Context) (s : State) (f : Failure) :
    ((check.program c.prober).run c.serve s.store).answer = .error f →
      (c.handle context op s).answer = .error f ∧
        (c.handle context op s).state.store = s.store ∧ (c.handle context op s).exchanges = []
  /-- An operation whose check passes reaches the end as it is. -/
  forwards (context : Context) (s : State) :
    ((check.program c.prober).run c.serve s.store).answer = .ok () →
      (c.handle context op s).Agrees (c.bare.handle context op s)

variable {c : Chain} {op : Operation}

theorem serve_of_read (c : Chain) (s : Store) (r : Api.Request) (h : r.isWrite = false) :
    (c.serve s r).1 = s :=
  Api.serveUnder_of_read h

/-- What the end does depends on the store alone. -/
theorem finish_agrees {s s' : State} (h : s.store = s'.store) :
    (c.finish op s).Agrees (c.finish op s') := by
  unfold finish
  cases c.terminal with
  | api =>
    simp only [h]
    exact ⟨rfl, rfl, rfl⟩
  | empty => exact ⟨rfl, h, rfl⟩

/-- Without a check the policy layer hands the operation on. -/
theorem forwards_of_policy (hlayers : c.layers = [.policy])
    (hpolicy : op.policy c.policies = none) : c.Forwards op := by
  intro context s
  simp only [handle, hlayers, through, hpolicy]
  exact ⟨rfl, rfl, rfl⟩

/-- What the policy layer answers to a failed check. -/
theorem handle_of_failed {check : Check Unit} {context : Context} {s : State} {f : Failure}
    (hlayers : c.layers = [.policy]) (hpolicy : op.policy c.policies = some check)
    (hf : check.run (View.through c.serve s.store) c.prober = .error f) :
    c.handle context op s =
      { answer := .error f
        state := { s with metrics := s.metrics.addAnswer op.name (.error f) checkSeconds }
        probes := check.probes (View.through c.serve s.store) c.prober } := by
  simp only [handle, hlayers, through, hpolicy, hf]

/-- Where the check passes, its probes are all that are made. -/
theorem probes_of_passed {check : Check Unit} {context : Context} {s : State}
    (hlayers : c.layers = [.policy]) (hpolicy : op.policy c.policies = some check)
    (hok : check.run (View.through c.serve s.store) c.prober = .ok ()) :
    (c.handle context op s).probes = check.probes (View.through c.serve s.store) c.prober := by
  simp only [handle, hlayers, through, hpolicy, hok, finish]
  cases c.terminal <;> exact List.append_nil _

/-- The answer of a check is counted, and nothing else. -/
theorem metrics_handle {check : Check Unit} (context : Context) (s : State)
    (hlayers : c.layers = [.policy]) (hpolicy : op.policy c.policies = some check) :
    (c.handle context op s).state.metrics = s.metrics.addAnswer op.name
      (check.run (View.through c.serve s.store) c.prober) checkSeconds := by
  simp only [handle, hlayers, through, hpolicy, finish]
  cases check.run (View.through c.serve s.store) c.prober <;> cases c.terminal <;> rfl

/-- With a check the policy layer is a filter. -/
theorem filteredBy_of_policy {check : Check Unit} (hlayers : c.layers = [.policy])
    (hpolicy : op.policy c.policies = some check) : c.FilteredBy op check where
  store_asked s := check.state_run_program c.serve_of_read s.store
  reads s e he := (check.program_readOnly c.prober).isWrite_of_mem_exchanges he
  stops context s f hf := by
    rw [check.answer_run_program c.serve_of_read] at hf
    rw [handle_of_failed hlayers hpolicy hf]
    exact ⟨rfl, rfl, rfl⟩
  forwards context s hok := by
    rw [check.answer_run_program c.serve_of_read] at hok
    -- The check has counted its answer in the metrics, which the end does not look at.
    let counted : State :=
      { s with metrics := s.metrics.addAnswer op.name (.ok ()) checkSeconds }
    obtain ⟨hanswer, hstore, hexchanges⟩ : (c.finish op counted).Agrees (c.finish op s) :=
      finish_agrees rfl
    simp only [handle, hlayers, through, hpolicy, hok]
    exact ⟨hanswer, hstore, hexchanges⟩

/-- Each operation in front of the API is filtered by the check that is its own. Reading clusters
and storages and deleting a cluster is free. -/
theorem standard_filters (p : Policies) (prober : Prober) (faults : List Api.Fault)
    (op : Operation) :
    let c := { Chain.standard p prober with faults }
    match op with
    | .createCluster cluster => c.FilteredBy op (Policy.clusterCreate p cluster)
    | .updateCluster cluster => c.FilteredBy op (Policy.clusterUpdate p cluster)
    | .createBackup backup => c.FilteredBy op (Policy.backupCreate p backup)
    | .createRestore restore => c.FilteredBy op (Policy.restoreCreate restore)
    | .createStorage request => c.FilteredBy op (Policy.storageCreate request)
    | .updateStorage update => c.FilteredBy op (Policy.storageUpdate update)
    | .deleteStorage space name => c.FilteredBy op (Policy.storageDelete space name)
    | .createMonitoring request => c.FilteredBy op (Policy.monitoringCreate request)
    | .updateMonitoring update => c.FilteredBy op (Policy.monitoringUpdate update)
    | .deleteMonitoring space name => c.FilteredBy op (Policy.monitoringDelete space name)
    | .createSchedulingPolicy policy => c.FilteredBy op (Policy.schedulingPolicyCreate policy)
    | .updateSchedulingPolicy policy => c.FilteredBy op (Policy.schedulingPolicyUpdate policy)
    | .deleteSchedulingPolicy name => c.FilteredBy op (Policy.schedulingPolicyDelete name)
    | .createLoadBalancer config => c.FilteredBy op (Policy.loadBalancerCreate config)
    | .updateLoadBalancer config => c.FilteredBy op (Policy.loadBalancerUpdate config)
    | .deleteLoadBalancer name => c.FilteredBy op (Policy.loadBalancerDelete name)
    | .createSplitHorizon request => c.FilteredBy op (Policy.splitHorizonCreate request)
    | .updateSplitHorizon update => c.FilteredBy op (Policy.splitHorizonUpdate update)
    | .deleteCluster .. | .getCluster .. | .listClusters _ | .listStorages _ => c.Forwards op := by
  cases op with
  | deleteCluster | getCluster | listClusters | listStorages => exact forwards_of_policy rfl rfl
  | createCluster | updateCluster | createBackup | createRestore | createStorage | updateStorage
  | deleteStorage | createMonitoring | updateMonitoring | deleteMonitoring
  | createSchedulingPolicy | updateSchedulingPolicy | deleteSchedulingPolicy
  | createLoadBalancer | updateLoadBalancer | deleteLoadBalancer | createSplitHorizon
  | updateSplitHorizon => exact filteredBy_of_policy rfl rfl

end ClusterAdmission.Chain
