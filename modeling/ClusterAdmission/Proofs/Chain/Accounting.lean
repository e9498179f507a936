import ClusterAdmission.Proofs.Chain.Outages
import ClusterAdmission.Proofs.Policy.Creation

/-!
# What the metrics of a chain count

A chain with one policy layer counts what the check of an operation answers, whatever becomes of the
operation afterwards, and counts nothing for an operation without a check (`Chain.metrics_through`).
So after a run of requests the metrics account for the checks of the run
(`Chain.metrics_account_for_checks`).
-/

namespace ClusterAdmission

namespace Chain

/-- The chain under the circumstances of a request. -/
def under (c : Chain) (r : Submission) : Chain := { c with prober := r.prober, faults := r.faults }

/-- The state after a request. -/
def after (c : Chain) (s : State) (r : Submission) : State :=
  ((c.under r).handle r.context r.op s).state

/-- The state after a run of requests. -/
def final (c : Chain) (s : State) (rs : List Submission) : State := rs.foldl c.after s

/-- The check of a request, if it has one: the operation and what the check answers. -/
def answer? (c : Chain) (s : State) (r : Submission) : Option (String × Except Failure Unit) :=
  ((c.under r).checked? r.op s.store).map fun answer => (r.op.name, answer)

/-- The checks of a run of requests. -/
def answers (c : Chain) : State → List Submission → List (String × Except Failure Unit)
  | _, [] => []
  | s, r :: rest => (c.answer? s r).toList ++ c.answers (c.after s r) rest

/-- The metrics after a check, if there is one. -/
def counted (m : Metrics) (operation : String) : Option (Except Failure Unit) → Metrics
  | none => m
  | some answer => m.addAnswer operation answer checkSeconds

variable {c : Chain} {context : Context} {op : Operation} {s : State} {layers : List Layer}

theorem metrics_finish : (c.finish op s).state.metrics = s.metrics := by
  unfold finish
  cases c.terminal <;> rfl

theorem metrics_through_of_not_mem (h : .policy ∉ layers) :
    (c.through context op s layers).state.metrics = s.metrics := by
  induction layers with
  | nil => exact metrics_finish
  | cons layer rest ih =>
    obtain ⟨hlayer, hrest⟩ := List.ne_and_not_mem_of_not_mem_cons h
    cases layer with
    | policy => exact absurd rfl hlayer
    | noting name => exact ih hrest

/-- The policy layer counts the check; what is in front of it and behind it counts nothing. -/
theorem metrics_through (h : layers.count .policy = 1) :
    (c.through context op s layers).state.metrics =
      counted s.metrics op.name (c.checked? op s.store) := by
  induction layers with
  | nil => cases h
  | cons layer rest ih =>
    cases layer with
    | noting name =>
      rw [List.count_cons_of_ne (by simp)] at h
      exact ih h
    | policy =>
      have hrest : .policy ∉ rest := by
        rw [List.count_cons_self] at h
        exact List.count_eq_zero.1 (Nat.succ.inj h)
      rw [through_policy, gate, checked?]
      cases op.policy c.policies with
      | none => exact metrics_through_of_not_mem hrest
      | some check =>
        simp only [Option.map_some, counted]
        cases check.run (View.through c.serve s.store) c.prober with
        | error f => rfl
        | ok _ => exact metrics_through_of_not_mem hrest

theorem metrics_after (hone : c.layers.count .policy = 1) (r : Submission) :
    (c.after s r).metrics = counted s.metrics r.op.name ((c.under r).checked? r.op s.store) :=
  metrics_through hone

variable {m : Metrics} {recorded : List (String × Except Failure Unit)}

theorem accounts_counted (h : m.Accounts recorded) (operation : String)
    (answer? : Option (Except Failure Unit)) :
    (counted m operation answer?).Accounts
      (recorded ++ (answer?.map fun answer => (operation, answer)).toList) := by
  cases answer? with
  | none =>
    rw [Option.map_none, Option.toList_none, List.append_nil]
    exact h
  | some answer => exact h.addAnswer operation answer checkSeconds

/-- A run adds its checks to those that the metrics account for. -/
theorem accounts_final (hone : c.layers.count .policy = 1) (h : s.metrics.Accounts recorded)
    (rs : List Submission) :
    (c.final s rs).metrics.Accounts (recorded ++ c.answers s rs) := by
  induction rs generalizing s recorded with
  | nil => simpa [final, answers] using h
  | cons r rest ih =>
    have hafter : (c.after s r).metrics.Accounts (recorded ++ (c.answer? s r).toList) := by
      rw [metrics_after hone]
      exact accounts_counted h r.op.name _
    have hrest := ih hafter
    rw [List.append_assoc] at hrest
    exact hrest

/-- The metrics of a chain with one policy layer account for every request of a run, once: they
count the checks that were made, and nothing else. What becomes of an operation behind the check,
and whether it has one at all, makes no difference beyond that. -/
theorem metrics_account_for_checks (hone : c.layers.count .policy = 1) :
    (∀ (store : Store) (rs : List Submission),
      (c.final { store } rs).metrics.Accounts (c.answers { store } rs)) ∧
    ∀ (s : State) (r : Submission),
      (c.after s r).metrics =
        counted s.metrics r.op.name ((c.under r).checked? r.op s.store) := by
  refine ⟨fun store rs => ?_, fun _ r => metrics_after hone r⟩
  have hfresh : ({ store } : State).metrics.Accounts [] := .fresh
  exact accounts_final hone hfresh rs

end Chain

namespace Sample

/-- One policy layer behind a noting one. -/
def noted : Chain :=
  { Chain.standard .default (fun _ => .accepted) with layers := [.noting "first", .policy] }

/-- A cluster is created twice; the second time the API refuses it. One with an even count of nodes
is rejected, one whose check cannot be finished is not created, and the clusters are listed. -/
def creations : List Submission :=
  [{ op := .createCluster (small 3 none) }, { op := .createCluster (small 3 none) },
    { op := .createCluster (small 2 none) },
    { op := .createCluster (cluster "pmm"), faults := storagesDown.faults },
    { op := .listClusters "ns" }]

end Sample

theorem metrics_account_for_checks_of_sample :
    let c := Sample.noted
    let s : Chain.State := { store := Sample.platform.store }
    let m := (c.final s Sample.creations).metrics
    c.layers.count .policy = 1 ∧ m.Accounts (c.answers s Sample.creations) ∧
      c.answers s Sample.creations =
        [("create_database_cluster", .ok ()), ("create_database_cluster", .ok ()),
          ("create_database_cluster", .error (.rejected (.evenReplicas .pxc))),
          ("create_database_cluster", .error (.api 500))] ∧
      m.tally "create_database_cluster" = { admitted := 2, rejected := 1, failed := 1 } := by
  intro c s m
  have hone : c.layers.count .policy = 1 := by decide
  exact ⟨hone, (Chain.metrics_account_for_checks hone).1 _ _, by decide +kernel, by decide +kernel⟩

end ClusterAdmission
