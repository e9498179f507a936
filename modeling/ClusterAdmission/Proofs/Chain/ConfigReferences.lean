import ClusterAdmission.Proofs.Chain.Clusters
import ClusterAdmission.Proofs.Policy.References

/-!
# References to monitoring instances and scheduling policies

A cluster names its monitoring instance and its scheduling policy by texts, and blanks at the ends
of a text do not count when the cluster is checked. A deletion compares the texts as they are
written. So a name without such blanks is good at every moment of a run, and with them the object
can be deleted while the cluster refers to it (`configs_of_clusters`).
-/

namespace ClusterAdmission

open Api (resourcePlace)

namespace Store

/-- The monitoring instance that a cluster of a namespace resolves to is there. -/
def HasMonitoring (s : Store) (space : String) (c : ClusterSpec) : Prop :=
  ∀ name, Policy.monitoringReference c = some name →
    (s.spec? .monitoringConfig space name).isSome

/-- The scheduling policy that a cluster resolves to is there and is for its engine. -/
def HasScheduling (s : Store) (c : ClusterSpec) : Prop :=
  ∀ name, Policy.schedulingReference c = some name →
    ∃ policy : PodSchedulingPolicySpec, s.spec? .podSchedulingPolicy "" name = some policy ∧
      policy.engineType = c.engine.engine

/-- The clusters of two stores are the same. -/
def SameClusters (s t : Store) : Prop :=
  ∀ space name, s.get? (resourcePlace .databaseCluster space name) =
    t.get? (resourcePlace .databaseCluster space name)

/-- What a cluster writes without blanks at the ends resolves. -/
structure HasWritten (s : Store) (space : String) (c : ClusterSpec) : Prop where
  monitoring : Policy.monitoringReference c = c.writtenMonitoring → s.HasMonitoring space c
  scheduling : Policy.schedulingReference c = c.podSchedulingPolicyName → s.HasScheduling c

end Store

variable {r : Submission} {p : Policies} {s t : Store} {e : Effect} {space : String}
  {c : ClusterSpec}

/-! ## Objects that stay -/

/-- A monitoring instance is there as long as it is not deleted. -/
theorem Operation.monitoring_stays {op : Operation} (he : op.effect = some e) (hst : e.Happens s t)
    {name : String} (hs : (s.spec? .monitoringConfig space name).isSome) :
    op = .deleteMonitoring space name ∨ (t.spec? .monitoringConfig space name).isSome := by
  by_cases hplace : resourcePlace .monitoringConfig space name = e.place
  · cases op with
    | createMonitoring request =>
      cases he
      rw [hst.spec?_create hplace] at hs
      cases hs
    | updateMonitoring update =>
      cases he
      obtain rfl : space = update.space := congrArg Place.space hplace
      obtain rfl : name = update.name := congrArg Place.name hplace
      obtain ⟨current, -, hnew⟩ := hst.spec?_update
      rw [hnew]
      exact .inr rfl
    | deleteMonitoring space' name' =>
      cases he
      obtain rfl : space = space' := congrArg Place.space hplace
      obtain rfl : name = name' := congrArg Place.name hplace
      exact .inl rfl
    | getCluster | listClusters | listStorages => cases he
    | _ =>
      cases he
      cases congrArg Place.collection hplace
  · rw [hst.spec?_of_ne hplace]
    exact .inr hs

/-- A scheduling policy is there, for the same engine, as long as it is not deleted. -/
theorem Submission.Admitted.scheduling_stays (h : r.Admitted p s) (he : r.op.effect = some e)
    (hst : e.Happens s t) {name : String} {policy : PodSchedulingPolicySpec}
    (hs : s.spec? .podSchedulingPolicy "" name = some policy) :
    r.op = .deleteSchedulingPolicy name ∨
      ∃ policy' : PodSchedulingPolicySpec, t.spec? .podSchedulingPolicy "" name = some policy' ∧
        policy'.engineType = policy.engineType := by
  by_cases hplace : resourcePlace .podSchedulingPolicy "" name = e.place
  · cases hop : r.op with
    | createSchedulingPolicy new =>
      rw [hop] at he
      cases he
      rw [hst.spec?_create hplace] at hs
      cases hs
    | updateSchedulingPolicy new =>
      -- The stored policy is replaced as a whole; only the check says that its engine stays.
      have hcheck := h (Policy.schedulingPolicyUpdate new) (by rw [hop]; rfl)
      rw [hop] at he
      cases he
      obtain rfl : name = new.name := congrArg Place.name hplace
      obtain ⟨current, hcurrent, htype⟩ := Policy.schedulingPolicyUpdate_ok hcheck
      have hread : s.spec? .podSchedulingPolicy "" new.name = some current.spec :=
        Store.spec?_of_getResource hcurrent
      rw [hs] at hread
      obtain rfl := Option.some.inj hread
      exact .inr ⟨_, hst.spec?_replace, htype.symm⟩
    | deleteSchedulingPolicy name' =>
      rw [hop] at he
      cases he
      obtain rfl : name = name' := congrArg Place.name hplace
      exact .inl rfl
    | getCluster | listClusters | listStorages =>
      rw [hop] at he
      cases he
    | _ =>
      rw [hop] at he
      cases he
      cases congrArg Place.collection hplace
  · rw [← hst.spec?_of_ne hplace] at hs
    exact .inr ⟨policy, hs, rfl⟩

/-! ## Clusters that keep their objects -/

/-- A monitoring instance that is deleted is one whose name no cluster of the namespace writes. -/
theorem Submission.Admitted.monitoring_unwritten (h : r.Admitted p s) {name name' : String}
    {j : Json} (hop : r.op = .deleteMonitoring space name)
    (hj : s.get? (resourcePlace .databaseCluster space name') = some j)
    (hc : Resource.specIn? .databaseCluster j = some c) : c.writtenMonitoring ≠ some name := by
  have hcheck := h (Policy.monitoringDelete space name) (by rw [hop]; rfl)
  obtain ⟨clusters, hclusters, hunused⟩ := Policy.monitoringDelete_ok hcheck
  obtain ⟨cluster, hcluster, rfl⟩ := Store.mem_of_listResources hclusters
    (fun _ h => (Option.some.inj h).symm) hj hc
  exact hunused cluster hcluster

/-- A scheduling policy that is deleted is one whose name no cluster writes. -/
theorem Submission.Admitted.scheduling_unwritten (h : r.Admitted p s) {name name' : String}
    {j : Json} (hop : r.op = .deleteSchedulingPolicy name)
    (hj : s.get? (resourcePlace .databaseCluster space name') = some j)
    (hc : Resource.specIn? .databaseCluster j = some c) :
    c.podSchedulingPolicyName ≠ some name := by
  have hcheck := h (Policy.schedulingPolicyDelete name) (by rw [hop]; rfl)
  obtain ⟨clusters, hclusters, hunused⟩ := Policy.schedulingPolicyDelete_ok hcheck
  obtain ⟨cluster, hcluster, rfl⟩ := Store.mem_of_listResources hclusters (by simp) hj hc
  exact hunused cluster hcluster

/-- As long as no name that a cluster writes is deleted, what the cluster writes resolves. -/
theorem Store.HasWritten.step (h : r.Admitted p s) (he : r.op.effect = some e)
    (hst : e.Happens s t) (hs : s.HasWritten space c)
    (hmonitoring : ∀ name, r.op = .deleteMonitoring space name → c.writtenMonitoring ≠ some name)
    (hscheduling : ∀ name, r.op = .deleteSchedulingPolicy name →
      c.podSchedulingPolicyName ≠ some name) :
    t.HasWritten space c where
  monitoring hwritten name hname := by
    rcases Operation.monitoring_stays he hst (hs.monitoring hwritten name hname) with hop | hstays
    · exact absurd (hwritten.symm.trans hname) (hmonitoring name hop)
    · exact hstays
  scheduling hwritten name hname := by
    obtain ⟨policy, hpolicy, htype⟩ := hs.scheduling hwritten name hname
    rcases h.scheduling_stays he hst hpolicy with hop | ⟨policy', hpolicy', htype'⟩
    · exact absurd (hwritten.symm.trans hname) (hscheduling name hop)
    · exact ⟨policy', hpolicy', htype'.trans htype⟩

/-- All that a cluster refers to has been found when it is written. -/
theorem Policy.ClusterPasses.hasWritten {faults : List Api.Fault} {prober : Prober}
    {cluster : DatabaseCluster}
    (h : Policy.ClusterPasses p (View.through (Api.serveUnder faults) s) prober cluster) :
    s.HasWritten cluster.space cluster.spec where
  monitoring _ name hname := by
    obtain ⟨m, hm⟩ := h.references.monitoring name hname
    rw [Store.spec?_of_getResource hm]
    rfl
  scheduling _ name hname := by
    obtain ⟨policy, hpolicy, htype⟩ := h.references.scheduling name hname
    exact ⟨policy.spec, Store.spec?_of_getResource hpolicy, htype⟩

/-- Whether what clusters write resolves is kept. -/
theorem Policies.keeps_hasWritten (p : Policies) :
    p.Keeps fun s => s.EachCluster s.HasWritten where
  same {s t} hsame hs := hs.same hsame fun space c h =>
    { monitoring := fun hwritten name hname => by
        rw [hsame.spec?_eq]
        exact h.monitoring hwritten name hname
      scheduling := fun hwritten name hname => by
        rw [hsame.spec?_eq]
        exact h.scheduling hwritten name hname }
  effect {r s t e} hadmitted he hst hs := by
    refine hs.step he hst ?_ ?_
    · intro space name j c hj hc h
      exact h.step hadmitted he hst (fun _ hop => hadmitted.monitoring_unwritten hop hj hc)
        fun _ hop => hadmitted.scheduling_unwritten hop hj hc
    · intro cluster hop
      refine (hadmitted.clusterPasses hop).hasWritten.step hadmitted he hst ?_ ?_
      all_goals
        intro name hdelete
        rw [hdelete] at hop
        rcases hop with hop | hop <;> cases hop

/-! ## Deletions without faults -/

section Deletions

variable {st : Chain.State} {name : String} {clusters : List DatabaseCluster}

theorem Store.spec?_of_erase {k : Kind}
    (h : Store.SameResources (s.erase (resourcePlace k space name)) t) :
    t.spec? k space name = none := by
  rw [h.spec?_eq, Store.spec?, SortedMap.get?_erase_self, Option.bind_none]

/-- Where a condition decides the check of a deletion, it decides whether the resource stays. -/
theorem Submission.spec?_after_deletion {check : Check Unit} {k : Kind} {f : Failure}
    {blocked : Prop} [Decidable blocked] (hpolicy : r.op.policy p = some check)
    (hrun : check.run (View.through (Api.serveUnder r.faults) st.store) r.prober =
      if blocked then .error f else .ok ())
    (hthere : (st.store.spec? k space name).isSome)
    (hgone :
      (r.op.perform.run (Api.serveUnder r.faults) st.store).state.spec? k space name = none) :
    ((r.after p st).store.spec? k space name).isSome ↔ blocked := by
  by_cases hblocked : blocked
  · rw [if_pos hblocked] at hrun
    rw [store_after_of_failed hpolicy hrun]
    exact iff_of_true hthere hblocked
  · rw [if_neg hblocked] at hrun
    rw [store_after_of_admitted (.of_check hpolicy hrun), hgone]
    exact iff_of_false (by simp) hblocked

/-- A deletion leaves a monitoring instance exactly if some cluster of the namespace writes its
name. -/
theorem monitoring_deleted {current : MonitoringConfig}
    (hcurrent : View.through Api.serve st.store (.monitoring space name) = .ok current)
    (hclusters : View.through Api.serve st.store (.clusters (some space)) = .ok clusters) :
    ((Submission.after { op := .deleteMonitoring space name } p st).store.spec?
        .monitoringConfig space name).isSome ↔
      ∃ c ∈ clusters, c.spec.writtenMonitoring = some name := by
  have hread : View.through (Api.serveUnder []) st.store (.monitoring space name) = .ok current :=
    hcurrent
  refine Submission.spec?_after_deletion rfl (Policy.run_monitoringDelete hclusters) ?_ ?_
  · rw [Store.spec?_of_getResource hread]
    rfl
  · exact Store.spec?_of_erase (SecretLink.monitoring.run_delete hcurrent)

/-- A deletion leaves a scheduling policy exactly if some cluster writes its name. -/
theorem scheduling_deleted {current : PodSchedulingPolicy}
    (hcurrent : View.through Api.serve st.store (.schedulingPolicy name) = .ok current)
    (hown : Resource.isDefaultPolicy current = false)
    (hclusters : View.through Api.serve st.store (.clusters none) = .ok clusters) :
    ((Submission.after { op := .deleteSchedulingPolicy name } p st).store.spec?
        .podSchedulingPolicy "" name).isSome ↔
      ∃ c ∈ clusters, c.spec.podSchedulingPolicyName = some name := by
  have hread : View.through (Api.serveUnder []) st.store (.schedulingPolicy name) = .ok current :=
    hcurrent
  refine Submission.spec?_after_deletion rfl
    (Policy.run_schedulingPolicyDelete hcurrent hown hclusters) ?_ ?_
  · rw [Store.spec?_of_getResource hread]
    rfl
  · refine Store.spec?_of_erase (s := st.store) ?_
    rw [← (Api.run_deleteResource hcurrent).2]
    exact .refl _

end Deletions

/-! ## At every moment -/

/-- At every moment of every run that starts without clusters, what every stored cluster writes
without blanks at the ends resolves. A deletion at such a moment leaves all clusters as they are,
and leaves its object exactly if some cluster writes the name as it is: a name with blanks resolves
to nothing afterwards, unless another cluster writes it without. -/
theorem configs_of_clusters (p : Policies) {s : Chain.State} {rs : List Submission}
    {t : Chain.State} (hs : s.store.NoClusters) (ht : t.store ∈ p.moments s rs) :
    t.store.EachCluster t.store.HasWritten ∧
    (∀ space name (current : MonitoringConfig) (clusters : List DatabaseCluster),
      View.through Api.serve t.store (.monitoring space name) = .ok current →
      View.through Api.serve t.store (.clusters (some space)) = .ok clusters →
      let u := (Submission.after { op := .deleteMonitoring space name } p t).store
      u.SameClusters t.store ∧
        ((u.spec? .monitoringConfig space name).isSome ↔
          ∃ c ∈ clusters, c.spec.writtenMonitoring = some name)) ∧
    (∀ name (current : PodSchedulingPolicy) (clusters : List DatabaseCluster),
      View.through Api.serve t.store (.schedulingPolicy name) = .ok current →
      Resource.isDefaultPolicy current = false →
      View.through Api.serve t.store (.clusters none) = .ok clusters →
      let u := (Submission.after { op := .deleteSchedulingPolicy name } p t).store
      u.SameClusters t.store ∧
        ((u.spec? .podSchedulingPolicy "" name).isSome ↔
          ∃ c ∈ clusters, c.spec.podSchedulingPolicyName = some name)) := by
  refine ⟨p.keeps_hasWritten.of_mem_moments hs.eachCluster ht, ?_, ?_⟩
  · intro space name current clusters hcurrent hclusters
    refine ⟨fun space' name' => Submission.get?_after Api.resourcePlace_ne_secrets ?_,
      monitoring_deleted hcurrent hclusters⟩
    rintro _ ⟨⟩ heq
    cases congrArg Place.collection heq
  · intro name current clusters hcurrent hown hclusters
    refine ⟨fun space' name' => Submission.get?_after Api.resourcePlace_ne_secrets ?_,
      scheduling_deleted hcurrent hown hclusters⟩
    rintro _ ⟨⟩ heq
    cases congrArg Place.collection heq

theorem configs_of_clusters_of_sample :
    let t := Policies.default.final Sample.platform (Sample.setUp "pmm")
    Sample.platform.store.NoClusters ∧
      t.store ∈ Policies.default.moments Sample.platform (Sample.setUp "pmm") ∧
      t.store.spec? .databaseCluster "ns" "orders" = some (Sample.cluster "pmm").spec ∧
      t.store.EachCluster t.store.HasWritten :=
  ⟨Sample.platform_noClusters, Sample.final_mem_moments, Sample.cluster_stored,
    (configs_of_clusters _ Sample.platform_noClusters Sample.final_mem_moments).1⟩

/-- A name with blanks is found when the cluster is created, and its monitoring instance is deleted
all the same. -/
theorem monitoring_lost :
    let lost : List Submission := Sample.setUp " pmm " ++ [{ op := .deleteMonitoring "ns" "pmm" }]
    let t := (Policies.default.final Sample.platform lost).store
    ¬ t.EachCluster fun space c => t.HasMonitoring space c ∧ t.HasScheduling c := by
  intro lost t heach
  obtain ⟨hcluster, hgone⟩ :
      t.spec? .databaseCluster "ns" "orders" = some (Sample.cluster " pmm ").spec ∧
        t.spec? .monitoringConfig "ns" "pmm" = none := by
    decide +kernel
  obtain ⟨j, hj, hspec⟩ := Option.bind_eq_some_iff.1 hcluster
  obtain ⟨c, hc, hmonitoring, -⟩ := heach "ns" "orders" j hj
  rw [hspec] at hc
  obtain rfl := Option.some.inj hc
  -- The cluster resolves to `pmm` but writes something else, so the deletion did not see it.
  have hthere := hmonitoring "pmm" (by decide)
  rw [hgone] at hthere
  cases hthere

end ClusterAdmission
