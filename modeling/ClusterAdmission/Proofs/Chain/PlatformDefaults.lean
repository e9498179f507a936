import ClusterAdmission.Proofs.Chain.Clusters

/-!
# What comes with the platform stays as it is

Some scheduling policies and load balancer configs come with the platform, which a label tells
(`Kind.defaultLabel?`). Whatever is asked for, such an object stays as it is, from any store on
(`defaults_frozen`). A create finds its place taken; an update or a deletion is checked first, and
the check looks at the stored object, which is the one that would be written, and not at the request
(`Submission.Admitted.overwrites_own`). An update without the label is thus no way around.
-/

namespace ClusterAdmission

open Api (resourcePlace createdPlace)

/-- The label of the resources of a kind that come with the platform, if there are any. -/
def Kind.defaultLabel? : Kind → Option String
  | .podSchedulingPolicy => some Resource.defaultPolicyLabel
  | .loadBalancerConfig => some Resource.defaultLoadBalancerLabel
  | _ => none

/-- The resource of a name can be read and does not carry a label. -/
def Store.Unmarked (s : Store) (k : Kind) (label name : String) : Prop :=
  ∃ current : Resource k, s.resource? k "" name = some current ∧
    current.metadata.isMarked label = false

/-! ## What checks look at -/

namespace Policy

variable {view : View} {prober : Prober} {name : String}

theorem schedulingPolicyUpdate_own {s : PodSchedulingPolicy}
    (h : (schedulingPolicyUpdate s).run view prober = .ok ()) :
    ∃ current : PodSchedulingPolicy, view (.schedulingPolicy s.name) = .ok current ∧
      Resource.isDefaultPolicy current = false := by
  obtain ⟨current, hcurrent, hrest⟩ := Check.run_bind_eq_ok.1 h
  obtain ⟨hown, -⟩ := Check.run_then_eq_ok.1 hrest
  exact ⟨current, Check.run_get_eq_ok.1 hcurrent, by simpa using hown⟩

theorem schedulingPolicyDelete_own (h : (schedulingPolicyDelete name).run view prober = .ok ()) :
    ∃ current : PodSchedulingPolicy, view (.schedulingPolicy name) = .ok current ∧
      Resource.isDefaultPolicy current = false := by
  obtain ⟨current, hcurrent, hrest⟩ := Check.run_bind_eq_ok.1 h
  obtain ⟨hown, -⟩ := Check.run_then_eq_ok.1 hrest
  exact ⟨current, Check.run_get_eq_ok.1 hcurrent, by simpa using hown⟩

theorem ownLoadBalancer_ok (h : (ownLoadBalancer name).run view prober = .ok ()) :
    ∃ current : LoadBalancerConfig, view (.loadBalancer name) = .ok current ∧
      Resource.isDefaultLoadBalancer current = false := by
  obtain ⟨current, hcurrent, hown⟩ := Check.run_bind_eq_ok.1 h
  exact ⟨current, Check.run_get_eq_ok.1 hcurrent, by simpa using hown⟩

end Policy

/-! ## Steps -/

variable {r : Submission} {p : Policies} {s t u v : Store} {e : Effect} {k : Kind}
  {label name : String} {j : Json}

/-- What an admitted request writes to a place for scheduling policies or load balancer configs
comes to a free place, or takes that of a resource without the label of the platform. -/
theorem Submission.Admitted.overwrites_own (h : r.Admitted p s) (he : r.op.effect = some e)
    (hst : e.Happens s t) (hlabel : k.defaultLabel? = some label)
    (hplace : resourcePlace k "" name = e.place) :
    s.get? (resourcePlace k "" name) = none ∨ s.Unmarked k label name := by
  cases hop : r.op with
  | createSchedulingPolicy new | createLoadBalancer new =>
    rw [hop] at he
    cases he
    rw [hplace]
    exact .inl hst.leaves.1
  | updateSchedulingPolicy new =>
    have hcheck := h (Policy.schedulingPolicyUpdate new) (by rw [hop]; rfl)
    rw [hop] at he
    cases he
    cases congrArg Place.collection hplace
    cases hlabel
    obtain rfl : name = new.name := congrArg Place.name hplace
    obtain ⟨current, hcurrent, hown⟩ := Policy.schedulingPolicyUpdate_own hcheck
    exact .inr ⟨current, Store.resource?_of_getResource hcurrent, hown⟩
  | deleteSchedulingPolicy name' =>
    have hcheck := h (Policy.schedulingPolicyDelete name') (by rw [hop]; rfl)
    rw [hop] at he
    cases he
    cases congrArg Place.collection hplace
    cases hlabel
    obtain rfl : name = name' := congrArg Place.name hplace
    obtain ⟨current, hcurrent, hown⟩ := Policy.schedulingPolicyDelete_own hcheck
    exact .inr ⟨current, Store.resource?_of_getResource hcurrent, hown⟩
  | updateLoadBalancer new =>
    have hcheck := h (Policy.loadBalancerUpdate new) (by rw [hop]; rfl)
    rw [hop] at he
    cases he
    cases congrArg Place.collection hplace
    cases hlabel
    obtain rfl : name = new.name := congrArg Place.name hplace
    obtain ⟨current, hcurrent, hown⟩ :=
      Policy.ownLoadBalancer_ok (Check.run_then_eq_ok.1 hcheck).1
    exact .inr ⟨current, Store.resource?_of_getResource hcurrent, hown⟩
  | deleteLoadBalancer name' =>
    have hcheck := h (Policy.loadBalancerDelete name') (by rw [hop]; rfl)
    rw [hop] at he
    cases he
    cases congrArg Place.collection hplace
    cases hlabel
    obtain rfl : name = name' := congrArg Place.name hplace
    obtain ⟨current, hcurrent, hown⟩ := Policy.ownLoadBalancer_ok hcheck
    exact .inr ⟨current, Store.resource?_of_getResource hcurrent, hown⟩
  | getCluster | listClusters | listStorages =>
    rw [hop] at he
    cases he
  | _ =>
    -- What these write is of another kind, which has no label.
    rw [hop] at he
    cases he
    cases congrArg Place.collection hplace
    cases hlabel

/-- From one moment to the next an object that comes with the platform stays as it is. -/
theorem Policies.Follows.default_stays (h : p.Follows u v) (hlabel : k.defaultLabel? = some label)
    (hj : u.get? (resourcePlace k "" name) = some j) {d : Resource k}
    (hread : Resource.ofJson? k j = some d) (hmarked : d.metadata.isMarked label) :
    v.get? (resourcePlace k "" name) = some j := by
  rcases h with hsame | ⟨r, s, e, hadmitted, hsu, he, hhappens⟩
  · rw [hsame _ Api.resourcePlace_ne_secrets, hj]
  rw [hsu _ Api.resourcePlace_ne_secrets] at hj
  by_cases hplace : resourcePlace k "" name = e.place
  · rcases hadmitted.overwrites_own he hhappens hlabel hplace with hfree | ⟨current, hc, hown⟩
    · rw [hj] at hfree
      cases hfree
    · rw [Store.resource?_of_get? hj hread] at hc
      obtain rfl := Option.some.inj hc
      rw [hmarked] at hown
      cases hown
  · rw [hhappens.others _ Api.resourcePlace_ne_secrets hplace, hj]

/-- At every moment of a run from any store after one at which a scheduling policy or a load
balancer config carries the label of the platform, its object is there as it was. -/
theorem defaults_frozen (p : Policies) {st : Chain.State} {rs : List Submission}
    {later : List Store} (hrun : t :: later <:+ p.moments st rs)
    (hlabel : k.defaultLabel? = some label) (hj : t.get? (resourcePlace k "" name) = some j)
    {d : Resource k} (hread : Resource.ofJson? k j = some d) (hmarked : d.metadata.isMarked label) :
    ∀ u ∈ later, u.get? (resourcePlace k "" name) = some j := by
  have hfollows : (t :: later).IsChain p.Follows := Policies.follows_of_infix hrun.isInfix
  intro u hu
  exact hfollows.induction (fun u => u.get? (resourcePlace k "" name) = some j) _
    (fun _ _ huv hu => huv.default_stays hlabel hu hread hmarked) (fun _ => hj) u
    (List.mem_cons_of_mem t hu)

namespace Sample

/-- A scheduling policy that comes with the platform. -/
def shippedPolicy : PodSchedulingPolicy where
  metadata :=
    { name := some "spread"
      labels := some (SortedMap.empty.insert Resource.defaultPolicyLabel "true") }
  spec := { engineType := .pxc }

/-- A platform with nothing but the policy. -/
def shipped : Chain.State where
  store := SortedMap.empty.insert (createdPlace shippedPolicy) shippedPolicy.toJson

/-- The policy is to be replaced by one without the label, also under a stem, to be deleted, and to
be created anew. A load balancer config of the same name comes and goes. -/
def tamper : List Submission :=
  [{ op := .updateSchedulingPolicy policy },
    { op := .updateSchedulingPolicy
        { policy with metadata := { generateName := some "spread" } } },
    { op := .deleteSchedulingPolicy "spread" }, { op := .createSchedulingPolicy policy },
    { op := .createLoadBalancer { metadata := { name := some "spread" }, spec := {} } },
    { op := .deleteLoadBalancer "spread" }]

end Sample

theorem defaults_frozen_of_sample :
    ∃ later, Policies.default.moments Sample.shipped Sample.tamper =
        Sample.shipped.store :: later ∧ later.length = 13 ∧
      Kind.defaultLabel? .podSchedulingPolicy = some Resource.defaultPolicyLabel ∧
      Sample.shipped.store.get? (resourcePlace .podSchedulingPolicy "" "spread") =
        some Sample.shippedPolicy.toJson ∧
      Resource.ofJson? .podSchedulingPolicy Sample.shippedPolicy.toJson =
        some Sample.shippedPolicy ∧
      Sample.shippedPolicy.metadata.isMarked Resource.defaultPolicyLabel ∧
      ∀ u ∈ later, u.get? (resourcePlace .podSchedulingPolicy "" "spread") =
        some Sample.shippedPolicy.toJson := by
  obtain ⟨later, hmoments⟩ := List.head?_eq_some_iff.1
    (Policies.default.head?_moments Sample.shipped Sample.tamper)
  have hlength : later.length + 1 = 14 := by
    rw [← List.length_cons, ← hmoments]
    decide +kernel
  have hrun : Sample.shipped.store :: later <:+
      Policies.default.moments Sample.shipped Sample.tamper := by
    rw [hmoments]
  have hj : Sample.shipped.store.get? (resourcePlace .podSchedulingPolicy "" "spread") =
      some Sample.shippedPolicy.toJson := SortedMap.get?_insert_self _ _ _
  have hread : Resource.ofJson? .podSchedulingPolicy Sample.shippedPolicy.toJson =
      some Sample.shippedPolicy := by decide +kernel
  have hmarked : Sample.shippedPolicy.metadata.isMarked Resource.defaultPolicyLabel := by
    decide +kernel
  exact ⟨later, hmoments, Nat.succ.inj hlength, rfl, hj, hread, hmarked,
    defaults_frozen _ hrun rfl hj hread hmarked⟩

end ClusterAdmission
