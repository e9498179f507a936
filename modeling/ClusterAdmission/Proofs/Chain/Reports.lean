import ClusterAdmission.Proofs.Chain.Clusters

/-!
# Runs with reports

Between requests the operators report on clusters. A report replaces the status of a cluster and
nothing else (`Store.report`), so what is stored and asked for stays (`Store.spec?_report`). The
moments of a run of requests and reports (`Policies.eventMoments`) follow one another as those of a
run of requests do, or by a report (`Policies.Moves`).
-/

namespace ClusterAdmission

open Api (resourcePlace)

/-! ## Reports -/

namespace Store

/-- The store after a report on the cluster of a name, if there is one that can be read. -/
def report (s : Store) (space name : String) (status : ClusterStatus) : Store :=
  match s.resource? .databaseCluster space name with
  | none => s
  | some c =>
    s.insert (resourcePlace .databaseCluster space name)
      (Resource.toJson { c with status := some status })

variable {s : Store} {space name : String} {status : ClusterStatus}

/-- A report leaves the store as it is, or writes the status of the cluster that is stored. -/
theorem report_cases (s : Store) (space name : String) (status : ClusterStatus) :
    s.report space name status = s ∨ ∃ (j : Json) (c : DatabaseCluster),
      s.get? (resourcePlace .databaseCluster space name) = some j ∧
      Resource.ofJson? .databaseCluster j = some c ∧
      s.report space name status = s.insert (resourcePlace .databaseCluster space name)
        (Resource.toJson { c with status := some status }) := by
  cases hread : s.resource? .databaseCluster space name with
  | none => exact .inl (by rw [report, hread])
  | some c =>
    obtain ⟨j, hj, hc⟩ := Option.bind_eq_some_iff.1 hread
    exact .inr ⟨j, c, hj, hc, by rw [report, hread]⟩

theorem get?_report_eq_none {q : Place} :
    (s.report space name status).get? q = none ↔ s.get? q = none := by
  rcases s.report_cases space name status with hsame | ⟨j, c, hj, -, hnew⟩
  · rw [hsame]
  · by_cases hq : q = resourcePlace .databaseCluster space name
    · rw [hnew, hq, SortedMap.get?_insert_self, hj]
      exact iff_of_false nofun nofun
    · rw [hnew, SortedMap.get?_insert_of_ne _ _ hq]

/-- What is asked for is not up to reports. -/
theorem spec?_report (k : Kind) (space' name' : String) :
    (s.report space name status).spec? k space' name' = s.spec? k space' name' := by
  rcases s.report_cases space name status with hsame | ⟨j, c, hj, hc, hnew⟩
  · rw [hsame]
  · by_cases hplace : resourcePlace k space' name' = resourcePlace .databaseCluster space name
    · obtain rfl : k = .databaseCluster := by
        cases congrArg Place.collection hplace
        rfl
      rw [spec?, spec?, hplace, hnew, SortedMap.get?_insert_self, hj, Option.bind_some,
        Option.bind_some, Resource.specIn?_toJson, Resource.specIn?_of_ofJson? hc]
    · rw [spec?, spec?, hnew, SortedMap.get?_insert_of_ne _ _ hplace]

theorem EachCluster.report {P : String → ClusterSpec → Prop} (h : s.EachCluster P) :
    (s.report space name status).EachCluster P := by
  intro space' name' j hj
  obtain ⟨old, hold⟩ : ∃ old, s.get? (resourcePlace .databaseCluster space' name') = some old := by
    refine Option.ne_none_iff_exists'.1 fun hnone => ?_
    rw [get?_report_eq_none.2 hnone] at hj
    cases hj
  obtain ⟨c, hc, hP⟩ := h space' name' old hold
  have hspec : (s.report space name status).spec? .databaseCluster space' name' = some c := by
    rw [spec?_report, spec?, hold, Option.bind_some, hc]
  rw [spec?, hj, Option.bind_some] at hspec
  exact ⟨c, hspec, hP⟩

end Store

/-! ## Runs -/

/-- What the platform is faced with. -/
inductive Event where
  | request (r : Submission)
  /-- An operator reports on a cluster. -/
  | report (space name : String) (status : ClusterStatus)

namespace Policies

/-- The stores at every moment of a run of requests and reports. -/
def eventMoments (p : Policies) : Chain.State → List Event → List Store
  | s, [] => [s.store]
  | s, .request r :: rest => r.moments p s.store ++ p.eventMoments (r.after p s) rest
  | s, .report space name status :: rest =>
    s.store :: p.eventMoments { s with store := s.store.report space name status } rest

/-- From one moment to the next a request is served or an operator reports. -/
def Moves (p : Policies) (u v : Store) : Prop :=
  p.Follows u v ∨ ∃ space name status, v = u.report space name status

theorem head?_eventMoments (p : Policies) (s : Chain.State) (es : List Event) :
    (p.eventMoments s es).head? = some s.store := by
  cases es with
  | nil => rfl
  | cons e rest =>
    cases e with
    | request r =>
      have hhead : (r.moments p s.store).head? = some s.store := Api.Program.head?_states _ _
      rw [eventMoments, List.head?_append, hhead, Option.some_or]
    | report space name status => rfl

/-- The moments of a run move on from one to the next. -/
theorem eventMoments_move (p : Policies) (s : Chain.State) (es : List Event) :
    (p.eventMoments s es).IsChain p.Moves := by
  induction es generalizing s with
  | nil => exact List.isChain_singleton s.store
  | cons e rest ih =>
    cases e with
    | request r =>
      exact p.isChain_moments_append (fun _ _ => .inl) r s (ih _) (p.head?_eventMoments _ rest)
    | report space name status =>
      refine List.isChain_cons.2 ⟨fun v hv => ?_, ih _⟩
      rw [head?_eventMoments] at hv
      exact .inr ⟨space, name, status, (Option.some.inj hv).symm⟩

/-- So do the moments of a stretch of a run. -/
theorem stretch_moves {p : Policies} {s : Chain.State} {es : List Event} {stretch : List Store}
    (h : stretch <:+: p.eventMoments s es) : stretch.IsChain p.Moves := by
  obtain ⟨before, after, hrun⟩ := h
  have hall : (before ++ stretch ++ after).IsChain p.Moves := by
    rw [hrun]
    exact p.eventMoments_move s es
  exact hall.left_of_append.right_of_append

/-- What requests and reports keep, and holds at the start, holds at every moment of a run. -/
theorem Keeps.of_mem_eventMoments {p : Policies} {I : Store → Prop} (h : p.Keeps I)
    (hreport : ∀ s space name status, I s → I (s.report space name status)) {s : Chain.State}
    {es : List Event} {t : Store} (hs : I s.store) (ht : t ∈ p.eventMoments s es) : I t := by
  refine (p.eventMoments_move s es).induction I _ ?_ ?_ t ht
  · rintro u v (hfollows | ⟨space, name, status, rfl⟩) hu
    · exact h.of_follows hfollows hu
    · exact hreport u space name status hu
  · intro hne
    have hhead := p.head?_eventMoments s es
    rw [List.head?_eq_some_head hne] at hhead
    rw [Option.some.inj hhead]
    exact hs

end Policies

end ClusterAdmission
