import ClusterAdmission.Proofs.Chain.Filter
import ClusterAdmission.Proofs.Operation.Effect

/-!
# Runs of requests

The policies in front of the API serve requests one after another, each with its own faults and
verdicts of probes. The store is looked at at every moment: after each request of a check or of an
operation to the API (`Policies.moments`). From one moment to the next nothing happens to the
resources but the effect of an operation whose check has passed (`Policies.moments_follow`), so what
these keep holds at every moment (`Policies.Keeps.of_mem_moments`).
-/

namespace ClusterAdmission

open Api (Program)

/-- A request to the platform, with the circumstances under which it is served. -/
structure Submission where
  op : Operation
  context : Context := {}
  prober : Prober := fun _ => .accepted
  faults : List Api.Fault := []

namespace Submission

variable (r : Submission) (p : Policies)

/-- The chain that serves a request. -/
def chain : Chain := { Chain.standard p r.prober with faults := r.faults }

/-- The state after a request. -/
def after (s : Chain.State) : Chain.State := ((r.chain p).handle r.context r.op s).state

/-- All that a request sends: the reads of its check, and then the requests of its operation. -/
def program : Program r.op.Result :=
  match r.op.policy p with
  | none => r.op.perform
  | some check => check.program r.prober >>= fun _ => r.op.perform

/-- The stores at every moment while a request is served. -/
def moments (s : Store) : List Store := (r.program p).states (Api.serveUnder r.faults) s

/-- The check of a request, if it has one, passes. -/
def Admitted (s : Store) : Prop :=
  ∀ check, r.op.policy p = some check →
    check.run (View.through (Api.serveUnder r.faults) s) r.prober = .ok ()

/-- While a request that starts in `s` is served, what is sent to the API leaves the resources as
they are, or the check has passed and the effect comes about. -/
def Advances (s u v : Store) : Prop :=
  u.SameResources v ∨ r.Admitted p s ∧ s.SameResources u ∧
    ∃ e, r.op.effect = some e ∧ e.Happens s v

variable {r p}

theorem Admitted.of_check {s : Store} {check : Check Unit} (hpolicy : r.op.policy p = some check)
    (h : check.run (View.through (Api.serveUnder r.faults) s) r.prober = .ok ()) :
    r.Admitted p s := by
  intro check' hcheck'
  rw [hpolicy] at hcheck'
  obtain rfl := Option.some.inj hcheck'
  exact h

theorem admitted_iff {s : Store} {check : Check Unit} (hpolicy : r.op.policy p = some check) :
    r.Admitted p s ↔ check.run (View.through (Api.serveUnder r.faults) s) r.prober = .ok () :=
  ⟨fun h => h check hpolicy, .of_check hpolicy⟩

/-- The chain answers and leaves the store as the program does. -/
theorem handle_eq_run_program (context : Context) (s : Chain.State) :
    let reply := (r.chain p).handle context r.op s
    let run := (r.program p).run (Api.serveUnder r.faults) s.store
    reply.answer = run.answer ∧ reply.state.store = run.state := by
  cases hpolicy : r.op.policy p with
  | none =>
    obtain ⟨hanswer, hstore, -⟩ :=
      Chain.forwards_of_policy (c := r.chain p) rfl hpolicy context s
    simp only [program, hpolicy]
    exact ⟨hanswer, hstore⟩
  | some check =>
    have hfilter : (r.chain p).FilteredBy r.op check := Chain.filteredBy_of_policy rfl hpolicy
    have hstate : ((check.program r.prober).run (Api.serveUnder r.faults) s.store).state =
        s.store := hfilter.store_asked s
    simp only [program, hpolicy, Program.run_bind, hstate]
    cases hasked : ((check.program r.prober).run (Api.serveUnder r.faults) s.store).answer with
    | error f =>
      obtain ⟨hanswer, hstore, -⟩ := hfilter.stops context s f hasked
      exact ⟨hanswer, hstore⟩
    | ok _ =>
      obtain ⟨hanswer, hstore, -⟩ := hfilter.forwards context s hasked
      exact ⟨hanswer, hstore⟩

theorem store_after_mem_moments (s : Chain.State) : (r.after p s).store ∈ r.moments p s.store := by
  rw [after, (handle_eq_run_program r.context s).2]
  exact Program.state_mem_states _ s.store

/-- The reads of a check leave the store alone, so every moment is one of the operation, if it is
not that of the start. -/
theorem mem_moments_cases {s t : Store} (h : t ∈ r.moments p s) :
    t = s ∨ t ∈ r.op.perform.states (Api.serveUnder r.faults) s := by
  cases hpolicy : r.op.policy p with
  | none =>
    simp only [moments, program, hpolicy] at h
    exact .inr h
  | some check =>
    simp only [moments, program, hpolicy] at h
    have hasks := check.program_readOnly r.prober
    have hserve (u : Store) (request : Api.Request) (hread : request.isWrite = false) :
        (Api.serveUnder r.faults u request).1 = u := Api.serveUnder_of_read hread
    rcases Program.mem_states_bind h with h | ⟨_, _, h⟩
    · exact .inl (hasks.eq_of_mem_states hserve h)
    · rw [hasks.state_run hserve] at h
      exact .inr h

/-- An admitted request is served as if there were no policies. -/
theorem agrees_of_admitted {s : Chain.State} (h : r.Admitted p s.store) :
    ((r.chain p).handle r.context r.op s).Agrees ((r.chain p).bare.handle r.context r.op s) := by
  cases hpolicy : r.op.policy p with
  | none =>
    have hforwards : (r.chain p).Forwards r.op := Chain.forwards_of_policy rfl hpolicy
    exact hforwards r.context s
  | some check =>
    have hfilter : (r.chain p).FilteredBy r.op check := Chain.filteredBy_of_policy rfl hpolicy
    refine hfilter.forwards r.context s ?_
    rw [check.answer_run_program (r.chain p).serve_of_read]
    exact h check hpolicy

/-- An admitted request leaves what its operation leaves. -/
theorem store_after_of_admitted {s : Chain.State} (h : r.Admitted p s.store) :
    (r.after p s).store = (r.op.perform.run (Api.serveUnder r.faults) s.store).state :=
  (agrees_of_admitted h).store

/-- An admitted request is answered as its operation is. -/
theorem answer_of_admitted {s : Chain.State} (h : r.Admitted p s.store) :
    ((r.chain p).handle r.context r.op s).answer =
      (r.op.perform.run (Api.serveUnder r.faults) s.store).answer :=
  (agrees_of_admitted h).answer

/-- A request whose check fails leaves the store as it is. -/
theorem store_after_of_failed {s : Chain.State} {check : Check Unit} {f : Failure}
    (hpolicy : r.op.policy p = some check)
    (hf : check.run (View.through (Api.serveUnder r.faults) s.store) r.prober = .error f) :
    (r.after p s).store = s.store := by
  have hfilter : (r.chain p).FilteredBy r.op check := Chain.filteredBy_of_policy rfl hpolicy
  refine (hfilter.stops r.context s f ?_).2.1
  rw [check.answer_run_program (r.chain p).serve_of_read]
  exact hf

/-- A request leaves what its operation leaves, or the store as it is. -/
theorem store_after_cases (s : Chain.State) : (r.after p s).store = s.store ∨
    (r.after p s).store = (r.op.perform.run (Api.serveUnder r.faults) s.store).state := by
  cases hpolicy : r.op.policy p with
  | none =>
    refine .inr (store_after_of_admitted fun check hcheck => ?_)
    rw [hpolicy] at hcheck
    cases hcheck
  | some check =>
    cases hcheck : check.run (View.through (Api.serveUnder r.faults) s.store) r.prober with
    | error f => exact .inl (store_after_of_failed hpolicy hcheck)
    | ok _ => exact .inr (store_after_of_admitted (.of_check hpolicy hcheck))

/-- A request that is answered with a value has passed its check, whose probes are all that are
made, and the value is that of its operation. -/
theorem of_answered {s : Chain.State} {check : Check Unit} {a : r.op.Result}
    (hpolicy : r.op.policy p = some check)
    (h : ((r.chain p).handle r.context r.op s).answer = .ok a) :
    let view := View.through (Api.serveUnder r.faults) s.store
    check.run view r.prober = .ok () ∧
      ((r.chain p).handle r.context r.op s).probes = check.probes view r.prober ∧
      (r.op.perform.run (Api.serveUnder r.faults) s.store).answer = .ok a := by
  have hfilter : (r.chain p).FilteredBy r.op check := Chain.filteredBy_of_policy rfl hpolicy
  have hasked : ((check.program r.prober).run (r.chain p).serve s.store).answer =
      check.run (View.through (Api.serveUnder r.faults) s.store) r.prober :=
    check.answer_run_program (r.chain p).serve_of_read s.store
  cases hcheck : check.run (View.through (Api.serveUnder r.faults) s.store) r.prober with
  | error f =>
    have hstopped := (hfilter.stops r.context s f (hasked.trans hcheck)).1
    rw [hstopped] at h
    cases h
  | ok _ =>
    refine ⟨hcheck, Chain.probes_of_passed rfl hpolicy hcheck, ?_⟩
    rw [(hfilter.forwards r.context s (hasked.trans hcheck)).answer] at h
    exact h

theorem moments_advance (s : Store) : (r.moments p s).IsChain (r.Advances p s) := by
  have hperform (hadmitted : r.Admitted p s) :
      (r.op.perform.states (Api.serveUnder r.faults) s).IsChain (r.Advances p s) :=
    (Operation.perform_advances r.op s).imp fun _ _ huv =>
      huv.imp_right fun hhappens => ⟨hadmitted, hhappens⟩
  cases hpolicy : r.op.policy p with
  | none =>
    simp only [moments, program, hpolicy]
    refine hperform fun check hcheck => ?_
    rw [hpolicy] at hcheck
    cases hcheck
  | some check =>
    simp only [moments, program, hpolicy]
    -- The check leaves the store as it is, so what it has shown holds where the operation starts.
    have hasks : (check.program r.prober).ReadOnly := check.program_readOnly r.prober
    have hserve (u : Store) (request : Api.Request) (hread : request.isWrite = false) :
        (Api.serveUnder r.faults u request).1 = u := Api.serveUnder_of_read hread
    refine Program.isChain_states_bind (hasks.isChain_states hserve (.inl (.refl s))) ?_
    intro _ hasked
    rw [hasks.state_run hserve]
    rw [check.answer_run_program hserve] at hasked
    exact hperform (.of_check hpolicy hasked)

/-- At every moment the resources are as they were before the request, or its check has passed and
its effect has come about. -/
theorem moment_cases {s t : Store} (h : t ∈ r.moments p s) :
    s.SameResources t ∨ r.Admitted p s ∧ ∃ e, r.op.effect = some e ∧ e.Happens s t := by
  refine (moments_advance s).induction
    (fun t => s.SameResources t ∨ r.Admitted p s ∧ ∃ e, r.op.effect = some e ∧ e.Happens s t)
    _ ?_ ?_ t h
  · rintro u v (hsame | ⟨hadmitted, -, hhappens⟩) hu
    · exact hu.imp (fun hsu => hsu.trans hsame) fun ⟨hadmitted, e, he, hhappens⟩ =>
        ⟨hadmitted, e, he, hhappens.after (Operation.effect_place_ne_secrets he) hsame⟩
    · exact .inr ⟨hadmitted, hhappens⟩
  · intro hne
    have hhead : (r.moments p s).head? = some s := Program.head?_states _ s
    rw [List.head?_eq_some_head hne] at hhead
    rw [Option.some.inj hhead]
    exact .inl (.refl s)

/-- A request leaves every resource alone but the one that its operation writes. -/
theorem get?_after {s : Chain.State} {q : Place} (hq : q.collection ≠ .secrets)
    (hne : ∀ e, r.op.effect = some e → q ≠ e.place) :
    (r.after p s).store.get? q = s.store.get? q := by
  rcases moment_cases (store_after_mem_moments s) with hsame | ⟨-, e, he, hhappens⟩
  · exact hsame q hq
  · exact hhappens.others q hq (hne e he)

end Submission

namespace Policies

/-- The stores at every moment of a run of requests, served one after another. -/
def moments (p : Policies) : Chain.State → List Submission → List Store
  | s, [] => [s.store]
  | s, r :: rest => r.moments p s.store ++ p.moments (r.after p s) rest

/-- The state after a run. -/
def final (p : Policies) : Chain.State → List Submission → Chain.State
  | s, [] => s
  | s, r :: rest => p.final (r.after p s) rest

/-- From one moment to the next the resources stay as they are, or an admitted request has its
effect on them. -/
def Follows (p : Policies) (u v : Store) : Prop :=
  u.SameResources v ∨ ∃ r : Submission, ∃ s e, r.Admitted p s ∧ s.SameResources u ∧
    r.op.effect = some e ∧ e.Happens s v

theorem head?_moments (p : Policies) (s : Chain.State) (rs : List Submission) :
    (p.moments s rs).head? = some s.store := by
  cases rs with
  | nil => rfl
  | cons r rest =>
    have hhead : (r.moments p s.store).head? = some s.store := Program.head?_states _ _
    rw [moments, List.head?_append, hhead, Option.some_or]

/-- While a request is served, each moment follows the one before it, and where it starts in the
store that it has left, so does what comes after. -/
theorem isChain_moments_append {R : Store → Store → Prop} (p : Policies)
    (hfollows : ∀ u v, p.Follows u v → R u v) (r : Submission) (s : Chain.State)
    {later : List Store} (hlater : later.IsChain R)
    (hhead : later.head? = some (r.after p s).store) :
    (r.moments p s.store ++ later).IsChain R := by
  refine List.isChain_append.2 ⟨?_, hlater, ?_⟩
  · refine (Submission.moments_advance s.store).imp fun u v huv => hfollows u v (huv.imp_right ?_)
    rintro ⟨hadmitted, hsame, e, he, hhappens⟩
    exact ⟨r, s.store, e, hadmitted, hsame, he, hhappens⟩
  · intro u hu v hv
    have hlast : (r.moments p s.store).getLast? = some (r.after p s).store := by
      rw [Submission.after, (Submission.handle_eq_run_program r.context s).2]
      exact Program.getLast?_states _ _
    rw [hlast] at hu
    rw [hhead] at hv
    obtain rfl := Option.some.inj hu
    obtain rfl := Option.some.inj hv
    exact hfollows _ _ (.inl (.refl _))

/-- Each moment of a run follows the one before it. -/
theorem moments_follow (p : Policies) (s : Chain.State) (rs : List Submission) :
    (p.moments s rs).IsChain p.Follows := by
  induction rs generalizing s with
  | nil => exact List.isChain_singleton s.store
  | cons r rest ih =>
    exact p.isChain_moments_append (fun _ _ => id) r s (ih (r.after p s)) (p.head?_moments _ rest)

/-- So does each moment of a stretch of a run. -/
theorem follows_of_infix {p : Policies} {s : Chain.State} {rs : List Submission}
    {stretch : List Store} (h : stretch <:+: p.moments s rs) : stretch.IsChain p.Follows := by
  obtain ⟨before, after, hrun⟩ := h
  have hall : (before ++ stretch ++ after).IsChain p.Follows := by
    rw [hrun]
    exact p.moments_follow s rs
  exact hall.left_of_append.right_of_append

theorem store_final_mem_moments (p : Policies) (s : Chain.State) (rs : List Submission) :
    (p.final s rs).store ∈ p.moments s rs := by
  induction rs generalizing s with
  | nil => exact List.mem_singleton_self s.store
  | cons r rest ih => exact List.mem_append_right _ (ih (r.after p s))

/-- What every request keeps at each of its moments, and holds at the start, holds at every moment
of a run. -/
theorem of_mem_moments (p : Policies) {I : Store → Prop}
    (h : ∀ (r : Submission) (s t : Store), I s → t ∈ r.moments p s → I t) {s : Chain.State}
    {rs : List Submission} {t : Store} (hs : I s.store) (ht : t ∈ p.moments s rs) : I t := by
  induction rs generalizing s with
  | nil =>
    obtain rfl := List.mem_singleton.1 ht
    exact hs
  | cons r rest ih =>
    rcases List.mem_append.1 ht with ht | ht
    · exact h r s.store t hs ht
    · exact ih (h r s.store _ hs (Submission.store_after_mem_moments s)) ht

/-- A property of resources that the effect of every admitted request keeps. -/
structure Keeps (p : Policies) (I : Store → Prop) : Prop where
  same {s t : Store} : s.SameResources t → I s → I t
  effect {r : Submission} {s t : Store} {e : Effect} :
    r.Admitted p s → r.op.effect = some e → e.Happens s t → I s → I t

variable {p : Policies} {I : Store → Prop}

theorem Keeps.of_mem_moment (h : p.Keeps I) {r : Submission} {s t : Store} (hs : I s)
    (ht : t ∈ r.moments p s) : I t := by
  rcases Submission.moment_cases ht with hsame | ⟨hadmitted, e, he, hhappens⟩
  · exact h.same hsame hs
  · exact h.effect hadmitted he hhappens hs

/-- What every admitted request keeps is kept from one moment to the next. -/
theorem Keeps.of_follows (h : p.Keeps I) {u v : Store} (huv : p.Follows u v) (hu : I u) : I v := by
  rcases huv with hsame | ⟨r, s, e, hadmitted, hsame, he, hhappens⟩
  · exact h.same hsame hu
  · exact h.effect hadmitted he hhappens (h.same hsame.symm hu)

/-- What every admitted request keeps and holds at the start holds at every moment of a run. -/
theorem Keeps.of_mem_moments (h : p.Keeps I) {s : Chain.State} {rs : List Submission} {t : Store}
    (hs : I s.store) (ht : t ∈ p.moments s rs) : I t :=
  p.of_mem_moments (fun _ _ _ => h.of_mem_moment) hs ht

end Policies

end ClusterAdmission
