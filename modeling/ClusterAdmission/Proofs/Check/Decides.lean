import ClusterAdmission.Proofs.Rules.Decides

/-!
# What checks decide

A check passes exactly what has a property, and where it does not pass it reports a failure of its
own, or passes on that of a read that has failed for another reason than a missing object
(`Check.Decides`). A check that goes through families of rules in order (`Check.Judges`) passes what
all of them hold of, and reports on the first one that does not hold (`Check.Judges.bind`).
-/

namespace ClusterAdmission

/-- A failure is a rejection for one of some violations. -/
def Failure.RejectedFor (violations : List Violation) (f : Failure) : Prop :=
  ∃ w ∈ violations, f = .rejected w

theorem Failure.RejectedFor.mono {violations more : List Violation} {f : Failure}
    (h : f.RejectedFor violations) (hsub : violations ⊆ more) : f.RejectedFor more := by
  obtain ⟨w, hw, rfl⟩ := h
  exact ⟨w, hsub hw, rfl⟩

namespace Check

variable {α β : Type} {view : View} {prober : Prober}

/-! ## Reads -/

theorem reads_bind (c : Check α) (k : α → Check β) :
    (c >>= k).reads view prober = c.reads view prober ++
      match c.run view prober with
      | .ok a => (k a).reads view prober
      | .error _ => [] := by
  change (c.bind k).reads view prober = _
  induction c with
  | done a => rfl
  | fail f => rfl
  | read r next ih => exact congrArg (r :: ·) (ih (view r))
  | probe call next ih => exact ih (prober call)

/-- A failure is that of a read of the check, which has not only found nothing. -/
def Outage (view : View) (prober : Prober) (c : Check α) (f : Failure) : Prop :=
  f.isNotFound = false ∧ ∃ r ∈ c.reads view prober, view r = .error f

variable {c : Check α} {k : α → Check β} {f : Failure}

theorem Outage.bind_left (h : c.Outage view prober f) : (c >>= k).Outage view prober f := by
  obtain ⟨hfound, r, hr, hf⟩ := h
  refine ⟨hfound, r, ?_, hf⟩
  rw [reads_bind]
  exact List.mem_append_left _ hr

theorem Outage.bind_right {a : α} (ha : c.run view prober = .ok a)
    (h : (k a).Outage view prober f) : (c >>= k).Outage view prober f := by
  obtain ⟨hfound, r, hr, hf⟩ := h
  refine ⟨hfound, r, ?_, hf⟩
  rw [reads_bind, ha]
  exact List.mem_append_right _ hr

theorem run_bind_eq_error {e : Failure} :
    (c >>= k).run view prober = .error e ↔ c.run view prober = .error e ∨
      ∃ a, c.run view prober = .ok a ∧ (k a).run view prober = .error e := by
  rw [run_bind]
  cases c.run view prober with
  | ok a => simp
  | error e' => simp

/-! ## Deciding -/

/-- A check passes if and only if a property holds, and what it fails with is either an outage or
reported for. -/
structure Decides (view : View) (prober : Prober) (c : Check α) (P : Prop)
    (reports : Failure → Prop) : Prop where
  ok_iff : (∃ a, c.run view prober = .ok a) ↔ P
  of_error {f : Failure} : c.run view prober = .error f → c.Outage view prober f ∨ reports f

namespace Decides

variable {P Q : Prop} {reports more : Failure → Prop} {v : Verdict} {violations : List Violation}
  {r : Read}

theorem pass (a : α) : Decides view prober (pure a) True reports := ⟨by simp, nofun⟩

theorem rule (h : Rules.Decides v P violations) :
    Decides view prober (Check.rule v) P (Failure.RejectedFor violations) where
  ok_iff := by simpa using h.ok_iff
  of_error {f} hrun := by
    rw [run_rule] at hrun
    cases hv : v with
    | ok =>
      rw [hv] at hrun
      cases hrun
    | error w =>
      rw [hv] at hrun
      cases hrun
      exact .inr ⟨w, h.mem_of_error hv, rfl⟩

theorem congr (h : Decides view prober c P reports) (hPQ : P ↔ Q) :
    Decides view prober c Q reports :=
  ⟨h.ok_iff.trans hPQ, h.of_error⟩

theorem mono (h : Decides view prober c P reports) (hsub : ∀ f, reports f → more f) :
    Decides view prober c P more :=
  ⟨h.ok_iff, fun hrun => (h.of_error hrun).imp_right (hsub _)⟩

/-- One check after another where the second depends on the value of the first. -/
theorem bind_value {S Q : α → Prop} (hc : Decides view prober c P reports)
    (hvalue : ∀ a, c.run view prober = .ok a ↔ S a)
    (hk : ∀ a, S a → Decides view prober (k a) (Q a) reports) :
    Decides view prober (c >>= k) (∃ a, S a ∧ Q a) reports where
  ok_iff := by
    simp only [run_bind_eq_ok, hvalue]
    constructor
    · rintro ⟨b, a, ha, hb⟩
      exact ⟨a, ha, (hk a ha).ok_iff.1 ⟨b, hb⟩⟩
    · rintro ⟨a, ha, hQ⟩
      obtain ⟨b, hb⟩ := (hk a ha).ok_iff.2 hQ
      exact ⟨b, a, ha, hb⟩
  of_error {f} hrun := by
    rcases run_bind_eq_error.1 hrun with hfirst | ⟨a, ha, hsecond⟩
    · exact (hc.of_error hfirst).imp_left .bind_left
    · exact ((hk a ((hvalue a).1 ha)).of_error hsecond).imp_left (.bind_right ha)

theorem bind (hc : Decides view prober c P reports)
    (hk : ∀ a, c.run view prober = .ok a → Decides view prober (k a) Q reports) :
    Decides view prober (c >>= k) (P ∧ Q) reports := by
  refine (hc.bind_value (fun _ => Iff.rfl) hk).congr ?_
  rw [exists_and_right, hc.ok_iff]

/-- A read of an object that has to be there. -/
theorem getReferenced (r : Read) {missing : Violation} (hmissing : missing ∈ violations) :
    Decides view prober (Check.getReferenced r missing) (∃ a, view r = .ok a)
      (Failure.RejectedFor violations) where
  ok_iff := by simp only [run_getReferenced_eq_ok]
  of_error {f} hrun := by
    rcases run_getReferenced_eq_error.1 hrun with ⟨_, -, rfl⟩ | ⟨hfound, hview⟩
    · exact .inr ⟨missing, hmissing, rfl⟩
    · exact .inl ⟨hfound, r, List.mem_cons_self, hview⟩

/-- A read whose failure is that of the check. -/
theorem get (r : Read) (hmissing : ∀ f, f.isNotFound → view r = .error f → reports f) :
    Decides view prober (Check.get r) (∃ a, view r = .ok a) reports where
  ok_iff := by simp only [run_get_eq_ok]
  of_error {f} hrun := by
    rw [run_get] at hrun
    cases hfound : f.isNotFound with
    | false => exact .inl ⟨hfound, r, List.mem_cons_self, hrun⟩
    | true => exact .inr (hmissing f hfound hrun)

end Decides

/-! ## Judging by families -/

/-- A check passes if and only if all families hold, and what it fails with is either an outage or
reported for the first family that does not hold. -/
structure Judges {ι : Type} (view : View) (prober : Prober) (c : Check α) (holds : ι → Prop)
    (reports : ι → Failure → Prop) (families : List ι) : Prop where
  ok_iff : (∃ a, c.run view prober = .ok a) ↔ ∀ i ∈ families, holds i
  first_of_error {f : Failure} : c.run view prober = .error f → c.Outage view prober f ∨
    ∃ before i after, families = before ++ i :: after ∧ (∀ j ∈ before, holds j) ∧ ¬ holds i ∧
      reports i f

variable {ι : Type} {holds : ι → Prop} {reports : ι → Failure → Prop} {fs gs : List ι}

theorem Decides.judges {i : ι} (h : Decides view prober c (holds i) (reports i)) :
    Judges view prober c holds reports [i] where
  ok_iff := by rw [h.ok_iff, List.forall_mem_singleton]
  first_of_error {f} hrun := by
    refine (h.of_error hrun).imp_right fun hreports =>
      ⟨[], i, [], rfl, by simp, fun hholds => ?_, hreports⟩
    obtain ⟨a, ha⟩ := h.ok_iff.2 hholds
    rw [hrun] at ha
    cases ha

theorem Judges.pass (a : α) : Judges view prober (pure a) holds reports [] := ⟨by simp, nofun⟩

/-- One check after another: the families of the second are asked where those of the first hold. -/
theorem Judges.bind (hc : Judges view prober c holds reports fs)
    (hk : ∀ a, c.run view prober = .ok a → Judges view prober (k a) holds reports gs) :
    Judges view prober (c >>= k) holds reports (fs ++ gs) where
  ok_iff := by
    simp only [run_bind_eq_ok, List.forall_mem_append]
    rw [← hc.ok_iff]
    constructor
    · rintro ⟨b, a, ha, hb⟩
      exact ⟨⟨a, ha⟩, (hk a ha).ok_iff.1 ⟨b, hb⟩⟩
    · rintro ⟨⟨a, ha⟩, hgs⟩
      obtain ⟨b, hb⟩ := (hk a ha).ok_iff.2 hgs
      exact ⟨b, a, ha, hb⟩
  first_of_error {f} hrun := by
    rcases run_bind_eq_error.1 hrun with hfirst | ⟨a, ha, hsecond⟩
    · rcases hc.first_of_error hfirst with houtage | ⟨before, i, after, rfl, hbefore, hi, hreports⟩
      · exact .inl houtage.bind_left
      · exact .inr ⟨before, i, after ++ gs, by simp, hbefore, hi, hreports⟩
    · rcases (hk a ha).first_of_error hsecond with
        houtage | ⟨before, i, after, rfl, hbefore, hi, hreports⟩
      · exact .inl (houtage.bind_right ha)
      · -- The first check has passed, so all its families hold.
        exact .inr ⟨fs ++ before, i, after, by simp,
          List.forall_mem_append.2 ⟨hc.ok_iff.1 ⟨a, ha⟩, hbefore⟩, hi, hreports⟩

/-- A check that is made under a condition only: without the condition its family holds. -/
theorem Judges.ite {condition : Prop} [Decidable condition] {i : ι} {c : Check Unit}
    {k : Unit → Check β} (hthen : condition → Judges view prober c holds reports [i])
    (helse : ¬ condition → holds i) (hk : Judges view prober (k ()) holds reports gs) :
    Judges view prober (if condition then c >>= k else k ()) holds reports (i :: gs) := by
  split
  · next h => exact (hthen h).bind fun _ _ => hk
  · next h =>
    refine ⟨?_, fun hrun => (hk.first_of_error hrun).imp_right ?_⟩
    · rw [hk.ok_iff, List.forall_mem_cons, and_iff_right (helse h)]
    · rintro ⟨before, j, after, rfl, hbefore, hj, hreports⟩
      exact ⟨i :: before, j, after, rfl, List.forall_mem_cons.2 ⟨helse h, hbefore⟩, hj, hreports⟩

end Check

end ClusterAdmission
