import ClusterAdmission.Proofs.Check.Program

/-!
# Checks that stop at a failed read

What a check asks for is a sequence of steps: reads, each with the rejection that there is for a
missing object, if any, and probes. A check is strict if a read that fails is its last step
(`Check.Strict`): it ends with the failure of that read, or with the rejection for a missing object
(`Check.Strict.run_of_failed`). The steps of checks are strict, and so is one after another.
-/

namespace ClusterAdmission

/-- What is reported for a failed read: its failure, or the rejection for a missing object if there
is one. -/
def Failure.reported (missing : Option Violation) : Failure → Failure
  | .notFound message => missing.elim (.notFound message) .rejected
  | f => f

@[simp] theorem Failure.reported_none (f : Failure) : f.reported none = f := by cases f <;> rfl

namespace Check

/-- What a check asks for. -/
inductive Step where
  /-- A read, with the rejection for a missing object if there is one. -/
  | read (r : Read) (missing : Option Violation)
  | probe (call : ProbeCall)

variable {α β : Type} {steps : Step → Prop} {view : View} {prober : Prober} {c : Check α}

/-- A check takes certain steps only, and ends where a read fails. -/
def Strict (steps : Step → Prop) : Check α → Prop
  | done _ | fail _ => True
  | read r next =>
    (∃ missing, steps (.read r missing) ∧ ∀ f, next (.error f) = fail (f.reported missing)) ∧
      ∀ a, (next (.ok a)).Strict steps
  | probe call next => steps (.probe call) ∧ ∀ outcome, (next outcome).Strict steps

/-! ## Steps -/

theorem strict_pure (a : α) : (pure a : Check α).Strict steps := trivial

theorem strict_rule (v : Verdict) : (rule v).Strict steps := by
  cases v <;> trivial

theorem strict_require (ok : Bool) (v : Violation) : (require ok v).Strict steps := strict_rule _

theorem strict_get {r : Read} (h : steps (.read r none)) : (get r).Strict steps :=
  ⟨⟨none, h, fun f => congrArg fail f.reported_none.symm⟩, fun _ => trivial⟩

theorem strict_getReferenced {r : Read} {missing : Violation}
    (h : steps (.read r (some missing))) : (getReferenced r missing).Strict steps :=
  ⟨⟨some missing, h, fun f => by cases f <;> rfl⟩, fun _ => trivial⟩

theorem strict_mustAccept {storage : BackupStorage} {credentials : StorageCredentials}
    (h : steps (.probe ⟨storage, credentials⟩)) : (mustAccept storage credentials).Strict steps :=
  ⟨h, fun outcome => by cases outcome <;> trivial⟩

theorem Strict.bind {k : α → Check β} (hc : c.Strict steps) (hk : ∀ a, (k a).Strict steps) :
    (c >>= k).Strict steps := by
  change (c.bind k).Strict steps
  induction c with
  | done a => exact hk a
  | fail f => trivial
  | read r next ih =>
    obtain ⟨⟨missing, hstep, hfail⟩, hnext⟩ := hc
    exact ⟨⟨missing, hstep, fun f => congrArg (·.bind k) (hfail f)⟩, fun a => ih _ (hnext a)⟩
  | probe call next ih => exact ⟨hc.1, fun outcome => ih outcome (hc.2 outcome)⟩

theorem Strict.ite {condition : Prop} [Decidable condition] {d : Check α} (hc : c.Strict steps)
    (hd : d.Strict steps) : (if condition then c else d).Strict steps := by
  split
  · exact hc
  · exact hd

/-! ## Runs -/

/-- A read that fails makes a strict check fail with what is reported for it. -/
theorem Strict.run_of_failed (hc : c.Strict steps) {r : Read} {f : Failure}
    (hr : r ∈ c.reads view prober) (hf : view r = .error f) :
    ∃ missing, steps (.read r missing) ∧ c.run view prober = .error (f.reported missing) := by
  induction c with
  | done a | fail g => cases hr
  | read r' next ih =>
    obtain ⟨⟨missing, hstep, hfail⟩, hnext⟩ := hc
    rw [run]
    rcases List.mem_cons.1 hr with rfl | hlater
    · exact ⟨missing, hstep, by rw [hf, hfail, run]⟩
    · cases hview : view r' with
      | ok a =>
        rw [hview] at hlater
        exact ih _ (hnext a) hlater
      | error g =>
        -- Nothing is read after a failed read.
        rw [hview, hfail] at hlater
        cases hlater
  | probe call next ih => exact ih _ (hc.2 _) hr

end Check

end ClusterAdmission
