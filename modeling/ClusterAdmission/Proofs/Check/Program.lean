import ClusterAdmission.Proofs.Api.Moments

/-!
# Checks as programs

A check sends its reads one after another, so against a server it is a program
(`Check.program`), and each read meets the state that the ones before it left. Since the program
only reads (`Check.program_readOnly`), they all meet the same state, and its answer is that of the
check under a view (`Check.answer_run_program`).
-/

namespace ClusterAdmission

open Api (Program)

namespace Check

variable {α β : Type} {view : View} {prober : Prober}

/-- The requests of a check, with the verdicts of a prober. -/
def program (prober : Prober) : Check α → Program α
  | done a => .done a
  | fail f => .fail f
  | read r next => r.fetch.attempt >>= fun answer => (next answer).program prober
  | probe call next => (next (prober call)).program prober

theorem program_readOnly (prober : Prober) (c : Check α) : (c.program prober).ReadOnly := by
  induction c with
  | done a => trivial
  | fail f => trivial
  | read r next ih => exact r.fetch_readOnly.attempt.bind ih
  | probe call next ih => exact ih (prober call)

section Running

variable {σ : Type} {serve : σ → Api.Request → σ × Api.Response}

theorem state_run_program (hserve : ∀ s r, r.isWrite = false → (serve s r).1 = s) (c : Check α)
    (s : σ) : ((c.program prober).run serve s).state = s :=
  (c.program_readOnly prober).state_run hserve s

theorem answer_run_program (hserve : ∀ s r, r.isWrite = false → (serve s r).1 = s) (c : Check α)
    (s : σ) : ((c.program prober).run serve s).answer = c.run (View.through serve s) prober := by
  induction c with
  | done a => rfl
  | fail f => rfl
  | read r next ih =>
    have hstate : (r.fetch.run serve s).state = s := r.fetch_readOnly.state_run hserve s
    simp only [program, Program.run_bind, Program.run_attempt, hstate]
    exact ih _
  | probe call next ih => exact ih (prober call)

end Running

/-! ## Passing

What is known when a check has passed, step by step.
-/

@[simp] theorem run_bind_eq_ok {c : Check α} {k : α → Check β} {b : β} :
    (c >>= k).run view prober = .ok b ↔
      ∃ a, c.run view prober = .ok a ∧ (k a).run view prober = .ok b := by
  rw [run_bind]
  cases c.run view prober with
  | ok a => simp
  | error f => simp

/-- Checks that run alike, with what follows them. -/
theorem run_bind_congr {prober' : Prober} {c c' : Check α} {k k' : α → Check β}
    (hc : c'.run view prober' = c.run view prober)
    (hk : ∀ a, c.run view prober = .ok a → (k' a).run view prober' = (k a).run view prober) :
    (c' >>= k').run view prober' = (c >>= k).run view prober := by
  rw [run_bind, run_bind, hc]
  cases hrun : c.run view prober with
  | ok a => exact hk a hrun
  | error f => rfl

/-- Nothing is passed on from a check that has no value. -/
theorem run_then_eq_ok {c : Check Unit} {k : Unit → Check β} {b : β} :
    (c >>= k).run view prober = .ok b ↔
      c.run view prober = .ok () ∧ (k ()).run view prober = .ok b := by
  rw [run_bind_eq_ok]
  exact ⟨fun ⟨_, h⟩ => h, fun h => ⟨(), h⟩⟩

@[simp] theorem run_rule_eq_ok {v : Verdict} {u : Unit} :
    (rule v).run view prober = .ok u ↔ v = .ok () := by
  rw [run_rule]
  cases v with
  | ok => simp
  | error w => simp

theorem run_require (view : View) (prober : Prober) (ok : Bool) (v : Violation) :
    (require ok v).run view prober = if ok then .ok () else .error (.rejected v) := by
  cases ok <;> rfl

@[simp] theorem run_require_eq_ok {ok : Bool} {v : Violation} {u : Unit} :
    (require ok v).run view prober = .ok u ↔ ok = true := by
  rw [require, run_rule_eq_ok, Rules.require_eq_ok]

/-- A read is answered by the view. -/
theorem run_get (view : View) (prober : Prober) (r : Read) : (get r).run view prober = view r := by
  rw [get, run]
  cases view r with
  | ok a => rfl
  | error f => rfl

theorem run_get_eq_ok {r : Read} {a : r.Answer} :
    (get r).run view prober = .ok a ↔ view r = .ok a := by
  rw [run_get]

theorem run_getReferenced_eq_ok {r : Read} {missing : Violation} {a : r.Answer} :
    (getReferenced r missing).run view prober = .ok a ↔ view r = .ok a := by
  rw [getReferenced, run]
  cases view r with
  | ok b => exact Iff.rfl
  | error f => cases f <;> simp [run]

theorem run_getReferenced_eq_error {r : Read} {missing : Violation} {f : Failure} :
    (getReferenced r missing).run view prober = .error f ↔
      (∃ message, view r = .error (.notFound message) ∧ f = .rejected missing) ∨
        f.isNotFound = false ∧ view r = .error f := by
  rw [getReferenced, run]
  cases view r with
  | ok b => simp [run]
  | error e => cases e <;> cases f <;> simp [run, Failure.isNotFound, eq_comm]

end Check

namespace Rules

/-- A rule and what follows it both pass. -/
@[simp] theorem bind_eq_ok {α : Type} {v : Verdict} {k : Unit → Except Violation α} {a : α} :
    (v >>= k) = .ok a ↔ v = .ok () ∧ k () = .ok a := by
  cases v with
  | ok => exact ⟨fun h => ⟨rfl, h⟩, fun h => h.2⟩
  | error w => exact ⟨nofun, nofun⟩

end Rules

end ClusterAdmission
