import ClusterAdmission.Api
import ClusterAdmission.Error

/-!
# Programs of requests

What a client does is a program: requests one after another, each depending on the responses so
far, and at the end a value or a failure. `run` plays it against a server, which is any function
that answers a request in a state; nothing here depends on how the server keeps objects.
-/

namespace ClusterAdmission

namespace Api

/-- A program of requests. -/
inductive Program (α : Type) where
  | done (a : α)
  | fail (f : Failure)
  | call (r : Request) (next : Response → Program α)

/-- A request with its response. -/
abbrev Exchange := Request × Response

/-- How a run of a program ended: its answer, the state it left and what went over the wire. -/
structure Run (σ α : Type) where
  answer : Except Failure α
  state : σ
  exchanges : List Exchange := []

namespace Program

variable {σ α β : Type}

/-- Continues with the value of a program. -/
def bind : Program α → (α → Program β) → Program β
  | done a, k => k a
  | fail f, _ => fail f
  | call r next, k => call r fun response => (next response).bind k

instance : Monad Program where
  pure := done
  bind := bind

/-- Takes the failure of a program as a value. -/
def attempt : Program α → Program (Except Failure α)
  | done a => done (.ok a)
  | fail f => done (.error f)
  | call r next => call r fun response => (next response).attempt

/-- The program that ends with a result. -/
def ofResult : Except Failure α → Program α
  | .ok a => done a
  | .error f => fail f

/-- Plays a program against a server. -/
def run (serve : σ → Request → σ × Response) : Program α → σ → Run σ α
  | done a, s => ⟨.ok a, s, []⟩
  | fail f, s => ⟨.error f, s, []⟩
  | call r next, s =>
    let (s', response) := serve s r
    let rest := (next response).run serve s'
    { rest with exchanges := (r, response) :: rest.exchanges }

variable (serve : σ → Request → σ × Response) (s : σ)

@[simp] theorem run_pure (a : α) : (pure a : Program α).run serve s = ⟨.ok a, s, []⟩ := rfl

/-- Running one program after another. -/
theorem run_bind (p : Program α) (k : α → Program β) :
    (p >>= k).run serve s =
      let first := p.run serve s
      match first.answer with
      | .ok a =>
        let second := (k a).run serve first.state
        { second with exchanges := first.exchanges ++ second.exchanges }
      | .error f => ⟨.error f, first.state, first.exchanges⟩ := by
  change (p.bind k).run serve s = _
  induction p generalizing s with
  | done a => rfl
  | fail f => rfl
  | call r next ih =>
    simp only [bind, run, ih]
    cases ((next (serve s r).2).run serve (serve s r).1).answer <;> rfl

/-- An attempt does what the program does and answers with its result. -/
theorem run_attempt (p : Program α) :
    p.attempt.run serve s =
      let first := p.run serve s
      ⟨.ok first.answer, first.state, first.exchanges⟩ := by
  induction p generalizing s with
  | done a => rfl
  | fail f => rfl
  | call r next ih => simp only [attempt, run, ih]

end Program

end Api

end ClusterAdmission
