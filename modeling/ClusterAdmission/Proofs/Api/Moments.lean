import ClusterAdmission.Api.State
import Mathlib.Data.List.Chain

/-!
# What runs pass through

A run of a program passes through a state after each of its requests (`Program.states`), and what
relates each state to the next is put together from the parts of the program
(`Program.isChain_states_bind`). A program that only reads stays in the state that it starts in,
whatever it is answered (`Program.ReadOnly.eq_of_mem_states`); the reads of checks are such programs
(`Read.fetch_readOnly`).
-/

namespace ClusterAdmission.Api.Program

variable {σ α β : Type}

/-! ## States -/

/-- The states that a run passes through: the one it starts in, and one after each request. -/
def states (serve : σ → Request → σ × Response) : Program α → σ → List σ
  | done _, s | fail _, s => [s]
  | call r next, s => s :: (next (serve s r).2).states serve (serve s r).1

variable {serve : σ → Request → σ × Response}

/-- A run ends in a state that it passes through. -/
theorem state_mem_states (p : Program α) (s : σ) : (p.run serve s).state ∈ p.states serve s := by
  induction p generalizing s with
  | done a => exact List.mem_singleton_self s
  | fail f => exact List.mem_singleton_self s
  | call r next ih => exact List.mem_cons_of_mem s (ih (serve s r).2 (serve s r).1)

/-- A run of one program after another passes through the states of the first and, if that answers,
from its last one through those of the second. -/
theorem mem_states_bind {p : Program α} {k : α → Program β} {s t : σ}
    (h : t ∈ (p >>= k).states serve s) :
    t ∈ p.states serve s ∨
      ∃ a, (p.run serve s).answer = .ok a ∧ t ∈ (k a).states serve (p.run serve s).state := by
  change t ∈ (p.bind k).states serve s at h
  -- Along the requests of the first program, each of which moves the state on.
  induction p generalizing s with
  | done a => exact .inr ⟨a, rfl, h⟩
  | fail f => exact .inl h
  | call r next ih =>
    rcases List.mem_cons.1 h with rfl | h
    · exact .inl List.mem_cons_self
    · exact (ih (serve s r).2 h).imp_left (List.mem_cons_of_mem s)

theorem head?_states (p : Program α) (s : σ) : (p.states serve s).head? = some s := by
  cases p <;> rfl

theorem getLast?_states (p : Program α) (s : σ) :
    (p.states serve s).getLast? = some (p.run serve s).state := by
  induction p generalizing s with
  | done a => rfl
  | fail f => rfl
  | call r next ih =>
    rw [states, List.getLast?_cons, ih]
    rfl

/-- What holds from each state to the next along both parts of a run holds along the run. -/
theorem isChain_states_bind {R : σ → σ → Prop} {p : Program α} {k : α → Program β} {s : σ}
    (hp : (p.states serve s).IsChain R)
    (hk : ∀ a, (p.run serve s).answer = .ok a →
      ((k a).states serve (p.run serve s).state).IsChain R) :
    ((p >>= k).states serve s).IsChain R := by
  change ((p.bind k).states serve s).IsChain R
  induction p generalizing s with
  | done a => exact hk a rfl
  | fail f => exact hp
  | call r next ih =>
    obtain ⟨hfirst, hrest⟩ := List.isChain_cons.1 hp
    refine List.isChain_cons.2 ⟨?_, ih _ hrest hk⟩
    -- Whatever follows the first request starts in the state that the request leaves.
    have hhead : (((next (serve s r).2).bind k).states serve (serve s r).1).head? =
        some (serve s r).1 := head?_states _ _
    rw [hhead]
    rw [head?_states] at hfirst
    exact hfirst

/-- A run of one request at most passes through its first state and one more. -/
theorem isChain_of_length_le {R : σ → σ → Prop} {p : Program α} {s : σ}
    (hlength : (p.states serve s).length ≤ 2) (h : ∀ t ∈ p.states serve s, R s t) :
    (p.states serve s).IsChain R := by
  have hhead : (p.states serve s).head? = some s := head?_states p s
  match hstates : p.states serve s with
  | [] => exact List.isChain_nil
  | [t] => exact List.isChain_singleton t
  | [t, u] =>
    rw [hstates] at hhead h
    obtain rfl : t = s := Option.some.inj hhead
    exact List.isChain_pair.2 (h u (by simp))
  | t :: u :: v :: rest =>
    rw [hstates] at hlength
    simp at hlength

/-- An attempt passes through the same states. -/
theorem states_attempt (p : Program α) (s : σ) : p.attempt.states serve s = p.states serve s := by
  induction p generalizing s with
  | done a => rfl
  | fail f => rfl
  | call r next ih => simp only [attempt, states, ih]

/-! ## Programs that only read -/

/-- Whatever the responses are, no request can change the state. -/
def ReadOnly : Program α → Prop
  | done _ | fail _ => True
  | call r next => r.isWrite = false ∧ ∀ response, (next response).ReadOnly

theorem ReadOnly.bind {p : Program α} {k : α → Program β} (hp : p.ReadOnly)
    (hk : ∀ a, (k a).ReadOnly) : (p >>= k).ReadOnly := by
  change (p.bind k).ReadOnly
  induction p with
  | done a => exact hk a
  | fail f => trivial
  | call r next ih => exact ⟨hp.1, fun response => ih response (hp.2 response)⟩

theorem ReadOnly.attempt {p : Program α} (hp : p.ReadOnly) : p.attempt.ReadOnly := by
  induction p with
  | done a => trivial
  | fail f => trivial
  | call r next ih => exact ⟨hp.1, fun response => ih response (hp.2 response)⟩

theorem readOnly_ofResult (result : Except Failure α) : (ofResult result).ReadOnly := by
  cases result with
  | ok a => trivial
  | error f => trivial

theorem ReadOnly.eq_of_mem_states {p : Program α} (hp : p.ReadOnly)
    (hserve : ∀ s r, r.isWrite = false → (serve s r).1 = s) {s t : σ}
    (h : t ∈ p.states serve s) : t = s := by
  induction p generalizing s with
  | done a => exact List.mem_singleton.1 h
  | fail f => exact List.mem_singleton.1 h
  | call r next ih =>
    rcases List.mem_cons.1 h with rfl | h
    · rfl
    · rw [hserve s r hp.1] at h
      exact ih (serve s r).2 (hp.2 (serve s r).2) h

theorem ReadOnly.state_run {p : Program α} (hp : p.ReadOnly)
    (hserve : ∀ s r, r.isWrite = false → (serve s r).1 = s) (s : σ) :
    (p.run serve s).state = s :=
  hp.eq_of_mem_states hserve (state_mem_states p s)

theorem ReadOnly.isChain_states {R : σ → σ → Prop} {p : Program α} (hp : p.ReadOnly)
    (hserve : ∀ s r, r.isWrite = false → (serve s r).1 = s) {s : σ} (hs : R s s) :
    (p.states serve s).IsChain R := by
  refine List.Pairwise.isChain (List.pairwise_of_forall_mem_list fun t ht u hu => ?_)
  rw [hp.eq_of_mem_states hserve ht, hp.eq_of_mem_states hserve hu]
  exact hs

theorem ReadOnly.isWrite_of_mem_exchanges {p : Program α} (hp : p.ReadOnly) {s : σ} {e : Exchange}
    (h : e ∈ (p.run serve s).exchanges) : e.1.isWrite = false := by
  induction p generalizing s with
  | done a => cases h
  | fail f => cases h
  | call r next ih =>
    rcases List.mem_cons.1 h with rfl | h
    · exact hp.1
    · exact ih (serve s r).2 (hp.2 (serve s r).2) h

end ClusterAdmission.Api.Program

/-! ## The reads of checks -/

namespace ClusterAdmission

open Api (Program)

theorem Api.readOnly_sendFor {α : Type} {decode : Json → Option α} {r : Api.Request}
    (h : r.isWrite = false) : (Api.sendFor decode r).ReadOnly := by
  unfold Api.sendFor Api.send
  refine Program.ReadOnly.bind ?_ fun response => Program.readOnly_ofResult _
  split
  · exact ⟨h, fun _ => trivial⟩
  · trivial

theorem Api.readOnly_listResources (k : Kind) (space : Option String) :
    (Api.listResources k space).ReadOnly := by
  unfold Api.listResources Api.send
  refine Program.ReadOnly.bind ?_ fun response => Program.readOnly_ofResult _
  split
  · exact ⟨rfl, fun _ => trivial⟩
  · trivial

theorem Api.readOnly_getResource (k : Kind) (space name : String) :
    (Api.getResource k space name).ReadOnly :=
  Api.readOnly_sendFor rfl

/-- Every read of a check only reads. -/
theorem Read.fetch_readOnly (r : Read) : r.fetch.ReadOnly := by
  cases r with
  | clusters space => exact Api.readOnly_listResources _ _
  | storages space => exact Api.readOnly_listResources _ _
  | backups space owner =>
    exact (Api.readOnly_listResources _ _).bind fun _ => trivial
  | secret space name =>
    exact (Api.readOnly_sendFor rfl).bind fun _ => Program.readOnly_ofResult _
  | cluster | engine | storage | backup | loadBalancer | monitoring | schedulingPolicy
  | splitHorizon => exact Api.readOnly_getResource _ _ _

end ClusterAdmission
