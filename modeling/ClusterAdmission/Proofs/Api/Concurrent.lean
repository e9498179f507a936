import ClusterAdmission.Proofs.Api.Changes

/-!
# Other clients in between

While a program runs, the API may serve other clients before each of its requests (`serveAmong`).
The state that a run leaves is that of all these requests together, and of its own only the writes
that were accepted count (`state_run_among`): without any, the state is as the others alone leave it
(`woven_of_accepted_eq_nil`).

Nothing is said here of how the API keeps objects. What clients rely on is `Answers`; an API that
keeps versions, so that nobody replaces what they have not read, is `Optimistic`.
-/

namespace ClusterAdmission

/-- The version of an object, empty if it has none. -/
def Store.versionOf (object : Json) : String := metadataText object "resourceVersion"

namespace Api

/-! ## What clients rely on -/

/-- Whether a response is a refusal. -/
def Response.isRefused : Response → Bool
  | .refused .. => true
  | .object _ | .objects _ | .deleted => false

/-- Reads and refused requests change nothing, and a resource that replaces another is refused or
answered as a resource. -/
structure Answers {σ : Type} (serve : σ → Request → σ × Response) : Prop where
  read {s : σ} {r : Request} : r.isWrite = false → (serve s r).1 = s
  refused {s : σ} {r : Request} : (serve s r).2.isRefused → (serve s r).1 = s
  replaced {s : σ} {k : Kind} {p : Place} {r : Resource k} : p.collection = .resources k →
    (∀ fields, k.status? fields = some none) →
      (serve s (.replace p r.toJson)).2.isRefused ∨
        ∃ j stored, (serve s (.replace p r.toJson)).2 = .object j ∧
          Resource.ofJson? k j = some stored

/-- Every write changes the version of its object, and no object is replaced by one of another
version. -/
structure Optimistic (serve : Store → Request → Store × Response) : Prop extends Answers serve where
  fresh {s : Store} {r : Request} {p : Place} {body old : Json} :
    r = .replace p body ∨ r = .patch p body → (serve s r).2.isRefused = false →
      s.get? p = some old →
        ∃ new, (serve s r).1.get? p = some new ∧ Store.versionOf new ≠ Store.versionOf old
  stale {s : Store} {p : Place} {body old : Json} : s.get? p = some old →
    Store.versionOf body ≠ Store.versionOf old →
      ∃ message, (serve s (.replace p body)).2 = .refused 409 message

/-! ## Serving several clients -/

section Serving

variable {σ α : Type} {serve : σ → Request → σ × Response}

/-- The state that requests leave, one after another. -/
def serveAll (serve : σ → Request → σ × Response) (s : σ) (rs : List Request) : σ :=
  rs.foldl (fun t r => (serve t r).1) s

/-- Answers a request after those that other clients send before it. -/
def serveAmong (serve : σ → Request → σ × Response) :
    σ × List (List Request) → Request → (σ × List (List Request)) × Response
  | (s, others), r =>
    let (t, response) := serve (serveAll serve s (others.headD [])) r
    ((t, others.tail), response)

theorem serveAll_append (s : σ) (rs rs' : List Request) :
    serveAll serve s (rs ++ rs') = serveAll serve (serveAll serve s rs) rs' :=
  List.foldl_append

/-- Whether an exchange is a write that was accepted. -/
def Exchange.isAccepted (e : Exchange) : Bool := e.1.isWrite && !e.2.isRefused

/-- The writes of a run that were accepted. -/
def Run.accepted (run : Run σ α) : List Exchange := run.exchanges.filter Exchange.isAccepted

/-- The requests of other clients, and among them the accepted ones of a run. -/
def woven : List (List Request) → List Exchange → List Request
  | _, [] => []
  | others, e :: rest =>
    others.headD [] ++ ((if e.isAccepted then [e.1] else []) ++ woven others.tail rest)

/-- What is not accepted changes nothing. -/
theorem Answers.state_serve (h : Answers serve) (s : σ) (r : Request) :
    (serve s r).1 =
      serveAll serve s (if Exchange.isAccepted (r, (serve s r).2) then [r] else []) := by
  split
  · rfl
  · next hnot =>
    cases hwrite : r.isWrite with
    | false => exact h.read hwrite
    | true => exact h.refused (by simpa [Exchange.isAccepted, hwrite] using hnot)

/-- A run leaves what its accepted requests leave among those of other clients. -/
theorem state_run_among (h : Answers serve) (p : Program α) (s : σ)
    (others : List (List Request)) :
    (p.run (serveAmong serve) (s, others)).state.1 =
      serveAll serve s (woven others (p.run (serveAmong serve) (s, others)).exchanges) := by
  induction p generalizing s others with
  | done a => rfl
  | fail f => rfl
  | call r next ih =>
    simp only [Program.run, serveAmong, woven]
    rw [ih, serveAll_append, serveAll_append, ← h.state_serve]

/-! ## Few accepted requests -/

theorem flatten_take_succ (others : List (List Request)) (n : Nat) :
    (others.take (n + 1)).flatten = others.headD [] ++ (others.tail.take n).flatten := by
  cases others with
  | nil => simp
  | cons rs rest => rfl

/-- Without accepted requests of the run there are only those of the others. -/
theorem woven_of_accepted_eq_nil {es : List Exchange} (h : es.filter Exchange.isAccepted = [])
    (others : List (List Request)) : woven others es = (others.take es.length).flatten := by
  induction es generalizing others with
  | nil => rfl
  | cons e rest ih =>
    obtain ⟨he, hrest⟩ := List.forall_mem_cons.1 (List.filter_eq_nil_iff.1 h)
    rw [woven, if_neg he, List.nil_append, ih (List.filter_eq_nil_iff.2 hrest), List.length_cons,
      flatten_take_succ]

/-- The only accepted request of a run stands somewhere among those of the others. -/
theorem woven_of_accepted_eq_singleton {es : List Exchange} {e : Exchange}
    (h : es.filter Exchange.isAccepted = [e]) (others : List (List Request)) :
    ∃ before after, before ++ after = (others.take es.length).flatten ∧
      woven others es = before ++ e.1 :: after := by
  induction es generalizing others with
  | nil => cases h
  | cons e' rest ih =>
    rw [List.length_cons, flatten_take_succ]
    cases he' : e'.isAccepted with
    | true =>
      rw [List.filter_cons_of_pos he'] at h
      obtain ⟨rfl, hrest⟩ := List.cons.inj h
      refine ⟨_, _, rfl, ?_⟩
      rw [woven, if_pos he', woven_of_accepted_eq_nil hrest]
      rfl
    | false =>
      rw [List.filter_cons_of_neg (by simp [he'])] at h
      obtain ⟨before, after, hothers, hwoven⟩ := ih h others.tail
      refine ⟨others.headD [] ++ before, after, ?_, ?_⟩
      · rw [List.append_assoc, hothers]
      · rw [woven, he', hwoven, List.append_assoc]
        rfl

end Serving

end Api

end ClusterAdmission
