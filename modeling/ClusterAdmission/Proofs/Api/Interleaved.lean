import ClusterAdmission.Proofs.Api.Versioned
import Mathlib.Logic.Function.Basic

/-!
# Two clients at once

Two clients send the requests of their programs in any order (`Pair.play`), and every request meets
the store that those before it have left. Which of them had a replacement accepted, and in which
order, is read off what went over the wire (`Pair.writers`).

The API that they share keeps what it accepts (`Keeping`): it shows what is stored, stores the
fields that it is sent, and a patch changes nothing but its object. An API that keeps versions is
one (`Versioned.keeping`).
-/

namespace ClusterAdmission.Api

/-- One of two clients. -/
inductive Client where
  | first
  | second
  deriving DecidableEq, Repr

namespace Client

/-- The one that is not this one. -/
def other : Client → Client
  | first => second
  | second => first

theorem ne_other (c : Client) : c ≠ c.other := by
  cases c <;> decide

theorem eq_or_eq_other (c d : Client) : d = c ∨ d = c.other := by
  cases c <;> cases d <;> decide

theorem other_other (c : Client) : c.other.other = c := by
  cases c <;> rfl

/-- A list without repetition is that of none, of one or of both clients in some order. -/
theorem cases_of_nodup {cs : List Client} (h : cs.Nodup) :
    cs = [] ∨ (∃ c, cs = [c]) ∨ ∃ c : Client, cs = [c, c.other] := by
  match cs with
  | [] => exact .inl rfl
  | [c] => exact .inr (.inl ⟨c, rfl⟩)
  | [c, d] =>
    have hne : d ≠ c := fun heq => (List.nodup_cons.1 h).1 (List.mem_singleton.2 heq.symm)
    exact .inr (.inr ⟨c, by rw [(c.eq_or_eq_other d).resolve_left hne]⟩)
  | c :: d :: e :: rest =>
    -- Of three clients two are the same.
    cases c <;> cases d <;> cases e <;> simp at h

end Client

/-! ## Programs in turns -/

/-- Two clients in the midst of their programs. -/
structure Pair (σ α : Type) where
  state : σ
  /-- What each of them has still to do. -/
  programs : Client → Program α
  /-- What went over the wire so far. -/
  log : List (Client × Exchange) := []

/-- Whether an exchange is a replacement that was accepted. -/
def Exchange.isReplaced : Exchange → Bool
  | (.replace .., response) => !response.isRefused
  | _ => false

/-- Whether a program has ended with a value. -/
def Program.isDone {α : Type} : Program α → Bool
  | done _ => true
  | fail _ | call .. => false

namespace Pair

variable {σ α : Type} {serve : σ → Request → σ × Response}

/-- A client sends its next request, if it has one left. -/
def step (serve : σ → Request → σ × Response) (w : Pair σ α) (c : Client) : Pair σ α :=
  match w.programs c with
  | .done _ | .fail _ => w
  | .call r next =>
    { state := (serve w.state r).1
      programs := Function.update w.programs c (next (serve w.state r).2)
      log := w.log ++ [(c, r, (serve w.state r).2)] }

/-- The clients take turns. -/
def play (serve : σ → Request → σ × Response) (w : Pair σ α) (turns : List Client) : Pair σ α :=
  turns.foldl (step serve) w

/-- The clients whose replacements were accepted, in the order in which they were. -/
def writers (w : Pair σ α) : List Client := (w.log.filter fun e => e.2.isReplaced).map (·.1)

/-- Whether a client has been answered with a value. -/
def Answered (w : Pair σ α) (c : Client) : Prop := (w.programs c).isDone

instance (w : Pair σ α) (c : Client) : Decidable (w.Answered c) :=
  inferInstanceAs (Decidable ((w.programs c).isDone = true))

variable {w : Pair σ α} {c : Client}

theorem step_of_call {r : Request} {next : Response → Program α}
    (h : w.programs c = .call r next) :
    w.step serve c =
      { state := (serve w.state r).1
        programs := Function.update w.programs c (next (serve w.state r).2)
        log := w.log ++ [(c, r, (serve w.state r).2)] } := by
  rw [step, h]

theorem step_of_fail {f : Failure} (h : w.programs c = .fail f) : w.step serve c = w := by
  rw [step, h]

theorem step_of_done {a : α} (h : w.programs c = .done a) : w.step serve c = w := by
  rw [step, h]

theorem writers_append (s : σ) (programs : Client → Program α) (log : List (Client × Exchange))
    (e : Exchange) :
    (⟨s, programs, log ++ [(c, e)]⟩ : Pair σ α).writers =
      (⟨s, programs, log⟩ : Pair σ α).writers ++ if e.isReplaced then [c] else [] := by
  simp only [writers, List.filter_append, List.map_append]
  cases h : e.isReplaced <;> simp [h]

end Pair

/-! ## What two clients rely on -/

/-- What is read is what is stored, a resource that replaces another is stored with its fields, and
a patch changes its own object only. -/
structure Keeping (serve : Store → Request → Store × Response) : Prop extends Optimistic serve where
  shown {s : Store} {p : Place} {j : Json} : (serve s (.get p)).2 = .object j → s.get? p = some j
  stored {s : Store} {k : Kind} {p : Place} {r : Resource k} : p.collection = .resources k →
    (∀ fields, k.status? fields = some none) →
      (serve s (.replace p r.toJson)).2.isRefused = false →
        ((serve s (.replace p r.toJson)).1.get? p).bind (Resource.specIn? k) = some r.spec
  elsewhere {s : Store} {p q : Place} {body : Json} : q ≠ p →
    (serve s (.patch p body)).1.get? q = s.get? q

theorem Versioned.keeping : Keeping Versioned.serve where
  toOptimistic := optimistic
  shown {s p j} h := by
    change (Api.serve s (.get p)).2 = .object j at h
    rw [Api.serve] at h
    split at h
    · next hget =>
      cases h
      exact hget
    · cases h
  stored {s k p r} hp hstatus haccepted := by
    rcases serve_replace s p r.toJson with ⟨old, -, -, heq⟩ | ⟨code, message, heq⟩
    · have hread := Resource.specIn?_of_ofJson? (ofJson?_stamp hstatus (nextVersion old) r)
      rw [heq, put, Store.keep, SortedMap.get?_insert_self, Option.bind_some, hp]
      exact hread
    · rw [heq] at haccepted
      cases haccepted
  elsewhere {s p q body} hne := by
    rcases serve_patch s p body with ⟨old, -, heq⟩ | ⟨code, message, heq⟩
    · rw [heq]
      exact SortedMap.get?_insert_of_ne _ _ hne
    · rw [heq]

end ClusterAdmission.Api
