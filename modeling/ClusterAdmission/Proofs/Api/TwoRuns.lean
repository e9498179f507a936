import ClusterAdmission.Proofs.Api.Changes
import ClusterAdmission.Proofs.Secret

/-!
# Two runs side by side

Two programs are alike (`Program.Alike`) if they fail with one failure or answer with related
values, and leave related states. There is one rule for each way to build a program. The states here
are stores that are the same but for what is kept at some places (`Store.SameBut`): a request that
does not read there is answered alike (`serve_alike`), and so are two requests that put
different texts into a secret there (`createSecret_alike`, `patchSecret_alike`).
-/

namespace ClusterAdmission

/-- Two stores have objects at the same places, and the same ones but for exempt places. -/
structure Store.SameBut (exempt : Place → Prop) (s t : Store) : Prop where
  others {p : Place} : ¬ exempt p → t.get? p = s.get? p
  taken (p : Place) : t.contains p = s.contains p

namespace Store.SameBut

variable {exempt : Place → Prop} {s t : Store} {p : Place} {j j' : Json}

theorem refl (exempt : Place → Prop) (s : Store) : s.SameBut exempt s :=
  ⟨fun _ => rfl, fun _ => rfl⟩

theorem insert (h : s.SameBut exempt t) (hj : ¬ exempt p → j' = j) :
    Store.SameBut exempt (SortedMap.insert s p j) (SortedMap.insert t p j') where
  others {q} hq := by
    by_cases hplace : q = p
    · rw [hplace, SortedMap.get?_insert_self, SortedMap.get?_insert_self, hj (hplace ▸ hq)]
    · rw [SortedMap.get?_insert_of_ne t j' hplace, SortedMap.get?_insert_of_ne s j hplace,
        h.others hq]
  taken q := by
    by_cases hplace : q = p
    · rw [hplace, SortedMap.contains_insert_self, SortedMap.contains_insert_self]
    · rw [SortedMap.contains, SortedMap.contains, SortedMap.get?_insert_of_ne t j' hplace,
        SortedMap.get?_insert_of_ne s j hplace]
      exact h.taken q

theorem erase (h : s.SameBut exempt t) :
    Store.SameBut exempt (SortedMap.erase s p) (SortedMap.erase t p) where
  others {q} hq := by
    by_cases hplace : q = p
    · rw [hplace, SortedMap.get?_erase_self, SortedMap.get?_erase_self]
    · rw [SortedMap.get?_erase_of_ne t hplace, SortedMap.get?_erase_of_ne s hplace, h.others hq]
  taken q := by
    by_cases hplace : q = p
    · rw [hplace, SortedMap.contains_erase_self, SortedMap.contains_erase_self]
    · rw [SortedMap.contains, SortedMap.contains, SortedMap.get?_erase_of_ne t hplace,
        SortedMap.get?_erase_of_ne s hplace]
      exact h.taken q

end Store.SameBut

namespace Api

/-- Two answers are one failure, or two values that are related. -/
inductive AlikeAnswers {α β : Type} (V : α → β → Prop) :
    Except Failure α → Except Failure β → Prop
  | ok {a : α} {b : β} : V a b → AlikeAnswers V (.ok a) (.ok b)
  | error (f : Failure) : AlikeAnswers V (.error f) (.error f)

theorem alikeAnswers_eq_iff {α : Type} {a b : Except Failure α} : AlikeAnswers Eq a b ↔ a = b := by
  constructor
  · rintro (rfl | f) <;> rfl
  · rintro rfl
    cases a with
    | ok a => exact .ok rfl
    | error f => exact .error f

namespace Program

variable {σ α β γ δ : Type}

/-- Run from two states, two programs answer and leave states that are related. -/
structure Alike (serve : σ → Request → σ × Response) (R : σ → σ → Prop) (V : α → β → Prop)
    (p : Program α) (s : σ) (q : Program β) (t : σ) : Prop where
  answer : AlikeAnswers V (p.run serve s).answer (q.run serve t).answer
  state : R (p.run serve s).state (q.run serve t).state

variable {serve : σ → Request → σ × Response} {R Q : σ → σ → Prop} {V : α → β → Prop}
  {W : γ → δ → Prop} {p : Program α} {q : Program β} {s t : σ}

theorem Alike.pure {a : α} {b : β} (hst : R s t) (hab : V a b) :
    Alike serve R V (Pure.pure a) s (Pure.pure b) t :=
  ⟨.ok hab, hst⟩

theorem Alike.fail (f : Failure) (hst : R s t) :
    Alike serve R V (Program.fail f) s (Program.fail f) t :=
  ⟨.error f, hst⟩

theorem Alike.ofResult {a : Except Failure α} {b : Except Failure β} (hst : R s t)
    (hab : AlikeAnswers V a b) : Alike serve R V (ofResult a) s (ofResult b) t := by
  constructor
  · rw [run_ofResult, run_ofResult]
    exact hab
  · rw [run_ofResult, run_ofResult]
    exact hst

/-- What follows starts in states that are related, with values that are. -/
theorem Alike.bind {k : α → Program γ} {l : β → Program δ} (h : Alike serve Q V p s q t)
    (hQ : ∀ s' t', Q s' t' → R s' t')
    (hk : ∀ a b, V a b → ∀ s' t', Q s' t' → Alike serve R W (k a) s' (l b) t') :
    Alike serve R W (p >>= k) s (q >>= l) t := by
  obtain ⟨hanswer, hstate⟩ := h
  cases hp : (p.run serve s).answer with
  | ok a =>
    rw [hp] at hanswer
    cases hq : (q.run serve t).answer with
    | ok b =>
      rw [hq] at hanswer
      cases hanswer with
      | ok hab =>
        obtain ⟨hanswer', hstate'⟩ := hk a b hab _ _ hstate
        constructor <;> simp only [run_bind, hp, hq]
        · exact hanswer'
        · exact hstate'
    | error f =>
      rw [hq] at hanswer
      cases hanswer
  | error f =>
    rw [hp] at hanswer
    cases hq : (q.run serve t).answer with
    | ok b =>
      rw [hq] at hanswer
      cases hanswer
    | error g =>
      rw [hq] at hanswer
      cases hanswer
      constructor <;> simp only [run_bind, hp, hq]
      · exact .error f
      · exact hQ _ _ hstate

/-- Failures that are taken as values are the same. -/
theorem Alike.attempt (h : Alike serve R V p s q t) :
    Alike serve R (AlikeAnswers V) p.attempt s q.attempt t := by
  constructor <;> rw [run_attempt, run_attempt]
  · exact .ok h.answer
  · exact h.state

/-- A program that only reads is alike to itself, and leaves the state as it is. -/
theorem ReadOnly.alike {p : Program α} (hp : p.ReadOnly)
    (hserve : ∀ s r, r.isWrite = false → (serve s r).1 = s) (s : σ) :
    Alike serve (fun u v => u = s ∧ v = s) (fun a b => a = b ∧ (p.run serve s).answer = .ok a)
      p s p s where
  answer := by
    cases hanswer : (p.run serve s).answer with
    | ok a => exact .ok ⟨rfl, rfl⟩
    | error f => exact .error f
  state := ⟨hp.state_run hserve s, hp.state_run hserve s⟩

end Program

/-! ## Requests -/

/-- Two requests that the same faults strike, and of which both or neither can be sent. -/
structure Request.Akin (r r' : Request) : Prop where
  struck (f : Fault) : f.strikes r' = f.strikes r
  sendable : r'.isSendable = r.isSendable

/-- A request does not read at exempt places. -/
def Request.Avoids (exempt : Place → Prop) : Request → Prop
  | .get p | .patch p _ => ¬ exempt p
  | .list c _ => ∀ p : Place, p.collection = c → ¬ exempt p
  | .create .. | .replace .. | .delete _ => True

section Requests

variable {α β : Type} {exempt : Place → Prop} {s t : Store} {faults : List Fault}

/-- A request that does not read at exempt places is answered alike. -/
theorem serve_alike (h : s.SameBut exempt t) {r : Request} (hr : r.Avoids exempt) :
    (serve t r).2 = (serve s r).2 ∧ (serve s r).1.SameBut exempt (serve t r).1 := by
  cases r with
  | get p =>
    simp only [serve, h.others hr]
    split <;> exact ⟨rfl, h⟩
  | list c space =>
    have hlisted := Store.listed_congr fun p hp => h.others (hr p hp)
    exact ⟨congrArg Response.objects (hlisted space), h⟩
  | create c space body =>
    simp only [serve, h.taken]
    split
    · exact ⟨rfl, h⟩
    · exact ⟨rfl, h.insert fun _ => rfl⟩
  | replace p body =>
    simp only [serve, h.taken]
    split
    · exact ⟨rfl, h.insert fun _ => rfl⟩
    · exact ⟨rfl, h⟩
  | patch p body =>
    simp only [serve, h.others hr]
    split
    · exact ⟨rfl, h.insert fun _ => rfl⟩
    · exact ⟨rfl, h⟩
  | delete p =>
    simp only [serve, h.taken]
    split
    · exact ⟨rfl, h.erase⟩
    · exact ⟨rfl, h⟩

/-- Two requests under the same faults: neither reaches the API, or both do. -/
theorem alike_send {R : Store → Store → Prop} {V : α → β → Prop} {r r' : Request}
    {read : Response → Except Failure α} {read' : Response → Except Failure β} (hr : r.Akin r')
    (hst : R s t)
    (hrefused : ∀ code message,
      AlikeAnswers V (read (.refused code message)) (read' (.refused code message)))
    (hserve : AlikeAnswers V (read (serve s r).2) (read' (serve t r').2) ∧
      R (serve s r).1 (serve t r').1) :
    Program.Alike (serveUnder faults) R V (do let response ← send r; .ofResult (read response)) s
      (do let response ← send r'; .ofResult (read' response)) t := by
  have hunder : AlikeAnswers V (read (serveUnder faults s r).2) (read' (serveUnder faults t r').2) ∧
      R (serveUnder faults s r).1 (serveUnder faults t r').1 := by
    simp only [serveUnder, hr.struck]
    split
    · exact ⟨hrefused _ _, hst⟩
    · exact hserve
  constructor <;> rw [run_send_bind, run_send_bind, hr.sendable] <;> split
  · exact hunder.1
  · exact .error _
  · exact hunder.2
  · exact hst

/-- A request that does not read at exempt places, whatever is read from its response. -/
theorem alike_send_self {r : Request} (read : Response → Except Failure α) (hr : r.Avoids exempt)
    (hst : s.SameBut exempt t) :
    Program.Alike (serveUnder faults) (Store.SameBut exempt) Eq
      (do let response ← send r; .ofResult (read response)) s
      (do let response ← send r; .ofResult (read response)) t := by
  obtain ⟨hresponse, hstate⟩ := serve_alike hst hr
  refine alike_send ⟨fun _ => rfl, rfl⟩ hst (fun _ _ => alikeAnswers_eq_iff.2 rfl) ⟨?_, hstate⟩
  rw [hresponse]
  exact alikeAnswers_eq_iff.2 rfl

theorem createResource_alike {k : Kind} (r : Resource k) (hst : s.SameBut exempt t) :
    Program.Alike (serveUnder faults) (Store.SameBut exempt) Eq (createResource r) s
      (createResource r) t :=
  alike_send_self (r := .create ..) _ trivial hst

theorem replaceResource_alike {k : Kind} (space name : String) (r : Resource k)
    (hst : s.SameBut exempt t) :
    Program.Alike (serveUnder faults) (Store.SameBut exempt) Eq (replaceResource space name r) s
      (replaceResource space name r) t :=
  alike_send_self (r := .replace ..) _ trivial hst

/-! ## Secrets -/

variable {space name : String} {data data' : SecretData}

theorem deleteSecret_alike (hst : s.SameBut exempt t) :
    Program.Alike (serveUnder faults) (Store.SameBut exempt) Eq (deleteSecret space name) s
      (deleteSecret space name) t := by
  have hdelete : Program.Alike (serveUnder faults) (Store.SameBut exempt) Eq
      (sendDelete (secretPlace space name)) s (sendDelete (secretPlace space name)) t :=
    alike_send_self (r := .delete ..) _ trivial hst
  refine hdelete.attempt.bind (fun _ _ => id) fun result result' hresult u v huv => ?_
  obtain rfl := alikeAnswers_eq_iff.1 hresult
  exact .ofResult huv (alikeAnswers_eq_iff.2 rfl)

/-- Two objects of which both or neither can be read. -/
theorem alikeAnswers_object {decode : Json → Option α} {decode' : Json → Option β} {j j' : Json}
    (h : (decode j).isSome = (decode' j').isSome) :
    AlikeAnswers (fun _ _ => True) ((Response.object j).read decode)
      ((Response.object j').read decode') := by
  simp only [Response.read]
  cases hj : decode j <;> cases hj' : decode' j' <;> simp only [hj, hj'] at h ⊢
  · exact .error _
  · cases h
  · cases h
  · exact .ok trivial

/-- A new secret is created whatever its texts are. -/
theorem createSecret_alike (hexempt : exempt (secretPlace space name)) (hst : s.SameBut exempt t) :
    Program.Alike (serveUnder faults) (Store.SameBut exempt) Eq (createSecret space name data) s
      (createSecret space name data') t := by
  have hserve (u : Store) (data : SecretData) :
      serve u (.create .secrets space (Secret.newJson space name data)) =
        if u.contains (secretPlace space name) then (u, alreadyExists (secretPlace space name))
        else put u (secretPlace space name) (Secret.newJson space name data) := rfl
  have hsend : Program.Alike (serveUnder faults) (Store.SameBut exempt) (fun _ _ => True)
      (sendFor Secret.ofJson? (.create .secrets space (Secret.newJson space name data))) s
      (sendFor Secret.ofJson? (.create .secrets space (Secret.newJson space name data'))) t := by
    refine alike_send ⟨fun _ => rfl, rfl⟩ hst (fun _ _ => .error _) ?_
    rw [hserve, hserve, hst.taken]
    split
    · exact ⟨.error _, hst⟩
    · obtain ⟨bytes, hbytes, -⟩ := Secret.holds_new space name data
      obtain ⟨bytes', hbytes', -⟩ := Secret.holds_new space name data'
      exact ⟨alikeAnswers_object ((congrArg _ hbytes).trans (congrArg Option.isSome hbytes').symm),
        hst.insert fun hfree => absurd hexempt hfree⟩
  exact hsend.bind (fun _ _ => id) fun _ _ _ u v huv => .pure huv rfl

/-- A secret is patched alike if texts are set under the same keys. -/
theorem patchSecret_alike (hexempt : exempt (secretPlace space name)) (hst : s.SameBut exempt t)
    (hsame : t.get? (secretPlace space name) = s.get? (secretPlace space name))
    (hkeys : data.keys = data'.keys) :
    Program.Alike (serveUnder faults) (Store.SameBut exempt) Eq (patchSecret space name data) s
      (patchSecret space name data') t := by
  have hsend : Program.Alike (serveUnder faults) (Store.SameBut exempt) (fun _ _ => True)
      (sendFor Secret.ofJson? (.patch (secretPlace space name) (Secret.patchJson data))) s
      (sendFor Secret.ofJson? (.patch (secretPlace space name) (Secret.patchJson data'))) t := by
    refine alike_send ⟨fun _ => rfl, rfl⟩ hst (fun _ _ => .error _) ?_
    simp only [serve, hsame]
    split
    · next old hold =>
      exact ⟨alikeAnswers_object (Bool.eq_iff_iff.2 ⟨Secret.isSome_ofJson?_patch old hkeys,
        Secret.isSome_ofJson?_patch old hkeys.symm⟩),
        hst.insert fun hfree => absurd hexempt hfree⟩
    · exact ⟨.error _, hst⟩
  exact hsend.bind (fun _ _ => id) fun _ _ _ u v huv => .pure huv rfl

end Requests

end Api

end ClusterAdmission
