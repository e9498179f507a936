import ClusterAdmission.Api.State
import ClusterAdmission.Proofs.Api.Changes
import ClusterAdmission.Proofs.Check.Monotone
import ClusterAdmission.Proofs.SortedMap

/-!
# Views of a store that has changed elsewhere

A read that is answered, under whatever faults, is answered alike without faults in every store that
differs in another collection only (`Api.Program.Carries`). After a cluster is written, checks thus
see all that they have seen of other objects (`View.extends_through`).
-/

namespace ClusterAdmission

open Api (Program Request Response serve serveUnder)

/-- Two stores have the same objects, but for those of one collection. -/
def Store.SameOutside (c : Collection) (s t : Store) : Prop :=
  ∀ p : Place, p.collection ≠ c → t.get? p = s.get? p

variable {c : Collection} {s t : Store}

theorem Store.sameOutside_insert (s : Store) (p : Place) (j : Json) :
    s.SameOutside p.collection (s.insert p j) := by
  intro q hq
  refine SortedMap.get?_insert_of_ne s j ?_
  rintro rfl
  exact hq rfl

/-- A read in another collection is answered alike. -/
theorem Store.SameOutside.response_eq (h : s.SameOutside c t) {r : Request}
    (hread : r.isWrite = false) (hr : r.collection ≠ c) : (serve t r).2 = (serve s r).2 := by
  cases r with
  | get p =>
    rw [serve, serve, h p hr]
    split <;> rfl
  | list d space =>
    exact congrArg Response.objects (Store.listed_congr (fun p hp => h p (hp ▸ hr)) space)
  | create | replace | patch | delete => cases hread

namespace Api

/-- What a program answers with under faults, it answers with as well without them, in every store
that differs in one collection only. -/
def Program.Carries {α : Type} (c : Collection) (p : Program α) : Prop :=
  ∀ (faults : List Fault) (s t : Store) (a : α), s.SameOutside c t →
    (p.run (serveUnder faults) s).answer = .ok a → (p.run (serveUnder []) t).answer = .ok a

theorem carries_pure {α : Type} (a : α) : (pure a : Program α).Carries c :=
  fun _ _ _ _ _ h => h

theorem carries_ofResult {α : Type} (result : Except Failure α) :
    (Program.ofResult result).Carries c := by
  intro faults s t a _ h
  rw [run_ofResult] at h ⊢
  exact h

theorem Program.Carries.bind {α β : Type} {p : Program α} {k : α → Program β} (hp : p.Carries c)
    (hread : p.ReadOnly) (hk : ∀ a, (k a).Carries c) : (p >>= k).Carries c := by
  intro faults s t b hst h
  have hstate (faults : List Fault) (u : Store) : (p.run (serveUnder faults) u).state = u :=
    hread.state_run (fun _ _ => serveUnder_of_read) u
  simp only [Program.run_bind, hstate] at h ⊢
  cases hanswer : (p.run (serveUnder faults) s).answer with
  | ok a =>
    rw [hanswer] at h
    rw [hp faults s t a hst hanswer]
    exact hk a faults s t b hst h
  | error f =>
    rw [hanswer] at h
    cases h

theorem carries_send_bind {α : Type} {r : Request} {read : Response → Except Failure α}
    (hread : r.isWrite = false) (hr : r.collection ≠ c)
    (hrefused : ∀ code message a, read (.refused code message) ≠ .ok a) :
    (do let response ← send r; .ofResult (read response) : Program α).Carries c := by
  intro faults s t a hst h
  rw [run_send_bind] at h ⊢
  split at h
  · next hsend =>
    rw [if_pos hsend, serveUnder_nil, hst.response_eq hread hr]
    rcases serveUnder_cases faults s r with heq | ⟨code, message, heq⟩
    · rw [heq] at h
      exact h
    · rw [heq] at h
      exact absurd h (hrefused _ _ _)
  · cases h

theorem carries_get {α : Type} {decode : Json → Option α} {p : Place} (hp : p.collection ≠ c) :
    (sendFor decode (.get p)).Carries c :=
  carries_send_bind rfl hp fun _ _ _ => nofun

theorem carries_listResources {k : Kind} {space : Option String} (hk : .resources k ≠ c) :
    (listResources k space).Carries c :=
  carries_send_bind rfl hk fun _ _ _ => nofun

end Api

/-- After a change of clusters a check sees all that it has seen of other objects. -/
theorem View.extends_through {faults : List Api.Fault}
    (h : s.SameOutside (.resources .databaseCluster) t) :
    (View.through (serveUnder faults) s).Extends Read.OfOthers
      (View.through (serveUnder []) t) := by
  intro r hr a ha
  have hcarries : r.fetch.Carries (.resources .databaseCluster) := by
    cases r with
    | cluster | clusters => exact absurd hr id
    | engine | storage | backup | loadBalancer | monitoring | schedulingPolicy | splitHorizon =>
      exact Api.carries_get nofun
    | storages => exact Api.carries_listResources nofun
    | backups space owner =>
      have hlist : (Api.listResources .databaseClusterBackup (some space)).Carries
          (.resources .databaseCluster) := Api.carries_listResources nofun
      exact hlist.bind (Api.readOnly_listResources _ _) fun _ => Api.carries_pure _
    | secret space name =>
      have hget : (Api.sendFor Secret.ofJson? (.get (Api.secretPlace space name))).Carries
          (.resources .databaseCluster) := Api.carries_get nofun
      exact hget.bind (Api.readOnly_sendFor rfl) fun _ => Api.carries_ofResult _
  exact hcarries faults s t a h ha

end ClusterAdmission
