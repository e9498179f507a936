import ClusterAdmission.Operation.Perform
import ClusterAdmission.Proofs.Api.Versioned
import ClusterAdmission.Proofs.Operation.AllOrNothing

/-!
# Failed updates

An update with credentials patches the secret before it replaces the resource, and nothing takes the
patch back. So an update that fails has changed nothing unless its patch was accepted, and else
nothing but the secret, whatever other clients do in between (`failed_update`). It does fail with
the secret changed when another client writes the resource in between (`conflict_keeps_patch`).
-/

namespace ClusterAdmission

open Api (Answers Exchange Program Request Response Run resourcePlace secretPlace serveAll
  serveAmong)

namespace Api

variable {σ α β : Type} {serve : σ → Request → σ × Response}

/-! ## What runs accept -/

/-- Two programs in turn fail in the first, or in the second after the first. -/
theorem run_bind_failed {p : Program α} {next : α → Program β} {s : σ} {f : Failure}
    (h : ((p >>= next).run serve s).answer = .error f) :
    ((p >>= next).run serve s).accepted = (p.run serve s).accepted ∨
      ∃ a, (p.run serve s).answer = .ok a ∧
        ((next a).run serve (p.run serve s).state).answer = .error f ∧
        (p.run serve s).exchanges ⊆ ((p >>= next).run serve s).exchanges ∧
        ((p >>= next).run serve s).accepted =
          (p.run serve s).accepted ++ ((next a).run serve (p.run serve s).state).accepted := by
  cases hanswer : (p.run serve s).answer with
  | ok a =>
    simp only [Run.accepted, Program.run_bind, hanswer] at h ⊢
    exact .inr ⟨a, rfl, h, List.subset_append_left _ _, List.filter_append _ _⟩
  | error f' => exact .inl (by simp only [Run.accepted, Program.run_bind, hanswer])

theorem Program.ReadOnly.accepted_eq_nil {p : Program α} (hp : p.ReadOnly) (s : σ) :
    (p.run serve s).accepted = [] := by
  refine List.filter_eq_nil_iff.2 fun e he => ?_
  rw [Exchange.isAccepted, hp.isWrite_of_mem_exchanges he]
  exact Bool.false_ne_true

/-- Reading the response of one request accepts that request at most. -/
theorem accepted_send_bind (r : Request) (read : Response → Except Failure α) (s : σ) :
    List.Sublist
      ((do let response ← send r; .ofResult (read response) : Program α).run serve s).accepted
      [(r, (serve s r).2)] := by
  refine List.filter_sublist.trans ?_
  rw [run_send_bind]
  split
  · exact List.Sublist.refl _
  · exact List.nil_sublist _

/-- What is read of a resource has been answered. -/
theorem getResource_exchange {k : Kind} {space name : String} {s : σ} {r : Resource k}
    (h : ((getResource k space name).run serve s).answer = .ok r) :
    ∃ j, (.get (resourcePlace k space name), .object j) ∈
        ((getResource k space name).run serve s).exchanges ∧ Resource.ofJson? k j = some r := by
  rw [getResource, sendFor, run_send_bind] at h ⊢
  split at h
  · next hsend =>
    obtain ⟨j, hj, hread⟩ := Response.read_eq_ok h
    rw [if_pos hsend, hj]
    exact ⟨j, List.mem_singleton_self _, hread⟩
  · cases h

/-- A patch of a secret accepts itself at most. -/
theorem accepted_patchSecret (space name : String) (data : SecretData) (s : σ) :
    List.Sublist ((patchSecret space name data).run serve s).accepted
      [(.patch (secretPlace space name) (Secret.patchJson data),
        (serve s (.patch (secretPlace space name) (Secret.patchJson data))).2)] := by
  simp only [patchSecret, Run.accepted, Program.run_bind]
  split
  · simp only [Program.run_pure, List.append_nil]
    exact accepted_send_bind _ _ s
  · exact accepted_send_bind _ _ s

/-- A failed replacement of a resource was not accepted. -/
theorem accepted_replaceResource (h : Answers serve) {k : Kind}
    (hstatus : ∀ fields, k.status? fields = some none) {space name : String} {r : Resource k}
    {t : σ × List (List Request)} {f : Failure}
    (hfailed : ((replaceResource space name r).run (serveAmong serve) t).answer = .error f) :
    ((replaceResource space name r).run (serveAmong serve) t).accepted = [] := by
  rw [replaceResource, sendFor, run_send_bind] at hfailed
  rw [replaceResource, sendFor, Run.accepted, run_send_bind]
  split at hfailed
  · next hsend =>
    -- Other clients have been served before, and the law holds of what they leave.
    have hlaw : (serveAmong serve t (.replace (resourcePlace k space name) r.toJson)).2.isRefused ∨
        ∃ j stored, (serveAmong serve t (.replace (resourcePlace k space name) r.toJson)).2 =
          .object j ∧ Resource.ofJson? k j = some stored := h.replaced rfl hstatus
    rw [if_pos hsend]
    rcases hlaw with hrefused | ⟨j, stored, hj, hread⟩
    · refine List.filter_cons_of_neg ?_
      rw [Exchange.isAccepted, hrefused]
      exact Bool.false_ne_true
    · simp only [hj, Response.read, hread] at hfailed
      cases hfailed
  · next hunsent =>
    rw [if_neg hunsent]
    rfl

/-- A patch of a secret with the replacement of a resource, if the two fail, accepts itself at
most. -/
theorem accepted_patch_replace (h : Answers serve) {k : Kind}
    (hstatus : ∀ fields, k.status? fields = some none) {space name secret : String}
    {data : SecretData} {r : Resource k} {t : σ × List (List Request)} {f : Failure}
    (hfailed : ((do patchSecret space secret data; replaceResource space name r).run
      (serveAmong serve) t).answer = .error f) :
    List.Sublist ((do patchSecret space secret data; replaceResource space name r).run
        (serveAmong serve) t).accepted
      [(.patch (secretPlace space secret) (Secret.patchJson data),
        (serveAmong serve t (.patch (secretPlace space secret) (Secret.patchJson data))).2)] := by
  rcases run_bind_failed hfailed with heq | ⟨_, -, hrest, -, heq⟩
  · rw [heq]
    exact accepted_patchSecret space secret data t
  · rw [heq, accepted_replaceResource h hstatus hrest, List.append_nil]
    exact accepted_patchSecret space secret data t

end Api

namespace SecretLink

variable {σ : Type} {serve : σ → Request → σ × Response} {k : Kind} (link : SecretLink k)

/-- How a failed update ends, with other clients in between. -/
structure FailsWithPatch (serve : σ → Request → σ × Response) (s : σ)
    (others : List (List Request)) (space name : String)
    (data? : Resource k → Option SecretData)
    (run : Run (σ × List (List Request)) (Resource k)) : Prop where
  /-- Unless a patch was accepted, the state is as the other clients alone leave it. -/
  unpatched : (∀ e ∈ run.accepted, e.1.method ≠ "PATCH") →
    run.state.1 = serveAll serve s (others.take run.exchanges.length).flatten
  /-- What was accepted is the patch of the secret that the resource names, with what the update
  sets, and the state is as this patch leaves it among the requests of the other clients. -/
  patched : ∀ e ∈ run.accepted, ∃ j current data before after,
    (.get (resourcePlace k space name), .object j) ∈ run.exchanges ∧
    Resource.ofJson? k j = some current ∧ data? current = some data ∧
    e.1 = .patch (secretPlace space (link.secretName current.spec)) (Secret.patchJson data) ∧
    before ++ after = (others.take run.exchanges.length).flatten ∧
    run.state.1 = serveAll serve s (before ++ e.1 :: after)

/-- A failed update accepts the patch of the secret at most. -/
theorem accepted_update (h : Answers serve) {space name : String}
    {data? : Resource k → Option SecretData} {apply : Resource k → Resource k}
    {t : σ × List (List Request)} {f : Failure}
    (hfailed : ((link.update space name data? apply).run (serveAmong serve) t).answer =
      .error f) :
    ((link.update space name data? apply).run (serveAmong serve) t).accepted = [] ∨
      ∃ j current data response,
        (.get (resourcePlace k space name), .object j) ∈
          ((link.update space name data? apply).run (serveAmong serve) t).exchanges ∧
        Resource.ofJson? k j = some current ∧ data? current = some data ∧
        ((link.update space name data? apply).run (serveAmong serve) t).accepted =
          [(.patch (secretPlace space (link.secretName current.spec)) (Secret.patchJson data),
            response)] := by
  have hget : ((Api.getResource k space name).run (serveAmong serve) t).accepted = [] :=
    (Api.readOnly_getResource k space name).accepted_eq_nil t
  rcases Api.run_bind_failed hfailed with heq | ⟨current, hok, hrest, hsub, heq⟩
  · exact .inl (heq.trans hget)
  obtain ⟨j, hj, hread⟩ := Api.getResource_exchange hok
  have haccepted := heq.trans (congrArg (· ++ _) hget)
  cases hdata : data? current with
  | none =>
    simp only [hdata] at hrest haccepted
    exact .inl (haccepted.trans (Api.accepted_replaceResource h link.unreported hrest))
  | some data =>
    simp only [hdata] at hrest haccepted
    rcases List.sublist_singleton.1 (Api.accepted_patch_replace h link.unreported hrest) with
      hnone | hone
    · exact .inl (haccepted.trans hnone)
    · exact .inr ⟨j, current, data, _, hsub hj, hread, hdata, haccepted.trans hone⟩

theorem update_fails (h : Answers serve) {s : σ} {others : List (List Request)}
    {space name : String} {data? : Resource k → Option SecretData}
    {apply : Resource k → Resource k} {f : Failure}
    (hfailed : ((link.update space name data? apply).run (serveAmong serve) (s, others)).answer =
      .error f) :
    link.FailsWithPatch serve s others space name data?
      ((link.update space name data? apply).run (serveAmong serve) (s, others)) := by
  have hstate := Api.state_run_among h (link.update space name data? apply) s others
  rcases link.accepted_update h hfailed with
    hnone | ⟨j, current, data, response, hj, hread, hdata, hone⟩
  · refine ⟨fun _ => ?_, ?_⟩
    · rw [hstate, Api.woven_of_accepted_eq_nil hnone]
    · rw [hnone]
      exact nofun
  · refine ⟨fun hno => ?_, fun e he => ?_⟩
    · exact absurd rfl (hno _ (hone ▸ List.mem_singleton_self _))
    · rw [hone] at he
      obtain rfl := List.mem_singleton.1 he
      obtain ⟨before, after, hothers, hwoven⟩ := Api.woven_of_accepted_eq_singleton hone others
      exact ⟨j, current, data, before, after, hj, hread, hdata, rfl, hothers, hwoven ▸ hstate⟩

end SecretLink

/-- An update that fails leaves nothing behind, unless its patch of the secret was accepted, and
else this patch and nothing else, wherever the requests of other clients come in between. -/
theorem failed_update {σ : Type} {serve : σ → Request → σ × Response} (h : Answers serve) (s : σ)
    (others : List (List Request)) (op : Operation) {f : Failure}
    (hfailed : (op.perform.run (serveAmong serve) (s, others)).answer = .error f) :
    match op with
    | .updateStorage u =>
      SecretLink.storage.FailsWithPatch serve s others u.space u.name u.secretData?
        ((Operation.updateStorage u).perform.run (serveAmong serve) (s, others))
    | .updateMonitoring u =>
      SecretLink.monitoring.FailsWithPatch serve s others u.space u.name
        (fun _ => u.credentials.map MonitoringCredentials.secretData)
        ((Operation.updateMonitoring u).perform.run (serveAmong serve) (s, others))
    | .updateSplitHorizon u =>
      SecretLink.splitHorizon.FailsWithPatch serve s others u.space u.name
        (fun _ => u.ca.map CertificateAuthority.secretData)
        ((Operation.updateSplitHorizon u).perform.run (serveAmong serve) (s, others))
    | _ => True := by
  cases op with
  | updateStorage => exact SecretLink.storage.update_fails h hfailed
  | updateMonitoring => exact SecretLink.monitoring.update_fails h hfailed
  | updateSplitHorizon => exact SecretLink.splitHorizon.update_fails h hfailed
  | _ => trivial

namespace Sample

/-- A store with a storage and its secret. -/
def archived : Store :=
  ((Operation.createStorage (archive "archive")).perform.run Api.Versioned.serve .empty).state

/-- An update of the storage that sets a new key. -/
def newKey : StorageUpdate := { space := "ns", name := "archive", secretKey := "new" }

/-- Another client puts a label on the storage. -/
def labelled : Request :=
  .patch (resourcePlace .backupStorage "ns" "archive")
    (.obj [("metadata", .obj [("labels", .obj [("team", .str "db")])])])

/-- Another client deletes the secret. -/
def unlocked : Request := .delete (secretPlace "ns" "archive")

end Sample

/-- An update of a secret that is gone by then leaves what the deletion leaves. -/
theorem failed_update_of_sample :
    ((Operation.updateStorage Sample.newKey).perform.run (serveAmong Api.Versioned.serve)
        (Sample.archived, [[], [Sample.unlocked]])).state.1 =
      serveAll Api.Versioned.serve Sample.archived [Sample.unlocked] :=
  (failed_update Api.Versioned.answers Sample.archived [[], [Sample.unlocked]]
    (.updateStorage Sample.newKey) (f := .notFound "secrets \"archive\" not found")
    (by decide +kernel)).unpatched (by decide +kernel)

/-- The storage gets a label after its secret has been patched. So the update is refused as one of
an older version, and the new key stays. -/
theorem conflict_keeps_patch :
    let serve := Api.Versioned.serve
    let others := [[], [], [Sample.labelled]]
    let run := (Operation.updateStorage Sample.newKey).perform.run (serveAmong serve)
      (Sample.archived, others)
    let secretIn (s : Store) := ((Api.getSecret "ns" "archive").run serve s).answer
    Api.Optimistic serve ∧
      run.answer = .error (.conflict "backupstorages \"archive\" has been modified") ∧
      secretIn run.state.1 = .ok (StorageCredentials.secretData .s3 "user" "new") ∧
      secretIn (serveAll serve Sample.archived others.flatten) =
        .ok (StorageCredentials.secretData .s3 "user" "key") := by
  refine ⟨Api.Versioned.optimistic, ?_⟩
  decide +kernel

end ClusterAdmission
