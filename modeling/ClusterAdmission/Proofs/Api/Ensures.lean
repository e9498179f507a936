import ClusterAdmission.Proofs.Api.Changes
import ClusterAdmission.Proofs.Resource.MetadataCodec
import ClusterAdmission.Proofs.Secret

/-!
# What programs ensure

`Program.Ensures` says of a run from a state that it stays within an invariant at every moment, and
how it ends. There is one rule for each way to build a program, and one for each request for a
resource or a secret: what has to be shown if it goes through and what if it fails. A request that
reaches the API (`Request.Reaches`) is answered as without faults, and any other changes nothing.
-/

namespace ClusterAdmission.Api

namespace Program

variable {σ α β : Type}

/-- A run from `s` stays within `I`. With a value it ends as `ok` says, and with a failure as
`error` says. -/
structure Ensures (serve : σ → Request → σ × Response) (p : Program α) (s : σ) (I : σ → Prop)
    (ok : α → σ → Prop) (error : Failure → σ → Prop) : Prop where
  moments : ∀ t ∈ p.states serve s, I t
  of_ok : ∀ a, (p.run serve s).answer = .ok a → ok a (p.run serve s).state
  of_error : ∀ f, (p.run serve s).answer = .error f → error f (p.run serve s).state

namespace Ensures

variable {serve : σ → Request → σ × Response} {p : Program α} {s : σ} {I : σ → Prop}
  {error : Failure → σ → Prop}

theorem pure {a : α} {ok : α → σ → Prop} (hs : I s) (h : ok a s) :
    Ensures serve (Pure.pure a) s I ok error where
  moments := List.forall_mem_singleton.2 hs
  of_ok _ ha := Except.ok.inj ha ▸ h
  of_error _ hf := nomatch hf

theorem fail {f : Failure} {ok : α → σ → Prop} (hs : I s) (h : error f s) :
    Ensures serve (Program.fail f) s I ok error where
  moments := List.forall_mem_singleton.2 hs
  of_ok _ ha := nomatch ha
  of_error _ hf := Except.error.inj hf ▸ h

/-- One program after another: the second starts where the first has ended. -/
theorem bind {k : α → Program β} {ok : β → σ → Prop}
    (h : Ensures serve p s I (fun a t => Ensures serve (k a) t I ok error) error) :
    Ensures serve (p >>= k) s I ok error where
  moments t ht := by
    rcases mem_states_bind ht with ht | ⟨a, ha, ht⟩
    · exact h.moments t ht
    · exact (h.of_ok a ha).moments t ht
  of_ok b := by
    cases hanswer : (p.run serve s).answer with
    | ok a =>
      simp only [run_bind, hanswer]
      exact (h.of_ok a hanswer).of_ok b
    | error f =>
      simp only [run_bind, hanswer]
      exact nofun
  of_error f := by
    cases hanswer : (p.run serve s).answer with
    | ok a =>
      simp only [run_bind, hanswer]
      exact (h.of_ok a hanswer).of_error f
    | error f' =>
      simp only [run_bind, hanswer]
      exact fun hf => Except.error.inj hf ▸ h.of_error f' hanswer

/-- A program whose failure is taken as a value. -/
theorem attempt {ok : Except Failure α → σ → Prop}
    (h : Ensures serve p s I (fun a => ok (.ok a)) fun f => ok (.error f)) :
    Ensures serve p.attempt s I ok error where
  moments t ht := by
    rw [states_attempt] at ht
    exact h.moments t ht
  of_ok answer := by
    rw [run_attempt]
    intro hanswer
    obtain rfl := Except.ok.inj hanswer
    cases hfirst : (p.run serve s).answer with
    | ok a => exact h.of_ok a hfirst
    | error f => exact h.of_error f hfirst
  of_error f := by
    rw [run_attempt]
    exact nofun

/-- A single request, and what is read from its response. -/
theorem send {r : Request} {read : Response → Except Failure α} {ok : α → σ → Prop}
    (hs : I s) (hunsent : r.isSendable = false → error .client s)
    (hsent : r.isSendable → I (serve s r).1 ∧
      (∀ a, read (serve s r).2 = .ok a → ok a (serve s r).1) ∧
      ∀ f, read (serve s r).2 = .error f → error f (serve s r).1) :
    Ensures serve (do let response ← Api.send r; .ofResult (read response)) s I ok error := by
  cases hsend : r.isSendable with
  | false =>
    refine ⟨?_, ?_, ?_⟩ <;> simp only [states_send_bind, run_send_bind, hsend]
    · exact List.forall_mem_singleton.2 hs
    · exact nofun
    · exact fun f hf => Except.error.inj hf ▸ hunsent hsend
  | true =>
    obtain ⟨hI, hok, herror⟩ := hsent hsend
    refine ⟨?_, ?_, ?_⟩ <;> simp only [states_send_bind, run_send_bind, hsend]
    · exact List.forall_mem_cons.2 ⟨hs, List.forall_mem_singleton.2 hI⟩
    · exact hok
    · exact herror

end Ensures

end Program

/-! ## Requests under faults -/

/-- A request gets through to the API: it can be sent, and no fault strikes it. -/
structure Request.Reaches (r : Request) (faults : List Fault) : Prop where
  sendable : r.isSendable = true
  unstruck : ∀ f ∈ faults, f.strikes r = false

theorem serveUnder_of_unstruck {r : Request} {faults : List Fault}
    (h : ∀ f ∈ faults, f.strikes r = false) (s : Store) : serveUnder faults s r = serve s r := by
  have hnone : faults.find? (fun f => f.strikes r) = none := by simpa using h
  rw [serveUnder, hnone]

/-- A request that does not reach the API changes nothing and fails. -/
theorem serveUnder_of_not_reaches {r : Request} {faults : List Fault} (hsend : r.isSendable = true)
    (h : ¬ r.Reaches faults) (s : Store) :
    ∃ code message, serveUnder faults s r = (s, .refused code message) := by
  unfold serveUnder
  split
  · exact ⟨_, _, rfl⟩
  · next hnone =>
    refine absurd ⟨hsend, fun f hf => ?_⟩ h
    simpa using List.find?_eq_none.1 hnone f hf

section Requests

variable {α : Type} {faults : List Fault} {s : Store} {I : Store → Prop}
  {error : Failure → Store → Prop}

/-- A single request under faults: it fails and changes nothing, or it is answered as without. -/
theorem ensures_send {r : Request} {read : Response → Except Failure α} {ok : α → Store → Prop}
    (hread : ∀ code message, ∃ f, read (.refused code message) = .error f) (hs : I s)
    (herror : ¬ r.Reaches faults → ∀ f, error f s)
    (hserve : r.Reaches faults → I (serve s r).1 ∧
      (∀ a, read (serve s r).2 = .ok a → ok a (serve s r).1) ∧
      ∀ f, read (serve s r).2 = .error f → error f (serve s r).1) :
    Program.Ensures (serveUnder faults) (do let response ← send r; .ofResult (read response)) s I
      ok error := by
  by_cases hreaches : r.Reaches faults
  · refine .send hs (fun hsend => ?_) fun _ => ?_
    · rw [hreaches.sendable] at hsend
      cases hsend
    · rw [serveUnder_of_unstruck hreaches.unstruck]
      exact hserve hreaches
  · refine .send hs (fun _ => herror hreaches _) fun hsend => ?_
    obtain ⟨code, message, hrefused⟩ := serveUnder_of_not_reaches hsend hreaches s
    obtain ⟨f, hf⟩ := hread code message
    rw [hrefused, hf]
    exact ⟨hs, nofun, fun f _ => herror hreaches f⟩

/-- A new object comes to a free place. -/
theorem ensures_create {decode : Json → Option α} {c : Collection} {space : String} {body : Json}
    {a : α} {ok : α → Store → Prop} (hread : decode (c.kept body) = some a) (hs : I s)
    (herror : ∀ f, error f s)
    (hfree : s.get? ⟨c, c.spaceIn space, Store.nameOf body⟩ = none →
      I (s.keep ⟨c, c.spaceIn space, Store.nameOf body⟩ body) ∧
        ok a (s.keep ⟨c, c.spaceIn space, Store.nameOf body⟩ body)) :
    Program.Ensures (serveUnder faults) (sendFor decode (.create c space body)) s I ok error := by
  refine ensures_send (fun _ _ => ⟨_, rfl⟩) hs (fun _ => herror) fun _ => ?_
  rw [serve]
  split
  · exact ⟨hs, (fun _ hcreated => by cases hcreated), fun f _ => herror f⟩
  · next htaken =>
    obtain ⟨hI, hok⟩ := hfree (by simpa [SortedMap.contains] using htaken)
    have hanswer : (Response.object (c.kept body)).read decode = .ok a := by
      rw [Response.read, hread]
    refine ⟨hI, fun b hb => ?_, fun f hf => ?_⟩
    · rw [put, hanswer] at hb
      exact Except.ok.inj hb ▸ hok
    · rw [put, hanswer] at hf
      cases hf

/-! ## Resources -/

section Resources

variable {k : Kind} {space name : String} {r : Resource k}

theorem getResource_ensures {ok : Resource k → Store → Prop} (hs : I s) (herror : ∀ f, error f s)
    (hok : ∀ j a, s.get? (resourcePlace k space name) = some j → Resource.ofJson? k j = some a →
      ok a s) :
    Program.Ensures (serveUnder faults) (getResource k space name) s I ok error := by
  have hread := readOnly_getResource k space name
  have hstate : ((getResource k space name).run (serveUnder faults) s).state = s :=
    hread.state_run (fun _ _ => serveUnder_of_read) s
  refine ⟨fun t ht => ?_, fun a ha => ?_, fun f _ => ?_⟩
  · rw [hread.eq_of_mem_states (fun _ _ => serveUnder_of_read) ht]
    exact hs
  · obtain ⟨j, hj, hdecode⟩ := getResource_ok ha
    rw [hstate]
    exact hok j a hj hdecode
  · rw [hstate]
    exact herror f

theorem createResource_ensures {ok : Resource k → Store → Prop}
    (hstatus : ∀ fields, k.status? fields = some none) (hs : I s) (herror : ∀ f, error f s)
    (hfree : s.get? (createdPlace r) = none → I (s.insert (createdPlace r) r.toJson) ∧
      ∀ a, a.spec = r.spec → ok a (s.insert (createdPlace r) r.toJson)) :
    Program.Ensures (serveUnder faults) (createResource r) s I ok error := by
  refine ensures_create (Resource.ofJson?_toJson_unreported hstatus r) hs herror fun hplace => ?_
  rw [spaceIn_spaceIn] at hplace ⊢
  obtain ⟨hI, hok⟩ := hfree hplace
  exact ⟨hI, hok _ rfl⟩

theorem replaceResource_ensures {ok : Resource k → Store → Prop}
    (hstatus : ∀ fields, k.status? fields = some none) (hs : I s) (herror : ∀ f, error f s)
    (hthere : s.contains (resourcePlace k space name) →
      I (s.insert (resourcePlace k space name) r.toJson) ∧
        ∀ a, a.spec = r.spec → ok a (s.insert (resourcePlace k space name) r.toJson)) :
    Program.Ensures (serveUnder faults) (replaceResource space name r) s I ok error := by
  refine ensures_send (fun _ _ => ⟨_, rfl⟩) hs (fun _ => herror) fun _ => ?_
  rw [serve]
  split
  · next hcontains =>
    obtain ⟨hI, hok⟩ := hthere hcontains
    have hanswer : (Response.object r.toJson).read (Resource.ofJson? k) =
        .ok { metadata := r.metadata.cut, spec := r.spec } := by
      rw [Response.read, Resource.ofJson?_toJson_unreported hstatus]
    refine ⟨hI, fun a ha => ?_, fun f hf => ?_⟩
    · change (Response.object r.toJson).read (Resource.ofJson? k) = .ok a at ha
      rw [hanswer] at ha
      exact hok a (Except.ok.inj ha ▸ rfl)
    · change (Response.object r.toJson).read (Resource.ofJson? k) = .error f at hf
      rw [hanswer] at hf
      cases hf
  · refine ⟨hs, fun a ha => ?_, fun f _ => herror f⟩
    rw [notFound, Response.read] at ha
    cases ha

theorem deleteResource_ensures {ok : Unit → Store → Prop} (hs : I s) (herror : ∀ f, error f s)
    (hthere : s.contains (resourcePlace k space name) →
      I (s.erase (resourcePlace k space name)) ∧ ok () (s.erase (resourcePlace k space name))) :
    Program.Ensures (serveUnder faults) (deleteResource k space name) s I ok error := by
  refine ensures_send (fun _ _ => ⟨_, rfl⟩) hs (fun _ => herror) fun _ => ?_
  rw [serve]
  split
  · next hcontains =>
    obtain ⟨hI, hok⟩ := hthere hcontains
    exact ⟨hI, fun _ _ => hok, (fun _ hfailed => by cases hfailed)⟩
  · exact ⟨hs, (fun _ hdeleted => by cases hdeleted), fun f _ => herror f⟩

end Resources

/-! ## Secrets -/

section Secrets

variable {space name : String} {data : SecretData} {ok : Unit → Store → Prop}

/-- What is read of a secret are the texts of the one that is stored. -/
theorem getSecret_ok (h : ((getSecret space name).run (serveUnder faults) s).answer = .ok data) :
    ∃ j, s.get? (secretPlace space name) = some j ∧ Secret.Holds j data := by
  simp only [getSecret, Program.run_bind] at h
  split at h
  · next bytes hbytes =>
    rw [run_ofResult] at h
    obtain ⟨j, hj, hread⟩ := sendFor_get_ok hbytes
    exact ⟨j, hj, bytes, hread, fun _ => Secret.texts_eq_ok.2 (Secret.texts_eq_ok.1 h)⟩
  · cases h

theorem createSecret_ensures (hs : I s) (herror : ∀ f, error f s)
    (hfree : s.get? (secretPlace space name) = none →
      I (s.keep (secretPlace space name) (Secret.newJson space name data)) ∧
        ok () (s.keep (secretPlace space name) (Secret.newJson space name data))) :
    Program.Ensures (serveUnder faults) (createSecret space name data) s I ok error := by
  obtain ⟨bytes, hbytes, -⟩ := Secret.holds_new space name data
  refine .bind (ensures_create hbytes hs herror fun hplace => ?_)
  obtain ⟨hI, hok⟩ := hfree hplace
  exact ⟨hI, .pure hI hok⟩

/-- Whether or not the patched secret is read back, it has been patched. -/
theorem patchSecret_ensures (hs : I s) (herror : ∀ f, error f s)
    (hthere : ∀ j, s.get? (secretPlace space name) = some j →
      I (s.keep (secretPlace space name) (j.mergePatch (Secret.patchJson data))) ∧
      ok () (s.keep (secretPlace space name) (j.mergePatch (Secret.patchJson data))) ∧
      ∀ f, error f (s.keep (secretPlace space name) (j.mergePatch (Secret.patchJson data)))) :
    Program.Ensures (serveUnder faults) (patchSecret space name data) s I ok error := by
  refine .bind (ensures_send (fun _ _ => ⟨_, rfl⟩) hs (fun _ => herror) fun _ => ?_)
  rw [serve]
  split
  · next j hj =>
    obtain ⟨hI, hok, hfail⟩ := hthere j hj
    exact ⟨hI, fun _ _ => .pure hI hok, fun f _ => hfail f⟩
  · exact ⟨hs, (fun _ hpatched => by cases hpatched), fun f _ => herror f⟩

/-- A secret whose deletion reaches the API is gone afterwards. -/
theorem deleteSecret_ensures (hs : I s)
    (hstuck : ¬ (Request.delete (secretPlace space name)).Reaches faults →
      ok () s ∧ ∀ f, error f s)
    (hgone : I (s.erase (secretPlace space name)) ∧ ok () (s.erase (secretPlace space name))) :
    Program.Ensures (serveUnder faults) (deleteSecret space name) s I ok error := by
  refine .bind (.attempt (ensures_send (fun _ _ => ⟨_, rfl⟩) hs ?_ fun _ => ?_))
  · -- A fault may say that the secret is gone already.
    intro hreaches f
    obtain ⟨hok, herror⟩ := hstuck hreaches
    cases f with
    | notFound message => exact .pure hs hok
    | _ => exact .fail hs (herror _)
  · rw [serve]
    split
    · exact ⟨hgone.1, fun _ _ => .pure hgone.1 hgone.2, (fun _ hfailed => by cases hfailed)⟩
    · next hfree =>
      have hsame : s.erase (secretPlace space name) = s :=
        SortedMap.erase_of_get?_eq_none (by simpa [SortedMap.contains] using hfree)
      rw [hsame] at hgone
      refine ⟨hs, (fun _ hdeleted => by cases hdeleted), fun f hf => ?_⟩
      obtain rfl := Except.error.inj hf
      exact .pure hs hgone.2

end Secrets

end Requests

end ClusterAdmission.Api
