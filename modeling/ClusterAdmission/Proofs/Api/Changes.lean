import ClusterAdmission.Proofs.Api.Moments
import ClusterAdmission.Proofs.SortedMap

/-!
# What client programs learn and change

The programs for single requests against the API under any faults. A read that answers tells what is
stored (`getResource_ok`, `listResources_ok`). A write changes one place at most, and only in the
way that it is meant to (`createResource_change`, `replaceResource_change`,
`deleteResource_change`); the programs for secrets leave every resource alone.
-/

namespace ClusterAdmission

/-- The resources of two stores are the same; the secrets may differ. -/
def Store.SameResources (s t : Store) : Prop :=
  ∀ p : Place, p.collection ≠ .secrets → t.get? p = s.get? p

namespace Store.SameResources

theorem refl (s : Store) : s.SameResources s := fun _ _ => rfl

theorem symm {s t : Store} (hst : s.SameResources t) : t.SameResources s :=
  fun p hp => (hst p hp).symm

theorem trans {s t u : Store} (hst : s.SameResources t) (htu : t.SameResources u) :
    s.SameResources u :=
  fun p hp => (htu p hp).trans (hst p hp)

end Store.SameResources

/-- Stores with the same objects in a collection have the same listings of it. -/
theorem Store.listed_congr {s t : Store} {c : Collection}
    (h : ∀ p : Place, p.collection = c → t.get? p = s.get? p) (space : Option String) :
    t.listed c space = s.listed c space := by
  refine congrArg (List.map _) (SortedMap.filter_entries_congr fun p hp => h p ?_)
  simp only [isListed, Bool.and_eq_true, decide_eq_true_eq] at hp
  exact hp.1

/-- The place of a resource is not that of a secret. -/
theorem Api.resourcePlace_ne_secrets {k : Kind} {space name : String} :
    (resourcePlace k space name).collection ≠ .secrets := nofun

namespace Api

variable {faults : List Fault} {s t : Store} {k : Kind}

/-! ## Responses -/

theorem Response.read_eq_ok {α : Type} {decode : Json → Option α} {response : Response} {a : α}
    (h : response.read decode = .ok a) : ∃ j, response = .object j ∧ decode j = some a := by
  cases response with
  | object j =>
    simp only [Response.read] at h
    split at h
    · next hj =>
      cases h
      exact ⟨j, rfl, hj⟩
    · cases h
  | objects js => cases h
  | deleted => cases h
  | refused code message => cases h

theorem Response.readAll_eq_ok {α : Type} {decode : Json → Option α} {response : Response}
    {as : List α} (h : response.readAll decode = .ok as) :
    ∃ js, response = .objects js ∧ js.mapM decode = some as := by
  cases response with
  | objects js =>
    simp only [Response.readAll] at h
    split at h
    · next hjs =>
      cases h
      exact ⟨js, rfl, hjs⟩
    · cases h
  | object j => cases h
  | deleted => cases h
  | refused code message => cases h

/-- Under faults a request is answered as without, or refused with nothing changed. -/
theorem serveUnder_cases (faults : List Fault) (s : Store) (r : Request) :
    serveUnder faults s r = serve s r ∨
      ∃ code message, serveUnder faults s r = (s, .refused code message) := by
  unfold serveUnder
  split
  · exact .inr ⟨_, _, rfl⟩
  · exact .inl rfl

/-! ## Sending -/

section Sending

variable {σ α : Type} {serve : σ → Request → σ × Response}

theorem run_ofResult (result : Except Failure α) (s : σ) :
    (Program.ofResult result).run serve s = ⟨result, s, []⟩ := by
  cases result <;> rfl

theorem states_ofResult (result : Except Failure α) (s : σ) :
    (Program.ofResult result).states serve s = [s] := by
  cases result <;> rfl

/-- Reading the response of one request, where the request can be sent. -/
theorem run_send_bind (r : Request) (read : Response → Except Failure α) (s : σ) :
    (do let response ← send r; .ofResult (read response) : Program α).run serve s =
      if r.isSendable then ⟨read (serve s r).2, (serve s r).1, [(r, (serve s r).2)]⟩
      else ⟨.error .client, s, []⟩ := by
  unfold send
  split
  · simp only [Program.run_bind, Program.run, run_ofResult]
    rfl
  · rfl

theorem states_send_bind (r : Request) (read : Response → Except Failure α) (s : σ) :
    (do let response ← send r; .ofResult (read response) : Program α).states serve s =
      if r.isSendable then [s, (serve s r).1] else [s] := by
  unfold send
  split
  · change s :: (Program.ofResult (read (serve s r).2)).states serve (serve s r).1 = _
    rw [states_ofResult]
  · rfl

theorem mem_states_send_bind {r : Request} {read : Response → Except Failure α} {s t : σ}
    (h : t ∈ (do let response ← send r; .ofResult (read response) : Program α).states serve s) :
    t = s ∨ t = (serve s r).1 := by
  rw [states_send_bind] at h
  split at h
  · simpa using h
  · exact .inl (List.mem_singleton.1 h)

theorem length_states_send_bind_le (r : Request) (read : Response → Except Failure α) (s : σ) :
    ((do let response ← send r; .ofResult (read response) : Program α).states serve s).length ≤
      2 := by
  rw [states_send_bind]
  split
  · exact Nat.le_refl 2
  · exact Nat.le_succ 1

end Sending

/-! ## Reads -/

/-- What is read of a place is stored there. -/
theorem sendFor_get_ok {α : Type} {decode : Json → Option α} {p : Place} {a : α}
    (h : ((sendFor decode (.get p)).run (serveUnder faults) s).answer = .ok a) :
    ∃ j, s.get? p = some j ∧ decode j = some a := by
  rw [sendFor, run_send_bind] at h
  split at h
  · obtain ⟨j, hresponse, hj⟩ := Response.read_eq_ok h
    refine ⟨j, ?_, hj⟩
    rcases serveUnder_cases faults s (.get p) with heq | ⟨_, _, heq⟩
    · rw [heq, serve] at hresponse
      split at hresponse
      · next hget =>
        cases hresponse
        exact hget
      · cases hresponse
    · rw [heq] at hresponse
      cases hresponse
  · cases h

/-- What is read of a resource is stored at its place. -/
theorem getResource_ok {space name : String} {a : Resource k}
    (h : ((getResource k space name).run (serveUnder faults) s).answer = .ok a) :
    ∃ j, s.get? (resourcePlace k space name) = some j ∧ Resource.ofJson? k j = some a :=
  sendFor_get_ok h

/-- Without faults, what is there and decodes is read. -/
theorem run_getResource {space name : String} {j : Json}
    {a : Resource k} (hsend : (Request.get (resourcePlace k space name)).isSendable)
    (hj : s.get? (resourcePlace k space name) = some j) (hread : Resource.ofJson? k j = some a) :
    ((getResource k space name).run serve s).answer = .ok a := by
  have hresponse : (serve s (.get (resourcePlace k space name))).2 = .object j := by
    rw [serve, hj]
  rw [getResource, sendFor, run_send_bind, if_pos hsend, hresponse, Response.read, hread]

theorem mem_of_mapM_eq_some {α β : Type} {f : α → Option β} {xs : List α} {ys : List β}
    (h : xs.mapM f = some ys) {x : α} (hx : x ∈ xs) : ∃ y ∈ ys, f x = some y := by
  induction xs generalizing ys with
  | nil => cases hx
  | cons x' rest ih =>
    simp only [List.mapM_cons, Option.pure_def, Option.bind_eq_bind, Option.bind_eq_some_iff] at h
    obtain ⟨y, hy, ys', hys, heq⟩ := h
    obtain rfl := Option.some.inj heq
    rcases List.mem_cons.1 hx with rfl | hx
    · exact ⟨y, List.mem_cons_self, hy⟩
    · obtain ⟨y', hy', hread⟩ := ih hys hx
      exact ⟨y', List.mem_cons_of_mem _ hy', hread⟩

/-- What is read of a collection are all its objects. -/
theorem listResources_ok {space : Option String} {as : List (Resource k)}
    (h : ((listResources k space).run (serveUnder faults) s).answer = .ok as) {p : Place} {j : Json}
    (hj : s.get? p = some j) (hp : Store.isListed (.resources k) space p) :
    ∃ a ∈ as, Resource.ofJson? k j = some a := by
  rw [listResources, run_send_bind] at h
  split at h
  · obtain ⟨js, hresponse, hjs⟩ := Response.readAll_eq_ok h
    -- One object that does not decode would fail the whole listing.
    have hlisted : j ∈ s.listed (.resources k) space :=
      List.mem_map.2 ⟨(p, j), List.mem_filter.2 ⟨SortedMap.mem_entries_iff.2 hj, hp⟩, rfl⟩
    rcases serveUnder_cases faults s (.list (.resources k) space) with heq | ⟨_, _, heq⟩
    · rw [heq] at hresponse
      cases hresponse
      exact mem_of_mapM_eq_some hjs hlisted
    · rw [heq] at hresponse
      cases hresponse
  · cases h

/-! ## Writes of resources -/

/-- The place of a new resource. -/
def createdPlace (r : Resource k) : Place :=
  ⟨.resources k, (Collection.resources k).spaceIn r.space, Store.nameOf r.toJson⟩

theorem spaceIn_spaceIn (c : Collection) (space : String) :
    c.spaceIn (c.spaceIn space) = c.spaceIn space := by
  unfold Collection.spaceIn
  split <;> rfl

theorem createResource_change {r : Resource k}
    (h : t ∈ (createResource r).states (serveUnder faults) s) :
    t = s ∨ (s.get? (createdPlace r) = none ∧ t = s.insert (createdPlace r) r.toJson) := by
  rcases mem_states_send_bind h with rfl | rfl
  · exact .inl rfl
  · rcases serveUnder_cases faults s
      (.create (.resources k) ((Collection.resources k).spaceIn r.space) r.toJson)
      with heq | ⟨_, _, heq⟩
    · rw [heq, serve]
      split
      · exact .inl rfl
      · next hfree =>
        rw [spaceIn_spaceIn] at hfree ⊢
        exact .inr ⟨by simpa [SortedMap.contains, createdPlace] using hfree, rfl⟩
    · rw [heq]
      exact .inl rfl

theorem replaceResource_change {space name : String} {r : Resource k}
    (h : t ∈ (replaceResource space name r).states (serveUnder faults) s) :
    t = s ∨ ((s.get? (resourcePlace k space name)).isSome ∧
      t = s.insert (resourcePlace k space name) r.toJson) := by
  rcases mem_states_send_bind h with rfl | rfl
  · exact .inl rfl
  · rcases serveUnder_cases faults s (.replace (resourcePlace k space name) r.toJson)
      with heq | ⟨_, _, heq⟩
    · rw [heq, serve]
      split
      · next hthere => exact .inr ⟨hthere, rfl⟩
      · exact .inl rfl
    · rw [heq]
      exact .inl rfl

/-- What is answered with a value has been sent, and has done what it does without faults. -/
theorem sendFor_ok {α : Type} {decode : Json → Option α} {r : Request} {a : α}
    (h : ((sendFor decode r).run (serveUnder faults) s).answer = .ok a) :
    r.isSendable ∧ ((sendFor decode r).run (serveUnder faults) s).state = (serve s r).1 ∧
      ∃ j, (serve s r).2 = .object j ∧ decode j = some a := by
  rw [sendFor, run_send_bind] at h ⊢
  split at h
  · next hsend =>
    obtain ⟨j, hresponse, hj⟩ := Response.read_eq_ok h
    rcases serveUnder_cases faults s r with heq | ⟨_, _, heq⟩
    · rw [heq] at hresponse
      exact ⟨hsend, by rw [if_pos hsend, heq], j, hresponse, hj⟩
    · rw [heq] at hresponse
      cases hresponse
  · cases h

theorem createResource_ok {r stored : Resource k}
    (h : ((createResource r).run (serveUnder faults) s).answer = .ok stored) :
    (Request.create (.resources k) ((Collection.resources k).spaceIn r.space)
        r.toJson).isSendable ∧
      ((createResource r).run (serveUnder faults) s).state =
        s.insert (createdPlace r) r.toJson := by
  obtain ⟨hsend, hstate, j, hresponse, -⟩ := sendFor_ok h
  refine ⟨hsend, hstate.trans ?_⟩
  rw [serve, spaceIn_spaceIn] at hresponse ⊢
  split at hresponse
  · cases hresponse
  · next hfree => rw [if_neg hfree]; rfl

theorem replaceResource_ok {space name : String} {r stored : Resource k}
    (h : ((replaceResource space name r).run (serveUnder faults) s).answer = .ok stored) :
    (Request.replace (resourcePlace k space name) r.toJson).isSendable ∧
      ((replaceResource space name r).run (serveUnder faults) s).state =
        s.insert (resourcePlace k space name) r.toJson := by
  obtain ⟨hsend, hstate, j, hresponse, -⟩ := sendFor_ok h
  refine ⟨hsend, hstate.trans ?_⟩
  rw [serve] at hresponse ⊢
  split at hresponse
  · next hthere => rw [if_pos hthere]; rfl
  · cases hresponse

/-- Without faults, what is there can be replaced, and is answered as it is read back. -/
theorem run_replaceResource {space name : String} {r stored : Resource k}
    (hsend : (Request.replace (resourcePlace k space name) r.toJson).isSendable)
    (hthere : s.contains (resourcePlace k space name))
    (hread : Resource.ofJson? k r.toJson = some stored) :
    ((replaceResource space name r).run serve s).answer = .ok stored ∧
      ((replaceResource space name r).run serve s).state =
        s.insert (resourcePlace k space name) r.toJson := by
  have hkept : (Response.object r.toJson).read (Resource.ofJson? k) = .ok stored := by
    rw [Response.read, hread]
  rw [replaceResource, sendFor, run_send_bind, if_pos hsend, serve, if_pos hthere]
  exact ⟨hkept, rfl⟩

theorem deleteResource_change {space name : String}
    (h : t ∈ (deleteResource k space name).states (serveUnder faults) s) :
    t = s ∨ t = s.erase (resourcePlace k space name) := by
  rcases mem_states_send_bind h with rfl | rfl
  · exact .inl rfl
  · rcases serveUnder_cases faults s (.delete (resourcePlace k space name)) with heq | ⟨_, _, heq⟩
    · rw [heq, serve]
      split
      · exact .inr rfl
      · exact .inl rfl
    · rw [heq]
      exact .inl rfl

/-- Without faults, what can be read can be deleted. -/
theorem run_deleteResource {space name : String} {r : Resource k}
    (h : ((getResource k space name).run serve s).answer = .ok r) :
    ((deleteResource k space name).run serve s).answer = .ok () ∧
      ((deleteResource k space name).run serve s).state =
        s.erase (resourcePlace k space name) := by
  have hread : ((getResource k space name).run (serveUnder []) s).answer = .ok r := h
  obtain ⟨j, hj, -⟩ := getResource_ok hread
  rw [getResource, sendFor, run_send_bind] at h
  split at h
  · next hget =>
    have hdelete : (Request.delete (resourcePlace k space name)).isSendable := hget
    have hthere : s.contains (resourcePlace k space name) := by
      rw [SortedMap.contains, hj]
      rfl
    rw [deleteResource, sendDelete, run_send_bind, if_pos hdelete, serve, if_pos hthere]
    exact ⟨rfl, rfl⟩
  · cases h

/-! ## Secrets -/

/-- A request changes its own collection at most. -/
theorem get?_serveUnder_of_ne {r : Request} {p : Place} (h : p.collection ≠ r.collection) :
    (serveUnder faults s r).1.get? p = s.get? p := by
  rcases serveUnder_cases faults s r with heq | ⟨_, _, heq⟩
  · rw [heq]
    cases r with
    | get q => rw [serve_of_read rfl]
    | list c space => rw [serve_of_read rfl]
    | create c space body =>
      have hne : p ≠ ⟨c, c.spaceIn space, Store.nameOf body⟩ := by
        rintro rfl
        exact h rfl
      rw [serve]
      split
      · rfl
      · exact SortedMap.get?_insert_of_ne _ _ hne
    | replace q body =>
      have hne : p ≠ q := by
        rintro rfl
        exact h rfl
      rw [serve]
      split
      · exact SortedMap.get?_insert_of_ne _ _ hne
      · rfl
    | patch q body =>
      have hne : p ≠ q := by
        rintro rfl
        exact h rfl
      rw [serve]
      split
      · exact SortedMap.get?_insert_of_ne _ _ hne
      · rfl
    | delete q =>
      have hne : p ≠ q := by
        rintro rfl
        exact h rfl
      rw [serve]
      split
      · exact SortedMap.get?_erase_of_ne _ hne
      · rfl
  · rw [heq]

theorem sameResources_serveUnder {r : Request} (h : r.collection = .secrets) :
    s.SameResources (serveUnder faults s r).1 :=
  fun _ hp => get?_serveUnder_of_ne (h ▸ hp)

/-- Reading the response of a request about a secret leaves the resources alone. -/
theorem sameResources_send_bind {α : Type} {r : Request} {read : Response → Except Failure α}
    (hr : r.collection = .secrets)
    (h : t ∈ (do let response ← send r; .ofResult (read response) : Program α).states
      (serveUnder faults) s) :
    s.SameResources t := by
  rcases mem_states_send_bind h with rfl | rfl
  · exact .refl _
  · exact sameResources_serveUnder hr

/-- Writing a secret and dropping the response leaves the resources alone. -/
theorem sameResources_sendFor {α : Type} {decode : Json → Option α} {r : Request}
    (hr : r.collection = .secrets)
    (h : t ∈ (do let _ ← sendFor decode r; return () : Program Unit).states
      (serveUnder faults) s) :
    s.SameResources t := by
  rcases Program.mem_states_bind h with h | ⟨_, _, h⟩
  · exact sameResources_send_bind hr h
  · obtain rfl := List.mem_singleton.1 h
    exact sameResources_send_bind hr (Program.state_mem_states _ s)

theorem createSecret_change {space name : String} {data : SecretData}
    (h : t ∈ (createSecret space name data).states (serveUnder faults) s) :
    s.SameResources t :=
  sameResources_sendFor rfl h

theorem patchSecret_change {space name : String} {data : SecretData}
    (h : t ∈ (patchSecret space name data).states (serveUnder faults) s) :
    s.SameResources t :=
  sameResources_sendFor rfl h

theorem deleteSecret_change {space name : String}
    (h : t ∈ (deleteSecret space name).states (serveUnder faults) s) :
    s.SameResources t := by
  have hdelete {u : Store} (hu : u ∈ (sendDelete (secretPlace space name)).attempt.states
      (serveUnder faults) s) : s.SameResources u := by
    rw [Program.states_attempt] at hu
    exact sameResources_send_bind rfl hu
  rcases Program.mem_states_bind h with h | ⟨_, _, h⟩
  · exact hdelete h
  · rw [states_ofResult] at h
    obtain rfl := List.mem_singleton.1 h
    exact hdelete (Program.state_mem_states _ s)

end Api

end ClusterAdmission
