import ClusterAdmission.Proofs.Api.Interleaved
import ClusterAdmission.Proofs.Chain.Clusters
import ClusterAdmission.Proofs.Operation.FailedUpdates

/-!
# Partial updates are never lost

Two clients update the same resource at once, each the fields that it names. An update writes what
it makes of the resource that it has read, and the version that came with the resource goes back
with it. So once the other update has been written, one that has read before that is refused
(`SecretLink.Serial.step`), and the fields of every update that is answered with the resource are
there, whatever the order of the requests (`partial_updates_kept`).
-/

namespace ClusterAdmission

open Api (Client Keeping Pair Program Request Response resourcePlace secretPlace)

namespace Api

variable {α β : Type} {k : Kind}

/-- A request whose response is an object is sent, or the client fails. -/
theorem sendFor_cases (decode : Json → Option α) (r : Request) :
    sendFor decode r = .fail .client ∨
      sendFor decode r = .call r fun response => .ofResult (response.read decode) := by
  unfold sendFor send
  split
  · exact .inr rfl
  · exact .inl rfl

/-- What follows a request depends on its response. -/
theorem sendFor_bind_cases (decode : Json → Option α) (r : Request) (next : α → Program β) :
    sendFor decode r >>= next = .fail .client ∨
      sendFor decode r >>= next = .call r fun response =>
        match response.read decode with
        | .ok a => next a
        | .error f => .fail f := by
  rcases sendFor_cases decode r with heq | heq
  · exact .inl (congrArg (· >>= next) heq)
  · refine .inr ((congrArg (· >>= next) heq).trans
      (congrArg (Program.call r) (funext fun response => ?_)))
    change (Program.ofResult (response.read decode)).bind next = _
    cases response.read decode <;> rfl

theorem patchSecret_bind_cases (space name : String) (data : SecretData) (next : Program β) :
    (do patchSecret space name data; next) = .fail .client ∨
      (do patchSecret space name data; next) =
        .call (.patch (secretPlace space name) (Secret.patchJson data)) fun response =>
          match response.read Secret.ofJson? with
          | .ok _ => next
          | .error f => .fail f := by
  rcases sendFor_bind_cases Secret.ofJson?
    (.patch (secretPlace space name) (Secret.patchJson data)) (fun _ => pure ()) with heq | heq
  · exact .inl (congrArg (· >>= fun _ => next) heq)
  · refine .inr ((congrArg (· >>= fun _ => next) heq).trans
      (congrArg (Program.call _) (funext fun response => ?_)))
    cases h : response.read Secret.ofJson? <;> simp only [h] <;> rfl

/-- The version of a resource is that of its metadata. -/
theorem versionOf_toJson (r : Resource k) :
    Store.versionOf r.toJson = r.metadata.resourceVersion.getD "" := by
  have hmetadata : r.toJson.get? "metadata" = some r.metadata.toJson := by
    simp [Resource.toJson, Json.get?_ofFields]
  have hversion : r.metadata.toJson.get? "resourceVersion" =
      r.metadata.resourceVersion.map Json.str := by
    simp [Metadata.toJson, Json.get?_ofFields]
  rw [Store.versionOf, Store.metadataText, hmetadata, Option.bind_some, hversion]
  cases r.metadata.resourceVersion <;> rfl

end Api

/-! ## One kind of resources -/

namespace SecretLink

variable {k : Kind}

/-- A resource with its fields overlaid. -/
def overlaid (overlay : k.Spec → k.Spec) (r : Resource k) : Resource k :=
  { r with spec := overlay r.spec }

/-- What an update has still to do after it has read the resource. -/
def writing (link : SecretLink k) (space name : String) (data? : Resource k → Option SecretData)
    (overlay : k.Spec → k.Spec) (current : Resource k) : Program (Resource k) := do
  match data? current with
  | none => pure ()
  | some data => Api.patchSecret space (link.secretName current.spec) data
  Api.replaceResource space name (overlaid overlay current)

variable (link : SecretLink k) (space name : String)
  (data? : Client → Resource k → Option SecretData) (overlay : Client → k.Spec → k.Spec)

/-- The object that a client has read a resource from is still there, or the other client has
written since, and the version has changed. -/
def Known (space name : String) (w : Pair Store (Resource k)) (c : Client) (j : Json)
    (current : Resource k) : Prop :=
  w.state.get? (resourcePlace k space name) = some j ∨
    c.other ∈ w.writers ∧ ∃ new, w.state.get? (resourcePlace k space name) = some new ∧
      Store.versionOf current.toJson ≠ Store.versionOf new

/-- How far the update of a client has come. -/
inductive Stage (w : Pair Store (Resource k)) (c : Client) : Prop where
  | unread :
    w.programs c = link.update space name (data? c) (overlaid (overlay c)) → c ∉ w.writers →
      Stage w c
  | read {j : Json} {current : Resource k} : Resource.ofJson? k j = some current →
    (w.programs c = link.writing space name (data? c) (overlay c) current ∨
      w.programs c = Api.replaceResource space name (overlaid (overlay c) current)) →
    c ∉ w.writers → Known space name w c j current → Stage w c
  | written {r : Resource k} : w.programs c = .done r → c ∈ w.writers → Stage w c
  | failed {f : Failure} : w.programs c = .fail f → c ∉ w.writers → Stage w c

/-- The fields of a resource are those of the start, overlaid by the clients that have written, one
after another. -/
structure Serial (start : Store) (w : Pair Store (Resource k)) : Prop where
  nodup : w.writers.Nodup
  there : w.writers ≠ [] → (start.spec? k space name).isSome
  spec : w.state.spec? k space name =
    (start.spec? k space name).map fun spec => w.writers.foldl (fun spec c => overlay c spec) spec
  stage (c : Client) : Stage link space name data? overlay w c

variable {link space name data? overlay} {start : Store} {w w' : Pair Store (Resource k)}
  {serve : Store → Request → Store × Response} {c : Client} {j : Json} {current : Resource k}

theorem versionOf_overlaid (overlay : k.Spec → k.Spec) (r : Resource k) :
    Store.versionOf (overlaid overlay r).toJson = Store.versionOf r.toJson := by
  rw [Api.versionOf_toJson, Api.versionOf_toJson]
  rfl

theorem Known.congr (h : Known space name w c j current)
    (hget : w'.state.get? (resourcePlace k space name) = w.state.get? (resourcePlace k space name))
    (hwriters : w'.writers = w.writers) : Known space name w' c j current := by
  rw [Known, hget, hwriters]
  exact h

theorem Stage.congr (h : Stage link space name data? overlay w c)
    (hprograms : w'.programs c = w.programs c)
    (hget : w'.state.get? (resourcePlace k space name) = w.state.get? (resourcePlace k space name))
    (hwriters : w'.writers = w.writers) : Stage link space name data? overlay w' c := by
  cases h with
  | unread hprogram hnot => exact .unread (hprograms.trans hprogram) (hwriters ▸ hnot)
  | read hread hprogram hnot hknown =>
    refine .read hread ?_ (hwriters ▸ hnot) (hknown.congr hget hwriters)
    rw [hprograms]
    exact hprogram
  | written hprogram hin => exact .written (hprograms.trans hprogram) (hwriters ▸ hin)
  | failed hprogram hnot => exact .failed (hprograms.trans hprogram) (hwriters ▸ hnot)

namespace Serial

/-! ## Steps -/

/-- A request that leaves the resource alone keeps what holds, if its client comes no further than
it may. -/
theorem quiet (h : Serial link space name data? overlay start w) {r : Request}
    {next : Response → Program (Resource k)} (hcall : w.programs c = .call r next)
    (hget : (serve w.state r).1.get? (resourcePlace k space name) =
      w.state.get? (resourcePlace k space name))
    (hreplaced : Api.Exchange.isReplaced (r, (serve w.state r).2) = false)
    (hstage : (w.step serve c).writers = w.writers →
      Stage link space name data? overlay (w.step serve c) c) :
    Serial link space name data? overlay start (w.step serve c) := by
  have hstep : w.step serve c = _ := Pair.step_of_call hcall
  have hwriters : (w.step serve c).writers = w.writers := by
    rw [hstep, Pair.writers_append, hreplaced]
    exact List.append_nil _
  have hstate : (w.step serve c).state.get? (resourcePlace k space name) =
      w.state.get? (resourcePlace k space name) := by
    rw [hstep]
    exact hget
  refine ⟨hwriters ▸ h.nodup, fun hne => h.there (hwriters ▸ hne), ?_, fun d => ?_⟩
  · rw [hwriters, Store.spec?, hstate]
    exact h.spec
  · rcases c.eq_or_eq_other d with rfl | rfl
    · exact hstage hwriters
    · refine (h.stage c.other).congr ?_ hstate hwriters
      rw [hstep]
      exact Function.update_of_ne c.ne_other.symm _ _

variable (hserve : Keeping serve) (h : Serial link space name data? overlay start w)

include hserve h

/-- A client that has read knows the resource as it is stored. -/
theorem step_unread
    (hprogram : w.programs c = link.update space name (data? c) (overlaid (overlay c)))
    (hnot : c ∉ w.writers) : Serial link space name data? overlay start (w.step serve c) := by
  rcases Api.sendFor_bind_cases (Resource.ofJson? k) (.get (resourcePlace k space name))
    (link.writing space name (data? c) (overlay c)) with heq | heq
  · rw [Pair.step_of_fail (hprogram.trans heq)]
    exact h
  have hcall := hprogram.trans heq
  have hread : (serve w.state (.get (resourcePlace k space name))).1 = w.state := hserve.read rfl
  refine h.quiet hcall (by rw [hread]) rfl fun hwriters => ?_
  rw [← hwriters] at hnot
  rw [Pair.step_of_call hcall] at hnot ⊢
  cases hresponse : (serve w.state (.get (resourcePlace k space name))).2.read
    (Resource.ofJson? k) with
  | ok current =>
    obtain ⟨j, hj, hdecode⟩ := Api.Response.read_eq_ok hresponse
    refine .read hdecode (.inl ?_) hnot (.inl ?_)
    · exact Function.update_self _ _ _
    · change (serve w.state _).1.get? _ = _
      rw [hread]
      exact hserve.shown hj
  | error f =>
    exact .failed (f := f) (Function.update_self _ _ _) hnot

/-- A patch of the secret leaves the resource as it was read. -/
theorem step_patch {data : SecretData} (hdecode : Resource.ofJson? k j = some current)
    (hprogram : w.programs c = (do
      Api.patchSecret space (link.secretName current.spec) data
      Api.replaceResource space name (overlaid (overlay c) current)))
    (hnot : c ∉ w.writers) (hknown : Known space name w c j current) :
    Serial link space name data? overlay start (w.step serve c) := by
  rcases Api.patchSecret_bind_cases space (link.secretName current.spec) data
    (Api.replaceResource space name (overlaid (overlay c) current)) with heq | heq
  · rw [Pair.step_of_fail (hprogram.trans heq)]
    exact h
  have hcall := hprogram.trans heq
  have hget : (serve w.state (.patch (secretPlace space (link.secretName current.spec))
      (Secret.patchJson data))).1.get? (resourcePlace k space name) =
      w.state.get? (resourcePlace k space name) := hserve.elsewhere nofun
  refine h.quiet hcall hget rfl fun hwriters => ?_
  have hstep : w.step serve c = _ := Pair.step_of_call hcall
  have hknown : Known space name (w.step serve c) c j current :=
    hknown.congr (by rw [hstep]; exact hget) hwriters
  rw [← hwriters] at hnot
  rw [hstep] at hnot hknown ⊢
  cases hresponse : (serve w.state (.patch (secretPlace space (link.secretName current.spec))
    (Secret.patchJson data))).2.read Secret.ofJson? with
  | ok _ =>
    exact .read hdecode (.inr (Function.update_self _ _ _)) hnot hknown
  | error f =>
    exact .failed (f := f) (Function.update_self _ _ _) hnot

omit h in
/-- What is accepted has the version that is stored, so the resource is as it was read. -/
theorem current_of_accepted (hknown : Known space name w c j current)
    (haccepted : (serve w.state (.replace (resourcePlace k space name)
      (overlaid (overlay c) current).toJson)).2.isRefused = false) :
    w.state.get? (resourcePlace k space name) = some j ∧
      Store.versionOf current.toJson = Store.versionOf j := by
  have hversion {old : Json} (hold : w.state.get? (resourcePlace k space name) = some old) :
      Store.versionOf current.toJson = Store.versionOf old := by
    by_contra hne
    rw [← versionOf_overlaid (overlay c)] at hne
    obtain ⟨message, hstale⟩ := hserve.stale hold hne
    rw [hstale] at haccepted
    cases haccepted
  rcases hknown with hj | ⟨-, new, hnew, hne⟩
  · exact ⟨hj, hversion hj⟩
  · exact absurd (hversion hnew) hne

omit hserve in
/-- Once a client has written, what the other one has read is of an older version. -/
theorem stage_other {new : Json} (hdecode : Resource.ofJson? k j = some current)
    (hj : w.state.get? (resourcePlace k space name) = some j)
    (hversion : Store.versionOf current.toJson = Store.versionOf j)
    (hnot : c ∉ w.writers) (hprograms : w'.programs c.other = w.programs c.other)
    (hwriters : w'.writers = w.writers ++ [c])
    (hnew : w'.state.get? (resourcePlace k space name) = some new)
    (hfresh : Store.versionOf new ≠ Store.versionOf j) :
    Stage link space name data? overlay w' c.other := by
  have hother : c.other ∉ w.writers → c.other ∉ w'.writers := fun hno hin => by
    rw [hwriters, List.mem_append, List.mem_singleton] at hin
    exact hin.elim hno c.ne_other.symm
  cases h.stage c.other with
  | unread hprogram hno => exact .unread (hprograms.trans hprogram) (hother hno)
  | read hdecode' hprogram hno hknown =>
    rcases hknown with hj' | ⟨hin, -⟩
    · obtain rfl := Option.some.inj (hj.symm.trans hj')
      obtain rfl := Option.some.inj (hdecode.symm.trans hdecode')
      refine .read hdecode (by rw [hprograms]; exact hprogram) (hother hno)
        (.inr ⟨?_, new, hnew, ?_⟩)
      · rw [c.other_other, hwriters]
        exact List.mem_append_right _ (List.mem_singleton_self c)
      · rw [hversion]
        exact hfresh.symm
    · rw [c.other_other] at hin
      exact absurd hin hnot
  | written hprogram hin =>
    exact .written (hprograms.trans hprogram) (hwriters ▸ List.mem_append_left _ hin)
  | failed hprogram hno => exact .failed (hprograms.trans hprogram) (hother hno)

/-- An accepted replacement lays its fields over those that are stored. -/
theorem step_accepted (hdecode : Resource.ofJson? k j = some current)
    (hcall : w.programs c = .call (.replace (resourcePlace k space name)
      (overlaid (overlay c) current).toJson) fun response =>
        .ofResult (response.read (Resource.ofJson? k)))
    (hnot : c ∉ w.writers) (hknown : Known space name w c j current)
    (haccepted : (serve w.state (.replace (resourcePlace k space name)
      (overlaid (overlay c) current).toJson)).2.isRefused = false) :
    Serial link space name data? overlay start (w.step serve c) := by
  obtain ⟨hj, hversion⟩ := current_of_accepted hserve hknown haccepted
  obtain ⟨new, hnew, hfresh⟩ := hserve.fresh (.inl rfl) haccepted hj
  have hstored := hserve.stored rfl link.unreported haccepted
  have hbefore : w.state.spec? k space name = some current.spec := by
    rw [Store.spec?, hj, Option.bind_some, Resource.specIn?_of_ofJson? hdecode]
  rw [h.spec, Option.map_eq_some_iff] at hbefore
  obtain ⟨spec, hspec, hfold⟩ := hbefore
  have hstep : w.step serve c = _ := Pair.step_of_call hcall
  have hwriters : (w.step serve c).writers = w.writers ++ [c] := by
    rw [hstep, Pair.writers_append, Api.Exchange.isReplaced, haccepted]
    rfl
  refine ⟨?_, fun _ => by rw [hspec]; rfl, ?_, fun d => ?_⟩
  · rw [hwriters]
    exact h.nodup.append (List.nodup_singleton c) (List.disjoint_singleton.2 hnot)
  · rw [hwriters, hspec, hstep]
    simp only [Option.map_some, List.foldl_append, hfold]
    exact hstored
  rcases c.eq_or_eq_other d with rfl | rfl
  · rcases hserve.replaced (s := w.state) (p := resourcePlace k space name)
      (r := overlaid (overlay d) current) rfl link.unreported with
      hrefused | ⟨_, stored, hobject, hread⟩
    · rw [hrefused] at haccepted
      cases haccepted
    · refine .written (r := stored) ?_
        (hwriters ▸ List.mem_append_right _ (List.mem_singleton_self d))
      rw [hstep]
      simp only [Function.update_self, hobject, Api.Response.read, hread]
      rfl
  · refine h.stage_other hdecode hj hversion hnot ?_ hwriters ?_ hfresh
    · rw [hstep]
      exact Function.update_of_ne c.ne_other.symm _ _
    · rw [hstep]
      exact hnew

/-- A replacement is accepted, or its client fails with nothing changed. -/
theorem step_replace (hdecode : Resource.ofJson? k j = some current)
    (hprogram : w.programs c = Api.replaceResource space name (overlaid (overlay c) current))
    (hnot : c ∉ w.writers) (hknown : Known space name w c j current) :
    Serial link space name data? overlay start (w.step serve c) := by
  rcases Api.sendFor_cases (Resource.ofJson? k)
    (.replace (resourcePlace k space name) (overlaid (overlay c) current).toJson) with heq | heq
  · rw [Pair.step_of_fail (hprogram.trans heq)]
    exact h
  have hcall := hprogram.trans heq
  cases hrefused : (serve w.state (.replace (resourcePlace k space name)
    (overlaid (overlay c) current).toJson)).2.isRefused with
  | true =>
    refine h.quiet hcall (by rw [hserve.refused hrefused]) ?_ fun hwriters => ?_
    · rw [Api.Exchange.isReplaced, hrefused]
      rfl
    · obtain ⟨code, message, hresponse⟩ := Api.Versioned.refused_of_isRefused hrefused
      rw [← hwriters] at hnot
      rw [Pair.step_of_call hcall] at hnot ⊢
      refine .failed (f := .ofStatus code message) ?_ hnot
      simp only [Function.update_self, hresponse]
      rfl
  | false => exact h.step_accepted hserve hdecode hcall hnot hknown hrefused

theorem step (c : Client) : Serial link space name data? overlay start (w.step serve c) := by
  cases h.stage c with
  | unread hprogram hnot => exact h.step_unread hserve hprogram hnot
  | read hdecode hprogram hnot hknown =>
    rename_i current
    rcases hprogram with hprogram | hprogram
    · unfold writing at hprogram
      cases hdata : data? c current with
      | none =>
        rw [hdata] at hprogram
        exact h.step_replace hserve hdecode hprogram hnot hknown
      | some data =>
        rw [hdata] at hprogram
        exact h.step_patch hserve hdecode hprogram hnot hknown
    · exact h.step_replace hserve hdecode hprogram hnot hknown
  | written hprogram _ =>
    rw [Pair.step_of_done hprogram]
    exact h
  | failed hprogram _ =>
    rw [Pair.step_of_fail hprogram]
    exact h

theorem play (turns : List Client) :
    Serial link space name data? overlay start (w.play serve turns) := by
  induction turns generalizing w with
  | nil => exact h
  | cons c rest ih => exact ih (h.step hserve c)

end Serial

theorem serial_start : Serial link space name data? overlay start
    ⟨start, fun c => link.update space name (data? c) (overlaid (overlay c)), []⟩ where
  nodup := List.nodup_nil
  there hne := absurd rfl hne
  spec := Option.map_id'.symm
  stage _ := .unread rfl List.not_mem_nil

/-- A client has been answered with the resource exactly if it has written. -/
theorem Stage.answered_iff (h : Stage link space name data? overlay w c) :
    w.Answered c ↔ c ∈ w.writers := by
  have hasks {α β : Type} (decode : Json → Option α) (r : Request) (next : α → Program β) :
      (Api.sendFor decode r >>= next).isDone = false := by
    rcases Api.sendFor_bind_cases decode r next with heq | heq <;> rw [heq] <;> rfl
  have hreplaces (current : Resource k) :
      (Api.replaceResource space name current).isDone = false := by
    rcases Api.sendFor_cases (Resource.ofJson? k)
      (.replace (resourcePlace k space name) current.toJson) with heq | heq <;>
        rw [Api.replaceResource, heq] <;> rfl
  rw [Pair.Answered]
  cases h with
  | unread hprogram hnot =>
    have hno : (w.programs c).isDone = false := by
      rw [hprogram]
      exact hasks _ _ _
    simp [hno, hnot]
  | read hdecode hprogram hnot hknown =>
    rename_i current
    have hno : (w.programs c).isDone = false := by
      rcases hprogram with hprogram | hprogram
      · rw [hprogram, writing]
        cases data? c current with
        | none => exact hreplaces _
        | some data =>
          rcases Api.patchSecret_bind_cases space (link.secretName current.spec) data
            (Api.replaceResource space name (overlaid (overlay c) current)) with heq | heq
          · exact congrArg Program.isDone heq
          · exact congrArg Program.isDone heq
      · rw [hprogram]
        exact hreplaces _
    simp [hno, hnot]
  | written hprogram hin => simp [hprogram, hin, Program.isDone]
  | failed hprogram hnot => simp [hprogram, hnot, Program.isDone]

end SecretLink

/-! ## No update is lost -/

/-- What two updates at once leave of the fields of a resource, by which of them have been answered
with the resource. -/
structure NoneLost (k : Kind) (space name : String) (overlay : Client → k.Spec → k.Spec)
    (start : Store) (w : Pair Store (Resource k)) : Prop where
  /-- The overlays of both, in the order of their replacements. -/
  both : (∀ c, w.Answered c) → ∃ c spec, w.writers = [c, c.other] ∧
    start.spec? k space name = some spec ∧
    w.state.spec? k space name = some (overlay c.other (overlay c spec))
  /-- The overlay of the one. -/
  one {c : Client} : w.Answered c → ¬ w.Answered c.other → ∃ spec,
    start.spec? k space name = some spec ∧ w.state.spec? k space name = some (overlay c spec)
  none : (∀ c, ¬ w.Answered c) → w.state.spec? k space name = start.spec? k space name

theorem SecretLink.Serial.noneLost {k : Kind} {link : SecretLink k} {space name : String}
    {data? : Client → Resource k → Option SecretData} {overlay : Client → k.Spec → k.Spec}
    {start : Store} {w : Pair Store (Resource k)}
    (h : Serial link space name data? overlay start w) :
    NoneLost k space name overlay start w := by
  have hanswered (c : Client) := (h.stage c).answered_iff
  have hspec := h.spec
  rcases Client.cases_of_nodup h.nodup with hnone | ⟨c, hone⟩ | ⟨c, hboth⟩
  · simp only [hnone, List.not_mem_nil, iff_false] at hanswered
    refine ⟨fun hall => absurd (hall .first) (hanswered _), fun hc => absurd hc (hanswered _),
      fun _ => ?_⟩
    rw [hspec, hnone]
    exact Option.map_id'
  · obtain ⟨spec, hstart⟩ := Option.isSome_iff_exists.1 (h.there (by simp [hone]))
    simp only [hone, List.mem_singleton] at hanswered
    refine ⟨fun hall => absurd ((hanswered _).1 (hall c.other)) c.ne_other.symm, fun {d} hd _ => ?_,
      fun hall => absurd ((hanswered c).2 rfl) (hall c)⟩
    obtain rfl := (hanswered d).1 hd
    exact ⟨spec, hstart, by rw [hspec, hone, hstart]; rfl⟩
  · obtain ⟨spec, hstart⟩ := Option.isSome_iff_exists.1 (h.there (by simp [hboth]))
    have hall (d : Client) : w.Answered d := by
      rw [hanswered, hboth]
      rcases c.eq_or_eq_other d with rfl | rfl <;> simp
    exact ⟨fun _ => ⟨c, spec, hboth, hstart, by rw [hspec, hboth, hstart]; rfl⟩,
      fun _ hnot => absurd (hall _) hnot, fun hnone => absurd (hall c) (hnone c)⟩

/-- Updates of one kind, served in any order of their requests. -/
theorem SecretLink.noneLost_play {k : Kind} (link : SecretLink k)
    {serve : Store → Request → Store × Response} (hserve : Keeping serve) (start : Store)
    {space name : String} (data? : Client → Resource k → Option SecretData)
    {overlay : Client → k.Spec → k.Spec} (turns : List Client)
    {programs : Client → Program (Resource k)}
    (hprograms : ∀ c, programs c = link.update space name (data? c) (overlaid (overlay c))) :
    NoneLost k space name overlay start (Pair.play serve ⟨start, programs, []⟩ turns) := by
  obtain rfl := funext hprograms
  exact (serial_start.play hserve turns).noneLost

namespace Sample

/-- One client sets a new key and the description of the storage, the other one its region. -/
def updates : Client → StorageUpdate
  | .first => { newKey with description := some "nightly" }
  | .second => { space := "ns", name := "archive", region := some "us" }

/-- Both clients read the storage. The secret is patched, then the region is written, and what the
first client has read is out of date. -/
def overtaken : Pair Store BackupStorage :=
  Pair.play Api.Versioned.serve
    ⟨archived, fun c => (Operation.updateStorage (updates c)).perform, []⟩
    [.first, .second, .first, .second, .first]

/-- The first client is done before the second one reads. -/
def inTurn : Pair Store BackupStorage :=
  Pair.play Api.Versioned.serve
    ⟨archived, fun c => (Operation.updateStorage (updates c)).perform, []⟩
    [.first, .first, .first, .second, .second]

end Sample

end ClusterAdmission
