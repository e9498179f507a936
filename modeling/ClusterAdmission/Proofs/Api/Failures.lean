import ClusterAdmission.Api.State

/-!
# What reads fail with

Rejections are for the rules. The API rejects no read (`View.through_ne_rejected`), whatever it is
asked for and however it answers: what a read fails with is what the API or its client reports, or
a secret that is no text.
-/

namespace ClusterAdmission

namespace Api

/-- Whatever the responses are, the failure is no rejection. -/
def Program.NeverRejects {α : Type} : Program α → Prop
  | .done _ => True
  | .fail f => ∀ v, f ≠ .rejected v
  | .call _ next => ∀ response, (next response).NeverRejects

variable {α β : Type} {p : Program α} {decode : Json → Option α}

theorem Program.NeverRejects.bind {k : α → Program β} (hp : p.NeverRejects)
    (hk : ∀ a, (k a).NeverRejects) : (p >>= k).NeverRejects := by
  change (p.bind k).NeverRejects
  induction p with
  | done a => exact hk a
  | fail f => exact hp
  | call r next ih => exact fun response => ih response (hp response)

theorem Program.NeverRejects.answer_run {σ : Type} {serve : σ → Request → σ × Response}
    (hp : p.NeverRejects) (s : σ) (v : Violation) :
    (p.run serve s).answer ≠ .error (.rejected v) := by
  induction p generalizing s with
  | done a => exact nofun
  | fail f => exact fun h => hp v (Except.error.inj h)
  | call r next ih => exact ih _ (hp _) _

theorem neverRejects_ofResult {result : Except Failure α}
    (h : ∀ v, result ≠ .error (.rejected v)) : (Program.ofResult result).NeverRejects := by
  cases result with
  | ok a => trivial
  | error f => exact fun v hf => h v (congrArg Except.error hf)

theorem neverRejects_send (r : Request) : (send r).NeverRejects := by
  unfold send
  split
  · exact fun _ => trivial
  · exact fun v => nofun

theorem ofStatus_ne_rejected (code : Int) (message : String) (v : Violation) :
    Failure.ofStatus code message ≠ .rejected v := by
  intro h
  unfold Failure.ofStatus at h
  split at h
  · cases h
  · split at h <;> cases h

theorem Response.read_ne_rejected (response : Response) (v : Violation) :
    response.read decode ≠ .error (.rejected v) := by
  intro h
  cases response with
  | object j =>
    rw [read] at h
    split at h <;> cases h
  | refused code message => exact ofStatus_ne_rejected code message v (Except.error.inj h)
  | objects js | deleted => cases h

theorem Response.readAll_ne_rejected (response : Response) (v : Violation) :
    response.readAll decode ≠ .error (.rejected v) := by
  intro h
  cases response with
  | objects js =>
    rw [readAll] at h
    split at h <;> cases h
  | refused code message => exact ofStatus_ne_rejected code message v (Except.error.inj h)
  | object j | deleted => cases h

theorem neverRejects_sendFor (r : Request) : (sendFor decode r).NeverRejects :=
  (neverRejects_send r).bind fun response =>
    neverRejects_ofResult (response.read_ne_rejected ·)

theorem neverRejects_listResources (k : Kind) (space : Option String) :
    (listResources k space).NeverRejects :=
  (neverRejects_send _).bind fun response =>
    neverRejects_ofResult (response.readAll_ne_rejected ·)

end Api

theorem Secret.texts_ne_rejected (name : String) (bytes : SortedMap String (List UInt8))
    (v : Violation) : Secret.texts name bytes ≠ .error (.rejected v) := by
  have hentries (entries : List (String × List UInt8)) :
      entries.mapM (entryText name) ≠ .error (.rejected v) := by
    induction entries with
    | nil => exact nofun
    | cons entry rest ih =>
      rw [List.mapM_cons, entryText]
      cases Base64.text? entry.2 with
      | none => exact nofun
      | some text =>
        cases hrest : rest.mapM (entryText name) with
        | ok texts => exact nofun
        | error f =>
          rw [hrest] at ih
          exact ih
  intro h
  cases hall : bytes.entries.mapM (entryText name) with
  | ok all =>
    rw [texts, hall] at h
    cases h
  | error f =>
    rw [texts, hall] at h
    cases h
    exact hentries _ hall

/-- The API rejects no read: what it answers is either a value or a failure of its own. -/
theorem View.through_ne_rejected {σ : Type} (serve : σ → Api.Request → σ × Api.Response) (s : σ)
    (r : Read) (v : Violation) : View.through serve s r ≠ .error (.rejected v) := by
  have hfetch : r.fetch.NeverRejects := by
    cases r with
    | clusters space => exact Api.neverRejects_listResources _ _
    | storages space => exact Api.neverRejects_listResources _ _
    | backups space owner =>
      exact (Api.neverRejects_listResources _ _).bind fun _ => trivial
    | secret space name =>
      exact (Api.neverRejects_sendFor _).bind fun bytes =>
        Api.neverRejects_ofResult (Secret.texts_ne_rejected name bytes)
    | cluster | engine | storage | backup | loadBalancer | monitoring | schedulingPolicy
    | splitHorizon => exact Api.neverRejects_sendFor _
  exact hfetch.answer_run s v

end ClusterAdmission
