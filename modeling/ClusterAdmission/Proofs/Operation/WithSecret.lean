import ClusterAdmission.Operation.Perform
import ClusterAdmission.Proofs.Api.Ensures

/-!
# Resources and their secrets together

What creating, updating and deleting a resource with a secret does to the store, whichever requests
fail: one rule for each of the three programs of a link, in the terms of `Program.Ensures`. Every
other operation leaves secrets and the resources that name them alone, so what is shown of these
three holds of all operations (`Operation.perform_induction`).
-/

namespace ClusterAdmission

open Api (Program Request serveUnder resourcePlace createdPlace secretPlace)

namespace SecretLink

variable {k : Kind} (link : SecretLink k)

/-- The place of the secret that a resource names. -/
def secretOf (r : Resource k) : Place := secretPlace r.space (link.secretName r.spec)

/-- The new secret that is kept for a resource. -/
def newSecret (r : Resource k) (data : SecretData) : Json :=
  Secret.sealTexts (Secret.newJson r.space (link.secretName r.spec) data)

/-- A store with a new secret for a resource. -/
def addSecret (s : Store) (r : Resource k) (data : SecretData) : Store :=
  s.insert (link.secretOf r) (link.newSecret r data)

@[simp] theorem metadata_filled (r : Resource k) : (link.filled r).metadata = r.metadata := by
  unfold filled
  split <;> rfl

@[simp] theorem space_filled (r : Resource k) : (link.filled r).space = r.space :=
  congrArg Metadata.spaceOrEmpty (link.metadata_filled r)

@[simp] theorem name_filled (r : Resource k) : (link.filled r).name = r.name :=
  congrArg Metadata.anyName (link.metadata_filled r)

/-- A resource that does not name its secret gets its own name filled in. -/
theorem secretName_filled (r : Resource k) :
    link.secretName (link.filled r).spec =
      if link.secretName r.spec = "" then r.name else link.secretName r.spec := by
  unfold filled
  split
  · exact link.secretName_with _ _
  · rfl

theorem secretOf_filled (r : Resource k) :
    link.secretOf (link.filled r) =
      secretPlace r.space
        (if link.secretName r.spec = "" then r.name else link.secretName r.spec) := by
  rw [secretOf, link.space_filled, link.secretName_filled]

variable {faults : List Api.Fault} {s : Store} {I : Store → Prop} {error : Failure → Store → Prop}

/-- The secret and the resource are both added, or nothing is, unless the secret cannot be taken
back. -/
theorem create_ensures {r new : Resource k} {data : SecretData} {ok : Resource k → Store → Prop}
    (hnew : link.filled r = new) (hs : I s) (herror : ∀ f, error f s)
    (hsecret : s.get? (link.secretOf new) = none → I (link.addSecret s new data))
    (hstuck : s.get? (link.secretOf new) = none →
      ¬ (Request.delete (link.secretOf new)).Reaches faults →
        ∀ f, error f (link.addSecret s new data))
    (hcreated : s.get? (link.secretOf new) = none → s.get? (createdPlace new) = none →
      I ((link.addSecret s new data).insert (createdPlace new) new.toJson) ∧
        ∀ stored, stored.spec = new.spec →
          ok stored ((link.addSecret s new data).insert (createdPlace new) new.toJson)) :
    Program.Ensures (serveUnder faults) (link.create r data) s I ok error := by
  have hspace : r.space = new.space := hnew ▸ (link.space_filled r).symm
  rw [create, hnew, hspace]
  refine .bind (Api.createSecret_ensures hs herror fun hfree => ?_)
  change s.get? (link.secretOf new) = none at hfree
  change I (link.addSecret s new data) ∧
    Program.Ensures (serveUnder faults) _ (link.addSecret s new data) I ok error
  have hI := hsecret hfree
  -- The secret is taken back whatever the reason for which the resource was not created.
  have hback (f : Failure) : Program.Ensures (serveUnder faults)
      (do let _ ← (Api.deleteSecret new.space (link.secretName new.spec)).attempt; .fail f)
      (link.addSecret s new data) I ok error := by
    refine .bind (.attempt (Api.deleteSecret_ensures hI (fun hstays => ?_) ?_))
    · exact ⟨.fail hI (hstuck hfree hstays f), fun _ => .fail hI (hstuck hfree hstays f)⟩
    · change I ((link.addSecret s new data).erase (link.secretOf new)) ∧ Program.Ensures _ _
        ((link.addSecret s new data).erase (link.secretOf new)) _ _ _
      rw [addSecret, SortedMap.erase_insert hfree]
      exact ⟨hs, .fail hs (herror f)⟩
  refine ⟨hI, .bind (.attempt (Api.createResource_ensures link.unreported hI hback ?_))⟩
  intro hplace
  have hne : createdPlace new ≠ link.secretOf new := nofun
  rw [addSecret, SortedMap.get?_insert_of_ne s _ hne] at hplace
  obtain ⟨hboth, hok⟩ := hcreated hfree hplace
  exact ⟨hboth, fun stored hspec => .pure hboth (hok stored hspec)⟩

/-- The secret is patched and the resource is replaced, or at most the secret is patched. -/
theorem update_ensures {space name : String} {data? : Resource k → Option SecretData}
    {apply : Resource k → Resource k} {ok : Resource k → Store → Prop} (hs : I s)
    (herror : ∀ f, error f s)
    (hsame : ∀ j current, s.get? (resourcePlace k space name) = some j →
      Resource.ofJson? k j = some current → data? current = none →
        I (s.insert (resourcePlace k space name) (apply current).toJson) ∧
        ∀ stored, ok stored (s.insert (resourcePlace k space name) (apply current).toJson))
    (hpatched : ∀ j current data old, s.get? (resourcePlace k space name) = some j →
      Resource.ofJson? k j = some current → data? current = some data →
      s.get? (secretPlace space (link.secretName current.spec)) = some old →
      ∀ t, t = s.insert (secretPlace space (link.secretName current.spec))
          (Secret.sealTexts (old.mergePatch (Secret.patchJson data))) →
        I t ∧ (∀ f, error f t) ∧
        I (t.insert (resourcePlace k space name) (apply current).toJson) ∧
        ∀ stored, ok stored (t.insert (resourcePlace k space name) (apply current).toJson)) :
    Program.Ensures (serveUnder faults) (link.update space name data? apply) s I ok error := by
  unfold update
  refine .bind (Api.getResource_ensures hs herror fun j current hj hread => ?_)
  cases hdata : data? current with
  | none =>
    obtain ⟨hI, hok⟩ := hsame j current hj hread hdata
    exact Api.replaceResource_ensures link.unreported hs herror fun _ =>
      ⟨hI, fun stored _ => hok stored⟩
  | some data =>
    refine .bind (Api.patchSecret_ensures hs herror fun old hold => ?_)
    obtain ⟨hI, hfail, hboth, hok⟩ := hpatched j current data old hj hread hdata hold _ rfl
    exact ⟨hI, Api.replaceResource_ensures link.unreported hI hfail fun _ =>
      ⟨hboth, fun stored _ => hok stored⟩, hfail⟩

/-- The resource goes, and then its secret, unless the deletion of the secret does not reach the
API. -/
theorem delete_ensures {space name : String} {ok : Unit → Store → Prop} (hs : I s)
    (herror : ∀ f, error f s)
    (hgone : ∀ j current, s.get? (resourcePlace k space name) = some j →
      Resource.ofJson? k j = some current →
      ∀ t, t = s.erase (resourcePlace k space name) →
        I t ∧
        (¬ (Request.delete (secretPlace space (link.secretName current.spec))).Reaches faults →
          ok () t ∧ ∀ f, error f t) ∧
        I (t.erase (secretPlace space (link.secretName current.spec))) ∧
        ok () (t.erase (secretPlace space (link.secretName current.spec)))) :
    Program.Ensures (serveUnder faults) (link.delete space name) s I ok error := by
  unfold delete
  refine .bind (Api.getResource_ensures hs herror fun j current hj hread => ?_)
  obtain ⟨hI, hstuck, hboth⟩ := hgone j current hj hread _ rfl
  exact .bind (Api.deleteResource_ensures hs herror fun _ =>
    ⟨hI, Api.deleteSecret_ensures hI hstuck hboth⟩)

/-! ## All operations -/

/-- How the resources of a kind name their secret, if they have one. -/
def ofKind? : (k : Kind) → Option (SecretLink k)
  | .backupStorage => some storage
  | .monitoringConfig => some monitoring
  | .splitHorizonDnsConfig => some splitHorizon
  | _ => none

end SecretLink

/-- Whether a collection is that of secrets or of resources that name one. -/
def Collection.hasCustody : Collection → Bool
  | .secrets => true
  | .resources k => (SecretLink.ofKind? k).isSome

/-- The secrets of two stores are the same, and so are the resources that name them. -/
def Store.SameCustody (s t : Store) : Prop :=
  ∀ p : Place, p.collection.hasCustody → t.get? p = s.get? p

/-- Reading the response of a request about other objects leaves secrets alone. -/
theorem Api.sameCustody_send_bind {α : Type} {faults : List Api.Fault} {s t : Store} {r : Request}
    {read : Api.Response → Except Failure α} (hr : r.collection.hasCustody = false)
    (h : t ∈ (do let response ← Api.send r; .ofResult (read response) : Program α).states
      (serveUnder faults) s) :
    s.SameCustody t := by
  rcases Api.mem_states_send_bind h with rfl | rfl
  · exact fun _ _ => rfl
  · refine fun p hp => Api.get?_serveUnder_of_ne ?_
    rintro heq
    rw [heq, hr] at hp
    cases hp

/-- What holds of the three programs of every link, and of all programs that leave secrets alone,
holds of every operation. -/
theorem Operation.perform_induction {P : {α : Type} → Program α → Prop}
    (create : ∀ {k : Kind} {link : SecretLink k}, SecretLink.ofKind? k = some link →
      ∀ r data, P (link.create r data))
    (update : ∀ {k : Kind} {link : SecretLink k}, SecretLink.ofKind? k = some link →
      ∀ space name data? apply, (∀ r, link.secretName (apply r).spec = link.secretName r.spec) →
        P (link.update space name data? apply))
    (delete : ∀ {k : Kind} {link : SecretLink k}, SecretLink.ofKind? k = some link →
      ∀ space name, P (link.delete space name))
    (other : ∀ {α : Type} (p : Program α), (∀ faults s t, t ∈ p.states (serveUnder faults) s →
      s.SameCustody t) → P p)
    (op : Operation) : P op.perform := by
  have hread {α : Type} {p : Program α} (hp : p.ReadOnly) : P p := by
    refine other p fun faults s t ht => ?_
    rw [hp.eq_of_mem_states (fun _ _ => Api.serveUnder_of_read) ht]
    exact fun _ _ => rfl
  cases op with
  | createStorage => exact create rfl _ _
  | createMonitoring => exact create rfl _ _
  | createSplitHorizon => exact create rfl _ _
  | updateStorage => exact update rfl _ _ _ _ fun _ => rfl
  | updateMonitoring => exact update rfl _ _ _ _ fun _ => rfl
  | updateSplitHorizon => exact update rfl _ _ _ _ fun _ => rfl
  | deleteStorage => exact delete rfl _ _
  | deleteMonitoring => exact delete rfl _ _
  | getCluster => exact hread (Api.readOnly_getResource _ _ _)
  | listClusters | listStorages => exact hread (Api.readOnly_listResources _ _)
  | createCluster | updateCluster | deleteCluster | createBackup | createRestore
  | createSchedulingPolicy | updateSchedulingPolicy | deleteSchedulingPolicy | createLoadBalancer
  | updateLoadBalancer | deleteLoadBalancer =>
    exact other _ fun _ _ _ => Api.sameCustody_send_bind rfl

end ClusterAdmission
