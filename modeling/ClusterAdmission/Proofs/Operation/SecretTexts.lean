import ClusterAdmission.Proofs.Api.TwoRuns
import ClusterAdmission.Proofs.Operation.WithSecret
import ClusterAdmission.Proofs.Request.Redaction

/-!
# Operations that differ in the texts of a secret

A resource is created or updated in the same way whatever texts go into its secret, as long as they
go under the same keys: the answers are the same, and so are the stores but for the secret
(`SecretLink.create_alike`, `SecretLink.update_alike`). Requests for storages that differ in the
keys of the storage alone are of this kind.
-/

namespace ClusterAdmission

open Api (Program serveUnder secretPlace)

/-! ## Requests -/

/-- Under which keys a secret has texts tells which keys of a storage are given. -/
theorem StorageCredentials.keys_secretData (type : StorageType)
    {accessKey secretKey accessKey' secretKey' : Option String}
    (haccess : accessKey'.isSome = accessKey.isSome)
    (hsecret : secretKey'.isSome = secretKey.isSome) :
    (secretData type accessKey secretKey).keys = (secretData type accessKey' secretKey').keys := by
  refine SortedMap.keys_ofList_congr ?_
  cases accessKey <;> cases accessKey' <;> cases haccess <;> cases secretKey <;>
    cases secretKey' <;> cases hsecret <;> rfl

theorem StorageUpdate.keys_secretData? {u u' : StorageUpdate} (h : u.masked = u'.masked)
    (current : BackupStorage) :
    (u'.secretData? current).map SortedMap.keys = (u.secretData? current).map SortedMap.keys := by
  obtain ⟨accessKey, secretKey, rfl, haccess, hsecret⟩ := eq_of_masked h
  have hchanges : changesCredentials { u with accessKey, secretKey } = u.changesCredentials := by
    simp only [changesCredentials, haccess, hsecret]
  rw [secretData?, secretData?, hchanges]
  split
  · exact congrArg some (StorageCredentials.keys_secretData _ haccess hsecret).symm
  · rfl

/-! ## Operations -/

namespace SecretLink

variable {k : Kind} (link : SecretLink k) {exempt : Place → Prop} {faults : List Api.Fault}
  {s t : Store}

/-- A resource is created with its secret whatever the texts of the secret are. -/
theorem create_alike {r : Resource k} {data data' : SecretData}
    (hexempt : exempt (link.secretOf (link.filled r))) (hst : s.SameBut exempt t) :
    Program.Alike (serveUnder faults) (Store.SameBut exempt) Eq (link.create r data) s
      (link.create r data') t := by
  rw [secretOf, link.space_filled] at hexempt
  unfold create
  refine (Api.createSecret_alike hexempt hst).bind (fun _ _ => id) fun _ _ _ u v huv => ?_
  refine (Api.createResource_alike _ huv).attempt.bind (fun _ _ => id) ?_
  intro created created' hcreated u' v' huv'
  obtain rfl := Api.alikeAnswers_eq_iff.1 hcreated
  cases created with
  | ok stored => exact .pure huv' rfl
  | error f =>
    exact (Api.deleteSecret_alike huv').attempt.bind (fun _ _ => id) fun _ _ _ _ _ h => .fail f h

/-- A resource is updated whatever texts are set under the same keys of its secret. -/
theorem update_alike {space name : String} {data? data?' : Resource k → Option SecretData}
    {apply : Resource k → Resource k}
    (hexempt : ∀ current, ((Api.getResource k space name).run (serveUnder faults) s).answer =
      .ok current → exempt (secretPlace space (link.secretName current.spec)))
    (hkeys : ∀ current, (data?' current).map SortedMap.keys = (data? current).map SortedMap.keys) :
    Program.Alike (serveUnder faults) (Store.SameBut exempt) Eq
      (link.update space name data? apply) s (link.update space name data?' apply) s := by
  have hserve (s : Store) (r : Api.Request) (h : r.isWrite = false) :
      (serveUnder faults s r).1 = s := Api.serveUnder_of_read h
  unfold update
  refine ((Api.readOnly_getResource k space name).alike hserve s).bind ?_ ?_
  · rintro u v ⟨rfl, rfl⟩
    exact .refl exempt _
  rintro current _ ⟨rfl, hcurrent⟩ u v ⟨rfl, rfl⟩
  have hkeys := hkeys current
  cases hdata : data? current with
  | none =>
    rw [hdata] at hkeys
    rw [Option.map_eq_none_iff.1 hkeys]
    exact Api.replaceResource_alike _ _ _ (.refl exempt _)
  | some data =>
    rw [hdata] at hkeys
    obtain ⟨data', hdata', hsame⟩ := Option.map_eq_some_iff.1 hkeys
    rw [hdata']
    exact (Api.patchSecret_alike (hexempt current hcurrent) (.refl exempt _) rfl hsame.symm).bind
      (fun _ _ => id) fun _ _ _ _ _ => Api.replaceResource_alike _ _ _

end SecretLink

namespace Operation

variable {faults : List Api.Fault}

theorem createStorage_alike {r r' : NewStorage} (hmasked : r.masked = r'.masked) (s : Store) :
    Program.Alike (serveUnder faults)
      (Store.SameBut fun q => q = SecretLink.storage.secretOf (SecretLink.storage.filled r.storage))
      Eq (createStorage r).perform s (createStorage r').perform s := by
  obtain ⟨credentials, rfl⟩ := NewStorage.eq_of_masked hmasked
  exact SecretLink.storage.create_alike rfl (.refl _ s)

theorem updateStorage_alike {u u' : StorageUpdate} (hmasked : u.masked = u'.masked) (s : Store) :
    Program.Alike (serveUnder faults)
      (Store.SameBut fun q => ∃ current : BackupStorage,
        View.through (serveUnder faults) s (.storage u.space u.name) = .ok current ∧
        q = secretPlace u.space current.spec.credentialsSecretName)
      Eq (updateStorage u).perform s (updateStorage u').perform s := by
  have hkeys := StorageUpdate.keys_secretData? hmasked
  obtain ⟨accessKey, secretKey, rfl, -⟩ := StorageUpdate.eq_of_masked hmasked
  exact SecretLink.storage.update_alike (fun current hcurrent => ⟨current, hcurrent, rfl⟩) hkeys

end Operation

end ClusterAdmission
