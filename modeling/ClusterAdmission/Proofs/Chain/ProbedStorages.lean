import ClusterAdmission.Proofs.Chain.Clusters
import ClusterAdmission.Proofs.Operation.AllOrNothing
import ClusterAdmission.Proofs.Policy.Probes

/-!
# Storages are stored as they were probed

A storage that is created or updated has been probed as it is then stored, with the credentials that
its secret then holds (`probed_is_stored`). The check lays the credentials of an update over those
that it reads, while the operation patches the secret; both agree on which key is which, and a patch
is read back as the same overlay. Secrets are taken to be as the API keeps them, which they stay at
every moment of a run (`secrets_stay_kept`).
-/

namespace ClusterAdmission

open Api (Program serveUnder resourcePlace createdPlace secretPlace)

/-! ## Credentials -/

namespace StorageCredentials

variable (type : StorageType) (accessKey secretKey : Option String)

theorem get?_secretData :
    (secretData type accessKey secretKey).get? type.secretKeys.1 = accessKey ∧
      (secretData type accessKey secretKey).get? type.secretKeys.2 = secretKey := by
  cases type <;> cases accessKey <;> cases secretKey <;>
    simp [secretData, SecretData.ofOptional, SortedMap.ofList, StorageType.secretKeys,
      SortedMap.get?_insert_of_ne]

end StorageCredentials

/-- The texts of an update laid over a secret hold the credentials of the update laid over those of
the secret. -/
theorem StorageUpdate.ofSecret_overlay (u : StorageUpdate) (type : StorageType)
    (stored : SecretData) :
    StorageCredentials.ofSecret type
        ((StorageCredentials.secretData type u.accessKey u.secretKey).overlay stored) =
      u.applyCredentials (.ofSecret type stored) := by
  obtain ⟨haccess, hsecret⟩ := StorageCredentials.get?_secretData type u.accessKey u.secretKey
  simp only [StorageCredentials.ofSecret, applyCredentials, SortedMap.get?_overlay, haccess,
    hsecret]
  cases u.accessKey <;> cases u.secretKey <;> rfl

theorem StorageUpdate.eq_of_secretData? {u : StorageUpdate} {current : BackupStorage}
    {data : SecretData} (h : u.secretData? current = some data) :
    StorageCredentials.secretData current.spec.storageType u.accessKey u.secretKey = data := by
  unfold secretData? at h
  split at h
  · exact Option.some.inj h
  · cases h

/-- An update that names no key leaves the credentials as they are. -/
theorem StorageUpdate.applyCredentials_of_none {u : StorageUpdate} {current : BackupStorage}
    (h : u.secretData? current = none) (c : StorageCredentials) : u.applyCredentials c = c := by
  have hunchanged : u.changesCredentials = false := by simpa [secretData?] using h
  obtain ⟨haccess, hsecret⟩ : u.accessKey = none ∧ u.secretKey = none := by
    simpa [changesCredentials] using hunchanged
  simp [applyCredentials, haccess, hsecret]

/-! ## Kept secrets -/

/-- The secrets are as the API keeps them. -/
def Store.SecretsKept (s : Store) : Prop :=
  ∀ p j, p.collection = .secrets → s.get? p = some j → Secret.IsKept j

namespace Store.SecretsKept

variable {s t : Store} {p : Place} {j : Json}

theorem insert (h : s.SecretsKept) (hj : p.collection = .secrets → Secret.IsKept j) :
    Store.SecretsKept (SortedMap.insert s p j) := by
  intro q i hq hi
  by_cases hplace : q = p
  · subst hplace
    rw [SortedMap.get?_insert_self] at hi
    exact Option.some.inj hi ▸ hj hq
  · rw [SortedMap.get?_insert_of_ne s j hplace] at hi
    exact h q i hq hi

theorem erase (h : s.SecretsKept) : Store.SecretsKept (SortedMap.erase s p) := by
  intro q i hq hi
  by_cases hplace : q = p
  · rw [hplace, SortedMap.get?_erase_self] at hi
    cases hi
  · rw [SortedMap.get?_erase_of_ne s hplace] at hi
    exact h q i hq hi

theorem same (h : s.SecretsKept) (hst : s.SameCustody t) : t.SecretsKept := by
  intro q i hq hi
  rw [hst q (by rw [hq]; rfl)] at hi
  exact h q i hq hi

/-- Whatever operation is performed, the API keeps secrets in its form. -/
theorem of_mem_states {op : Operation} {faults : List Api.Fault} (hs : s.SecretsKept)
    (ht : t ∈ op.perform.states (serveUnder faults) s) : t.SecretsKept := by
  refine Operation.perform_induction (P := fun p => ∀ s : Store, s.SecretsKept →
    ∀ t ∈ p.states (serveUnder faults) s, t.SecretsKept) ?_ ?_ ?_ ?_ op s hs t ht
  · intro k link _ r data s hs
    have hnew : Store.SecretsKept (link.addSecret s (link.filled r) data) :=
      hs.insert fun _ => Secret.isKept_new _ _ data
    have hensures : Program.Ensures (serveUnder faults) (link.create r data) s Store.SecretsKept
        (fun _ _ => True) (fun _ _ => True) :=
      link.create_ensures rfl hs (fun _ => trivial) (fun _ => hnew) (fun _ _ _ => trivial)
        fun _ _ => ⟨hnew.insert nofun, fun _ _ => trivial⟩
    exact hensures.moments
  · intro k link _ space name data? apply _ s hs
    have hensures : Program.Ensures (serveUnder faults) (link.update space name data? apply) s
        Store.SecretsKept (fun _ _ => True) (fun _ _ => True) := by
      refine link.update_ensures hs (fun _ => trivial) ?_ ?_
      · intro _ _ _ _ _
        exact ⟨hs.insert nofun, fun _ => trivial⟩
      · intro _ current data old _ _ _ hold t ht
        have hpatched : Store.SecretsKept t := by
          rw [ht]
          exact hs.insert fun _ => (hs _ _ rfl hold).patch data
        exact ⟨hpatched, fun _ => trivial, hpatched.insert nofun, fun _ => trivial⟩
    exact hensures.moments
  · intro k link _ space name s hs
    have hensures : Program.Ensures (serveUnder faults) (link.delete space name) s
        Store.SecretsKept (fun _ _ => True) (fun _ _ => True) := by
      refine link.delete_ensures hs (fun _ => trivial) ?_
      rintro _ _ _ _ _ rfl
      exact ⟨hs.erase, fun _ => ⟨trivial, fun _ => trivial⟩, hs.erase.erase, trivial⟩
    exact hensures.moments
  · intro _ p hp s hs t ht
    exact hs.same (hp faults s t ht)

theorem of_mem_moment {r : Submission} {p : Policies} (hs : s.SecretsKept)
    (ht : t ∈ r.moments p s) : t.SecretsKept := by
  rcases Submission.mem_moments_cases ht with rfl | ht
  · exact hs
  · exact hs.of_mem_states ht

end Store.SecretsKept

/-- A run that starts with secrets as the API keeps them has no others at any moment. -/
theorem secrets_stay_kept (p : Policies) {s : Chain.State} {rs : List Submission} {t : Store}
    (hs : s.store.SecretsKept) (ht : t ∈ p.moments s rs) : t.SecretsKept :=
  p.of_mem_moments (fun _ _ _ => Store.SecretsKept.of_mem_moment) hs ht

/-! ## What is stored -/

/-- At a place there is a storage with these fields, and its secret holds these credentials. -/
structure Store.HoldsStorage (s : Store) (p : Place) (spec : BackupStorageSpec)
    (c : StorageCredentials) : Prop where
  storage : (s.get? p).bind (Resource.specIn? .backupStorage) = some spec
  secret : ∃ j data, s.get? (secretPlace p.space spec.credentialsSecretName) = some j ∧
    Secret.Holds j data ∧ StorageCredentials.ofSecret spec.storageType data = c

/-- A creation that succeeds leaves the storage with its secret. -/
theorem Operation.createStorage_stored {faults : List Api.Fault} {s : Store} {r : NewStorage}
    {stored : BackupStorage}
    (h : ((createStorage r).perform.run (serveUnder faults) s).answer = .ok stored) :
    ((createStorage r).perform.run (serveUnder faults) s).state.HoldsStorage
      (createdPlace (SecretLink.storage.filled r.storage))
      (SecretLink.storage.filled r.storage).spec r.credentials := by
  have hadds := (SecretLink.storage.createsBoth faults r.storage
    (StorageCredentials.secretData r.storage.spec.storageType r.credentials.accessKey
      r.credentials.secretKey) s).ok h
  obtain ⟨j, hj, hdata⟩ := hadds.secret
  have htype : (SecretLink.storage.filled r.storage).spec.storageType =
      r.storage.spec.storageType := by
    unfold SecretLink.filled
    split <;> rfl
  refine ⟨?_, j, _, hj, hdata, ?_⟩
  · have hstored : ((createStorage r).perform.run (serveUnder faults) s).state.get?
        (createdPlace (SecretLink.storage.filled r.storage)) =
          some (SecretLink.storage.filled r.storage).toJson := hadds.resource
    rw [hstored, Option.bind_some, Resource.specIn?_toJson]
  · rw [htype, StorageCredentials.ofSecret_secretData]

/-- A storage that is put back with its secret patched holds the credentials of the update, laid
over those that the secret held. -/
theorem StorageUpdate.holdsStorage {u : StorageUpdate} {current : BackupStorage}
    {stored data : SecretData} {s : Store} {j : Json}
    (hsecret : s.get? (secretPlace u.space current.spec.credentialsSecretName) = some j)
    (hdata : Secret.Holds j data)
    (hcredentials : StorageCredentials.ofSecret current.spec.storageType data =
      u.applyCredentials (.ofSecret current.spec.storageType stored)) :
    Store.HoldsStorage
      (s.insert (resourcePlace .backupStorage u.space u.name) (u.apply current).toJson)
      (resourcePlace .backupStorage u.space u.name) (u.apply current).spec
      (u.applyCredentials (.ofSecret current.spec.storageType stored)) where
  storage := by rw [SortedMap.get?_insert_self, Option.bind_some, Resource.specIn?_toJson]
  secret := by
    refine ⟨j, data, ?_, hdata, hcredentials⟩
    have hne : secretPlace u.space current.spec.credentialsSecretName ≠
        resourcePlace .backupStorage u.space u.name := nofun
    exact (SortedMap.get?_insert_of_ne s _ hne).trans hsecret

/-- An update that succeeds leaves the updated storage, with the credentials of the update laid over
those that were read. -/
theorem Operation.updateStorage_stored {faults : List Api.Fault} {s : Store} {u : StorageUpdate}
    {current stored : BackupStorage} {data : SecretData} (hs : s.SecretsKept)
    (hcurrent : View.through (serveUnder faults) s (.storage u.space u.name) = .ok current)
    (hdata : View.through (serveUnder faults) s
      (.secret u.space current.spec.credentialsSecretName) = .ok data)
    (h : ((updateStorage u).perform.run (serveUnder faults) s).answer = .ok stored) :
    ((updateStorage u).perform.run (serveUnder faults) s).state.HoldsStorage
      (resourcePlace .backupStorage u.space u.name) (u.apply current).spec
      (u.applyCredentials (.ofSecret current.spec.storageType data)) := by
  obtain ⟨j, hj, hread⟩ := Api.getResource_ok hcurrent
  obtain ⟨secret, hsecret, hholds⟩ := Api.getSecret_ok hdata
  -- The storage that the operation reads is the one that the check has read.
  have hsame {j' : Json} {current' : BackupStorage}
      (hj' : s.get? (resourcePlace .backupStorage u.space u.name) = some j')
      (hread' : Resource.ofJson? .backupStorage j' = some current') : current' = current := by
    rw [hj] at hj'
    obtain rfl := Option.some.inj hj'
    rw [hread] at hread'
    exact (Option.some.inj hread').symm
  have hensures : Program.Ensures (serveUnder faults) (performUpdateStorage u) s (fun _ => True)
      (fun _ t => Store.HoldsStorage t (resourcePlace .backupStorage u.space u.name)
        (u.apply current).spec (u.applyCredentials (.ofSecret current.spec.storageType data)))
      (fun _ _ => True) := by
    refine SecretLink.storage.update_ensures trivial (fun _ => trivial) ?_ ?_
    · intro j' current' hj' hread' hnone
      obtain rfl := hsame hj' hread'
      refine ⟨trivial, fun _ => StorageUpdate.holdsStorage hsecret hholds ?_⟩
      exact (StorageUpdate.applyCredentials_of_none hnone _).symm
    · intro j' current' texts old hj' hread' hsome hold t ht
      obtain rfl := hsame hj' hread'
      obtain rfl := StorageUpdate.eq_of_secretData? hsome
      have hpatched : t.get? (secretPlace u.space current'.spec.credentialsSecretName) = some _ :=
        ht ▸ SortedMap.get?_insert_self _ _ _
      obtain rfl := Option.some.inj (hsecret.symm.trans hold)
      exact ⟨trivial, fun _ => trivial, trivial, fun _ => StorageUpdate.holdsStorage hpatched
        (hholds.patch (hs _ _ rfl hsecret) _) (u.ofSecret_overlay _ data)⟩
  exact hensures.of_ok stored h

/-- A request has made one probe, which was accepted and had complete credentials, and has left a
storage with these fields and with the credentials that were probed. -/
structure Submission.StoresProbed (r : Submission) (p : Policies) (s : Chain.State)
    (call : ProbeCall) (place : Place) (spec : BackupStorageSpec) : Prop where
  probes : ((r.chain p).handle r.context r.op s).probes = [call]
  accepted : r.prober call = .accepted
  complete : call.credentials.accessKey ≠ "" ∧ call.credentials.secretKey ≠ ""
  stored : (r.after p s).store.HoldsStorage place spec call.credentials

theorem Submission.StoresProbed.of_answered {r : Submission} {p : Policies} {s : Chain.State}
    {check : Check Unit} {a : r.op.Result} {call : ProbeCall} {place : Place}
    {spec : BackupStorageSpec} (hpolicy : r.op.policy p = some check)
    (h : ((r.chain p).handle r.context r.op s).answer = .ok a)
    (hprobed : Policy.Probed (View.through (serveUnder r.faults) s.store) r.prober check call)
    (hstored : (r.op.perform.run (serveUnder r.faults) s.store).state.HoldsStorage place spec
      call.credentials) :
    r.StoresProbed p s call place spec := by
  obtain ⟨hcheck, hprobes, -⟩ := Submission.of_answered hpolicy h
  refine ⟨hprobes.trans hprobed.probes, hprobed.accepted, hprobed.complete, ?_⟩
  rw [store_after_of_admitted (.of_check hpolicy hcheck)]
  exact hstored

/-- What was checked and probed is what is stored. A storage whose creation succeeds is stored as it
was probed, with the name of its secret filled in. One whose update succeeds is stored as the update
makes it of the storage that was read, and its secret then holds the credentials of the update laid
over those that were read. -/
theorem probed_is_stored (p : Policies) {r : Submission} {s : Chain.State}
    (hs : s.store.SecretsKept)
    (hok : ∃ a, ((r.chain p).handle r.context r.op s).answer = .ok a) :
    (∀ request : NewStorage, r.op = .createStorage request →
      r.StoresProbed p s ⟨request.storage, request.credentials⟩
        (createdPlace (SecretLink.storage.filled request.storage))
        (SecretLink.storage.filled request.storage).spec) ∧
    (∀ u : StorageUpdate, r.op = .updateStorage u →
      ∃ (current : BackupStorage) (data : SecretData),
        View.through (serveUnder r.faults) s.store (.storage u.space u.name) = .ok current ∧
        View.through (serveUnder r.faults) s.store
          (.secret u.space current.spec.credentialsSecretName) = .ok data ∧
        r.StoresProbed p s
          ⟨u.apply current, u.applyCredentials (.ofSecret current.spec.storageType data)⟩
          (resourcePlace .backupStorage u.space u.name) (u.apply current).spec) := by
  obtain ⟨op, context, prober, faults⟩ := r
  obtain ⟨a, ha⟩ := hok
  constructor
  · rintro request rfl
    obtain ⟨hcheck, -, hanswer⟩ := Submission.of_answered rfl ha
    exact .of_answered rfl ha (Policy.storageCreate_probed hcheck)
      (Operation.createStorage_stored hanswer)
  · rintro u rfl
    obtain ⟨hcheck, -, hanswer⟩ := Submission.of_answered rfl ha
    obtain ⟨current, data, hcurrent, hdata, hprobed⟩ := Policy.storageUpdate_probed hcheck
    exact ⟨current, data, hcurrent, hdata, .of_answered rfl ha hprobed
      (Operation.updateStorage_stored hs hcurrent hdata hanswer)⟩

namespace Sample

/-- A new secret key for the storage, whose access key stays. -/
def rotation : StorageUpdate := { space := "ns", name := "s3", secretKey := some "rotated" }

def rotating : Submission := { op := .updateStorage rotation }

/-- The platform with the storage. -/
def stocked : Chain.State := Policies.default.final platform [{ op := .createStorage storage }]

theorem platform_secretsKept : platform.store.SecretsKept := by
  intro p j hp hj
  have hne : p ≠ createdPlace operator := by
    rintro rfl
    cases hp
  rw [platform, SortedMap.get?_insert_of_ne _ _ hne] at hj
  cases hj

theorem stocked_secretsKept : stocked.store.SecretsKept :=
  secrets_stay_kept _ platform_secretsKept (Policies.store_final_mem_moments _ _ _)

end Sample

theorem probed_is_stored_of_sample :
    let r : Submission := Sample.rotating
    Sample.stocked.store.SecretsKept ∧
      (∃ a, ((r.chain .default).handle r.context r.op Sample.stocked).answer = .ok a) ∧
      ∃ (current : BackupStorage) (data : SecretData),
        r.StoresProbed .default Sample.stocked
          ⟨Sample.rotation.apply current,
            Sample.rotation.applyCredentials (.ofSecret current.spec.storageType data)⟩
          (resourcePlace .backupStorage "ns" "s3") (Sample.rotation.apply current).spec := by
  have hanswer : (((Sample.rotating.chain .default).handle Sample.rotating.context
      (.updateStorage Sample.rotation) Sample.stocked).answer : Except Failure BackupStorage) =
        .ok (SecretLink.storage.filled Sample.storage.storage) := by
    decide +kernel
  have hok : ∃ a, ((Sample.rotating.chain .default).handle Sample.rotating.context
      Sample.rotating.op Sample.stocked).answer = .ok a := ⟨_, hanswer⟩
  obtain ⟨current, data, -, -, hstores⟩ :=
    (probed_is_stored .default Sample.stocked_secretsKept hok).2 Sample.rotation rfl
  exact ⟨Sample.stocked_secretsKept, hok, current, data, hstores⟩

end ClusterAdmission
