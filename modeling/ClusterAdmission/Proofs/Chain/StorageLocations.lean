import ClusterAdmission.Proofs.Chain.Clusters
import ClusterAdmission.Proofs.Operation.WithSecret
import ClusterAdmission.Proofs.Policy.Storages
import ClusterAdmission.Proofs.Resource.MetadataCodec

/-!
# Locations of storages

Two storages of a namespace are at one location only if one of them has no name and the stem that
its name is to be made from is the name of the other (`storage_locations_unique`). What a run keeps
is that storages at one location are known by one name (`Store.LocationsKept`); a check passes over
every storage that is known by the name of its candidate, also where the candidate is created and so
another object. A storage that is created from a stem thus takes a location that is taken
(`storage_location_shared`).
-/

namespace ClusterAdmission

open Api (resourcePlace)

/-- A name is to be made from a stem. -/
def Metadata.HasStem (m : Metadata) (stem : String) : Prop :=
  m.name = none ∧ m.generateName = some stem

/-- Resources of different names that are known by one name are so by a stem. -/
theorem Metadata.hasStem_of_anyName {m m' : Metadata} (h : m.anyName = m'.anyName)
    (hne : m.name.getD "" ≠ m'.name.getD "") :
    m.HasStem (m'.name.getD "") ∨ m'.HasStem (m.name.getD "") := by
  unfold anyName at h
  unfold HasStem
  cases hname : m.name <;> cases hname' : m'.name <;> cases hstem : m.generateName <;>
    cases hstem' : m'.generateName <;> simp_all

/-- There are no storages, whatever else there is. -/
def Store.NoStorages (s : Store) : Prop :=
  ∀ space name, s.get? (resourcePlace .backupStorage space name) = none

/-- Every stored storage can be read and is stored under the name in its metadata, and the storages
of a namespace at one location are known by one name. -/
structure Store.LocationsKept (s : Store) : Prop where
  readable {space name : String} {j : Json} :
    s.get? (resourcePlace .backupStorage space name) = some j →
      ∃ b : BackupStorage, Resource.ofJson? .backupStorage j = some b ∧
        b.metadata.name.getD "" = name
  known {space name name' : String} {b b' : BackupStorage} :
    s.resource? .backupStorage space name = some b →
      s.resource? .backupStorage space name' = some b' → b.spec.location = b'.spec.location →
        b.name = b'.name

variable {p : Policies} {r : Submission} {s t : Store} {e : Effect} {space name : String}

theorem Store.LocationsKept.stored_name (h : s.LocationsKept) {b : BackupStorage}
    (hb : s.resource? .backupStorage space name = some b) : b.metadata.name.getD "" = name := by
  obtain ⟨j, hj, hread⟩ := Option.bind_eq_some_iff.1 hb
  obtain ⟨b', hread', hname⟩ := h.readable hj
  rw [hread] at hread'
  obtain rfl := Option.some.inj hread'
  exact hname

theorem Store.NoStorages.locationsKept (h : s.NoStorages) : s.LocationsKept where
  readable hj := by
    rw [h] at hj
    cases hj
  known hb := by
    rw [Store.resource?, h] at hb
    cases hb

theorem Store.LocationsKept.same (hst : s.SameResources t) (h : s.LocationsKept) :
    t.LocationsKept where
  readable hj := by
    rw [hst _ Api.resourcePlace_ne_secrets] at hj
    exact h.readable hj
  known hb hb' := by
    rw [hst.resource?_eq] at hb hb'
    exact h.known hb hb'

/-! ## What is written -/

theorem SecretLink.location_filled (b : BackupStorage) :
    (storage.filled b).spec.location = b.spec.location := by
  unfold filled
  split <;> rfl

/-- A storage that an operation leaves at a place is the one that it creates, with its secret, or
updates. -/
theorem Operation.written_storage {op : Operation} {old : Option Json} {j : Json}
    (he : op.effect = some e) (hplace : e.place = resourcePlace .backupStorage space name)
    (h : e.leaves old (some j)) :
    ∃ b : BackupStorage, j = b.toJson ∧
      ((∃ new : NewStorage, op = .createStorage new ∧ new.storage.space = space ∧
          new.storage.metadata.name.getD "" = name ∧ b = SecretLink.storage.filled new.storage) ∨
        ∃ (u : StorageUpdate) (current : BackupStorage), op = .updateStorage u ∧ u.space = space ∧
          u.name = name ∧ old.bind (Resource.ofJson? .backupStorage) = some current ∧
          b = u.apply current) := by
  cases op with
  | createStorage new =>
    cases he
    have hspace : (SecretLink.storage.filled new.storage).space = space :=
      congrArg Place.space hplace
    have hname : Store.nameOf (SecretLink.storage.filled new.storage).toJson = name :=
      congrArg Place.name hplace
    rw [SecretLink.space_filled] at hspace
    rw [Resource.nameOf_toJson, SecretLink.metadata_filled] at hname
    exact ⟨_, Option.some.inj h.2, .inl ⟨new, rfl, hspace, hname, rfl⟩⟩
  | updateStorage u =>
    cases he
    obtain ⟨i, current, rfl, hcurrent, hnew⟩ := h
    exact ⟨_, Option.some.inj hnew, .inr ⟨u, current, rfl, congrArg Place.space hplace,
      congrArg Place.name hplace, hcurrent, rfl⟩⟩
  | deleteStorage =>
    cases he
    cases h
  | getCluster | listClusters | listStorages => cases he
  | _ =>
    cases he
    cases congrArg Place.collection hplace

/-- A storage that is stored at the location of a candidate whose location is free is known by the
name of the candidate. -/
theorem Policy.LocationFree.name_eq {faults : List Api.Fault} {candidate other : BackupStorage}
    (h : Policy.LocationFree (View.through (Api.serveUnder faults) s) space candidate)
    (hother : s.resource? .backupStorage space name = some other)
    (hlocation : other.spec.location = candidate.spec.location) : other.name = candidate.name := by
  obtain ⟨existing, hexisting, hfree⟩ := h
  obtain ⟨j, hj, hread⟩ := Option.bind_eq_some_iff.1 hother
  have hlisted : Store.isListed (.resources .backupStorage) (some space)
      (resourcePlace .backupStorage space name) := by
    simp [Store.isListed, resourcePlace, Collection.spaceIn, Collection.isNamespaced,
      Kind.isNamespaced]
  obtain ⟨a, ha, hread'⟩ := Api.listResources_ok hexisting hj hlisted
  rw [hread] at hread'
  obtain rfl := Option.some.inj hread'
  exact hfree _ ha hlocation

/-- A storage that is written by an admitted request is stored under its name, and whatever else has
its location is known by the same name. -/
theorem Submission.Admitted.stores_free (h : r.Admitted p s) (hs : s.LocationsKept)
    (he : r.op.effect = some e) (hst : e.Happens s t)
    (hplace : e.place = resourcePlace .backupStorage space name) {j : Json}
    (hj : t.get? (resourcePlace .backupStorage space name) = some j) :
    ∃ b : BackupStorage, Resource.ofJson? .backupStorage j = some b ∧
      b.metadata.name.getD "" = name ∧
      ∀ (name' : String) (other : BackupStorage),
        s.resource? .backupStorage space name' = some other →
          other.spec.location = b.spec.location → other.name = b.name := by
  have hleaves := hst.leaves
  rw [hplace, hj] at hleaves
  obtain ⟨b, rfl, hwritten⟩ := Operation.written_storage he hplace hleaves
  -- Reading the storage back cuts an instant in its metadata, and no name.
  refine ⟨_, Resource.ofJson?_toJson_unreported (fun _ => rfl) b, ?_⟩
  change b.metadata.name.getD "" = name ∧ ∀ (name' : String) (other : BackupStorage),
    s.resource? .backupStorage space name' = some other →
      other.spec.location = b.spec.location → other.name = b.name
  rcases hwritten with ⟨new, hop, rfl, rfl, rfl⟩ | ⟨u, current, hop, rfl, rfl, hcurrent, rfl⟩
  · have hfree := Policy.storageCreate_ok (h _ (by rw [hop]; rfl))
    rw [SecretLink.metadata_filled]
    refine ⟨rfl, fun name' other hother hlocation => ?_⟩
    rw [SecretLink.name_filled]
    exact hfree.name_eq hother (hlocation.trans (SecretLink.location_filled new.storage))
  · obtain ⟨current', hread, hfree, -⟩ := Policy.storageUpdate_ok (h _ (by rw [hop]; rfl))
    have hstored : s.resource? .backupStorage u.space u.name = some current' :=
      Store.resource?_of_getResource hread
    have hsame : some current' = some current := hstored.symm.trans hcurrent
    obtain rfl := Option.some.inj hsame
    have hname : current'.metadata.name.getD "" = u.name := hs.stored_name hstored
    exact ⟨hname, fun _ _ => hfree.name_eq⟩

/-! ## Runs -/

/-- Whether storages at one location are known by one name is kept. -/
theorem Policies.keeps_locations (p : Policies) : p.Keeps Store.LocationsKept where
  same := Store.LocationsKept.same
  effect {r s t e} hadmitted he hst hs := by
    have hwritten {space name : String} {b : BackupStorage}
        (hplace : resourcePlace .backupStorage space name = e.place)
        (hb : t.resource? .backupStorage space name = some b) {name' : String}
        {other : BackupStorage} (hother : s.resource? .backupStorage space name' = some other)
        (hlocation : other.spec.location = b.spec.location) : other.name = b.name := by
      obtain ⟨j, hj, hread⟩ := Option.bind_eq_some_iff.1 hb
      obtain ⟨b', hread', -, hfree⟩ := hadmitted.stores_free hs he hst hplace.symm hj
      rw [hread] at hread'
      obtain rfl := Option.some.inj hread'
      exact hfree name' other hother hlocation
    refine ⟨fun {space name j} hj => ?_, fun {space name name' b b'} hb hb' hlocation => ?_⟩
    · by_cases hplace : resourcePlace .backupStorage space name = e.place
      · obtain ⟨b, hread, hname, -⟩ := hadmitted.stores_free hs he hst hplace.symm hj
        exact ⟨b, hread, hname⟩
      · rw [hst.others _ Api.resourcePlace_ne_secrets hplace] at hj
        exact hs.readable hj
    · -- Only one of two storages is written.
      by_cases hplace : resourcePlace .backupStorage space name = e.place <;>
        by_cases hplace' : resourcePlace .backupStorage space name' = e.place
      · obtain rfl : name = name' := congrArg Place.name (hplace.trans hplace'.symm)
        rw [hb] at hb'
        rw [Option.some.inj hb']
      · rw [hst.resource?_of_ne hplace'] at hb'
        exact (hwritten hplace hb hb' hlocation.symm).symm
      · rw [hst.resource?_of_ne hplace] at hb
        exact hwritten hplace' hb' hb hlocation
      · rw [hst.resource?_of_ne hplace] at hb
        rw [hst.resource?_of_ne hplace'] at hb'
        exact hs.known hb hb' hlocation

/-- At every moment of every run that starts without storages, two stored storages of a namespace
can be read and have different locations, unless one of them has no name and the name of the other
as its stem. -/
theorem storage_locations_unique (p : Policies) {s : Chain.State} {rs : List Submission}
    (hs : s.store.NoStorages) (ht : t ∈ p.moments s rs) {name' : String} (hne : name ≠ name')
    {j j' : Json} (hj : t.get? (resourcePlace .backupStorage space name) = some j)
    (hj' : t.get? (resourcePlace .backupStorage space name') = some j') :
    ∃ b b' : BackupStorage, Resource.ofJson? .backupStorage j = some b ∧
      Resource.ofJson? .backupStorage j' = some b' ∧
      (¬ b.metadata.HasStem name' → ¬ b'.metadata.HasStem name →
        b.spec.location ≠ b'.spec.location) := by
  have hkept : t.LocationsKept := p.keeps_locations.of_mem_moments hs.locationsKept ht
  obtain ⟨b, hread, rfl⟩ := hkept.readable hj
  obtain ⟨b', hread', rfl⟩ := hkept.readable hj'
  refine ⟨b, b', hread, hread', fun hstem hstem' hlocation => ?_⟩
  have hknown : b.metadata.anyName = b'.metadata.anyName := by
    refine hkept.known (Store.resource?_of_get? hj hread) (Store.resource?_of_get? hj' hread') ?_
    exact hlocation
  exact (Metadata.hasStem_of_anyName hknown hne).elim hstem hstem'

namespace Sample

/-- A platform on which there is nothing. -/
def bare : Chain.State where
  store := SortedMap.empty

theorem bare_noStorages : bare.store.NoStorages := fun _ _ => rfl

/-- The creation of a storage at a bucket. -/
def storing (metadata : Metadata) (bucket credentialsSecretName : String) : Submission where
  op := .createStorage
    { storage :=
        { metadata
          spec := { storageType := .s3, bucket, region := "eu", credentialsSecretName } }
      credentials := { accessKey := "user", secretKey := "key" } }

/-- Two storages, one of which is then to move to the location of the other. -/
def moveOnto : List Submission :=
  [storing (named "s3") "backups" "s3", storing (named "cold") "archive" "cold",
    { op := .updateStorage { space := "ns", name := "cold", bucket := some "backups" } }]

end Sample

theorem storage_locations_unique_of_sample :
    let t := (Policies.default.final Sample.bare Sample.moveOnto).store
    Sample.bare.store.NoStorages ∧ t ∈ Policies.default.moments Sample.bare Sample.moveOnto ∧
      "s3" ≠ "cold" ∧
      ∃ j j', t.get? (resourcePlace .backupStorage "ns" "s3") = some j ∧
        t.get? (resourcePlace .backupStorage "ns" "cold") = some j' ∧
        ∃ b b' : BackupStorage, Resource.ofJson? .backupStorage j = some b ∧
          Resource.ofJson? .backupStorage j' = some b' ∧
          (¬ b.metadata.HasStem "cold" → ¬ b'.metadata.HasStem "s3" →
            b.spec.location ≠ b'.spec.location) := by
  intro t
  have ht : t ∈ Policies.default.moments Sample.bare Sample.moveOnto :=
    Policies.store_final_mem_moments _ _ _
  have hne : "s3" ≠ "cold" := by decide
  have hthere : ∀ name ∈ ["s3", "cold"],
      (t.get? (resourcePlace .backupStorage "ns" name)).isSome := by
    decide +kernel
  obtain ⟨j, hj⟩ := Option.isSome_iff_exists.1 (hthere "s3" (by simp))
  obtain ⟨j', hj'⟩ := Option.isSome_iff_exists.1 (hthere "cold" (by simp))
  exact ⟨Sample.bare_noStorages, ht, hne, j, j', hj, hj',
    storage_locations_unique _ Sample.bare_noStorages ht hne hj hj'⟩

/-- A storage whose name is to be made from that of another one is created at its location. -/
theorem storage_location_shared :
    let stem : Metadata := { generateName := some "s3", space := some "ns" }
    let requests : List Submission :=
      [Sample.storing (Sample.named "s3") "backups" "s3", Sample.storing stem "backups" "other"]
    let t := (Policies.default.final Sample.bare requests).store
    let location (name : String) : Option StorageLocation :=
      (t.spec? .backupStorage "ns" name).map BackupStorageSpec.location
    t ∈ Policies.default.moments Sample.bare requests ∧
      location "s3" = some { region := "eu", bucket := "backups", endpointUrl := "" } ∧
      location "" = location "s3" := by
  intro stem requests t location
  exact ⟨Policies.store_final_mem_moments _ _ _, by decide +kernel, by decide +kernel⟩

end ClusterAdmission
