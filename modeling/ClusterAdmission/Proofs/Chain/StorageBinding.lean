import ClusterAdmission.Proofs.Chain.StorageReferences

/-!
# Storages in use

A storage keeps its place while it is in use: as long as at every moment some cluster of its
namespace refers to it, it is not deleted, and its provider, bucket and region stay
(`storage_in_use_stays`). The clusters may come and go on the way, since every check lists them anew
(`Policies.Follows.storage_in_use`).
-/

namespace ClusterAdmission

open Api (resourcePlace)

/-- Some cluster of a namespace refers to a storage. -/
def Store.Uses (s : Store) (space storage : String) : Prop :=
  ∃ name c, s.spec? .databaseCluster space name = some c ∧ storage ∈ c.referencedStorages

/-- Two storages are of one provider, with the same bucket and region. -/
structure BackupStorageSpec.SameBucket (b b' : BackupStorageSpec) : Prop where
  storageType : b'.storageType = b.storageType
  bucket : b'.bucket = b.bucket
  region : b'.region = b.region

namespace BackupStorageSpec.SameBucket

variable {a b c : BackupStorageSpec}

theorem refl (b : BackupStorageSpec) : b.SameBucket b := ⟨rfl, rfl, rfl⟩

theorem trans (hab : a.SameBucket b) (hbc : b.SameBucket c) : a.SameBucket c :=
  ⟨hbc.storageType.trans hab.storageType, hbc.bucket.trans hab.bucket,
    hbc.region.trans hab.region⟩

end BackupStorageSpec.SameBucket

variable {p : Policies} {s u v : Store} {space name : String} {b : BackupStorageSpec}

/-- A storage in use is not shown to be unused. -/
theorem Store.Uses.not_unused {faults : List Api.Fault} (h : s.Uses space name) :
    ¬ Policy.StorageUnused (View.through (Api.serveUnder faults) s) space name := by
  intro hunused
  obtain ⟨cluster, c, hc, hname⟩ := h
  obtain ⟨j, hj, hread⟩ := Option.bind_eq_some_iff.1 hc
  exact hunused.not_mem hj hread hname

/-- From one moment to the next a storage in use stays in its place. -/
theorem Policies.Follows.storage_in_use (h : p.Follows u v) (huse : u.Uses space name)
    (hb : u.spec? .backupStorage space name = some b) :
    ∃ b', v.spec? .backupStorage space name = some b' ∧ b.SameBucket b' := by
  rcases h with hsame | ⟨r, s, e, hadmitted, hsu, he, hhappens⟩
  · exact ⟨b, (hsame.spec?_eq ..).trans hb, .refl b⟩
  · have huse : s.Uses space name := by
      obtain ⟨cluster, c, hc, hname⟩ := huse
      exact ⟨cluster, c, (hsu.symm.spec?_eq ..).trans hc, hname⟩
    have hbefore : s.spec? .backupStorage space name = some b := (hsu.symm.spec?_eq ..).trans hb
    rcases Operation.storage_stays he hhappens hbefore with
      hdelete | ⟨b', hb', rfl | ⟨update, hop, rfl, rfl, rfl⟩⟩
    · exact absurd (hadmitted.storageUnused hdelete) huse.not_unused
    · exact ⟨b', hb', .refl b'⟩
    · -- The check has read the storage that the operation updates.
      obtain ⟨current, hcurrent, -, hkept⟩ :=
        Policy.storageUpdate_ok (hadmitted _ (by rw [hop]; rfl))
      rw [Store.spec?_of_getResource hcurrent] at hbefore
      obtain rfl := Option.some.inj hbefore
      obtain ⟨hbucket, hregion⟩ := hkept.resolve_right huse.not_unused
      exact ⟨_, hb', rfl, hbucket, hregion⟩

/-- A storage in use keeps its place. Throughout any stretch of a run in which at every moment some
cluster of its namespace refers to it, a storage that is there at the start stays, with its
provider, bucket and region. -/
theorem storage_in_use_stays (p : Policies) {s : Chain.State} {rs : List Submission}
    {stretch : List Store} (hstretch : u :: stretch <:+: p.moments s rs)
    (huse : ∀ t ∈ u :: stretch, t.Uses space name)
    (hb : u.spec? .backupStorage space name = some b) :
    ∀ t ∈ stretch, ∃ b', t.spec? .backupStorage space name = some b' ∧ b.SameBucket b' := by
  have hfollows : (u :: stretch).IsChain p.Follows := Policies.follows_of_infix hstretch
  clear hstretch
  induction stretch generalizing u b with
  | nil => exact fun t ht => absurd ht List.not_mem_nil
  | cons v rest ih =>
    obtain ⟨huv, hrest⟩ := List.isChain_cons_cons.1 hfollows
    obtain ⟨hu, huse⟩ := List.forall_mem_cons.1 huse
    obtain ⟨b', hb', hbb'⟩ := huv.storage_in_use hu hb
    refine List.forall_mem_cons.2 ⟨⟨b', hb', hbb'⟩, fun t ht => ?_⟩
    obtain ⟨c, hc, hb'c⟩ := ih huse hb' hrest t ht
    exact ⟨c, hc, hbb'.trans hb'c⟩

namespace Sample

/-- A cluster that refers to storages for its recovery and as its source only. -/
def referring (name : String) (recovery source : Option String) : DatabaseCluster where
  metadata := named name
  spec :=
    { engine :=
        { engine := .pxc, replicas := 3, storage := { size := "10G" }
          resources := { cpu := some "1", memory := some "2G" } }
      backup := { pitr := { backupStorageName := recovery } }
      dataSource := source.map fun storage =>
        { backupSource := some { backupStorageName := storage, path := "/daily" } } }

/-- A cluster names the storage for its recovery, which is switched off, and a second one is
restored from there and takes over. Meanwhile the storage is described, its bucket is to be changed,
and it is to be deleted. -/
def takeOver : List Submission :=
  [{ op := .createStorage storage },
    { op := .createCluster (referring "orders" (some "s3") none) },
    { op := .updateStorage { space := "ns", name := "s3", description := some "daily" } },
    { op := .createCluster (referring "restored" none (some "s3")) },
    { op := .deleteCluster "ns" "orders" },
    { op := .updateStorage { space := "ns", name := "s3", bucket := some "archive" } },
    { op := .deleteStorage "ns" "s3" }]

/-- The moments from the one on at which the first cluster is there. -/
def inUse : List Store := (Policies.default.moments platform takeOver).drop 6

/-- The storage as it is created. -/
def bound : BackupStorageSpec := (SecretLink.storage.filled storage.storage).spec

/-- The clusters that refer to the storage, and what the storage asks for. -/
def users (t : Store) : List String × Option BackupStorageSpec :=
  (["orders", "restored"].filter fun name =>
      (t.spec? .databaseCluster "ns" name).any (·.referencedStorages.contains "s3"),
    t.spec? .backupStorage "ns" "s3")

theorem inUse_users :
    let described : BackupStorageSpec := { bound with description := some "daily" }
    inUse.map users =
      (["orders"], some bound) :: List.replicate 5 (["orders"], some bound) ++
        List.replicate 4 (["orders"], some described) ++
        List.replicate 2 (["orders", "restored"], some described) ++
        List.replicate 8 (["restored"], some described) := by
  decide +kernel

theorem uses_of_users {t : Store} (h : (users t).1 ≠ []) : t.Uses "ns" "s3" := by
  obtain ⟨name, hname⟩ := List.exists_mem_of_ne_nil _ h
  obtain ⟨c, hc, hs3⟩ := (Option.any_eq_true ..).1 (List.mem_filter.1 hname).2
  exact ⟨name, c, hc, List.contains_iff_mem.1 hs3⟩

theorem inUse_uses : ∀ t ∈ inUse, t.Uses "ns" "s3" := by
  have hall : ∀ seen ∈ inUse.map users, seen.1 ≠ [] := by
    rw [inUse_users]
    decide
  exact fun t ht => uses_of_users (hall _ (List.mem_map_of_mem ht))

end Sample

theorem storage_in_use_stays_of_sample :
    ∃ u stretch, Sample.inUse = u :: stretch ∧ stretch.length = 19 ∧
      u :: stretch <:+: Policies.default.moments Sample.platform Sample.takeOver ∧
      (∀ t ∈ u :: stretch, t.Uses "ns" "s3") ∧
      u.spec? .backupStorage "ns" "s3" = some Sample.bound ∧
      ∀ t ∈ stretch, ∃ b', t.spec? .backupStorage "ns" "s3" = some b' ∧
        Sample.bound.SameBucket b' := by
  have hinfix : Sample.inUse <:+: Policies.default.moments Sample.platform Sample.takeOver :=
    (List.drop_suffix 6 _).isInfix
  have huse := Sample.inUse_uses
  obtain ⟨u, stretch, hmoments, hstart, hrest⟩ := List.map_eq_cons_iff.1 Sample.inUse_users
  have hlength : stretch.length = 19 := by
    rw [← List.length_map Sample.users, hrest]
    rfl
  rw [hmoments] at hinfix huse
  have hbound : u.spec? .backupStorage "ns" "s3" = some Sample.bound := congrArg Prod.snd hstart
  exact ⟨u, stretch, hmoments, hlength, hinfix, huse, hbound,
    storage_in_use_stays _ hinfix huse hbound⟩

end ClusterAdmission
