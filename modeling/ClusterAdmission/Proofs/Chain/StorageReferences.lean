import ClusterAdmission.Proofs.Chain.Clusters
import ClusterAdmission.Proofs.Policy.References
import ClusterAdmission.Proofs.Policy.Storages

/-!
# References to storages

Every storage that a stored cluster works with is there, at every moment of a run
(`storages_of_clusters`). A cluster is written only after its storages have been read, an update of
a storage keeps its provider, and a storage goes only when no cluster of the namespace refers to it;
to refer to a storage is a weaker thing than to work with it (`Policy.mem_referencedStorages`).
-/

namespace ClusterAdmission

open Api (resourcePlace)

/-- The storages that a cluster of a namespace works with are there, and the recovery of a MySQL
cluster writes to S3. -/
def Store.HasStorages (s : Store) (space : String) (c : ClusterSpec) : Prop :=
  ∀ name, c.Needs name → ∃ b : BackupStorageSpec, s.spec? .backupStorage space name = some b ∧
    (c.engine.engine = .pxc → c.backup.pitr.enabled →
      c.backup.pitr.backupStorageName = some name → b.storageType = .s3)

variable {r : Submission} {p : Policies} {s t : Store} {e : Effect} {space : String}
  {c : ClusterSpec}

/-- A storage is deleted, or it stays as it is but for an update of its own. -/
theorem Operation.storage_stays {op : Operation} (he : op.effect = some e) (hst : e.Happens s t)
    {name : String} {b : BackupStorageSpec} (hb : s.spec? .backupStorage space name = some b) :
    op = .deleteStorage space name ∨
      ∃ b' : BackupStorageSpec, t.spec? .backupStorage space name = some b' ∧
        (b' = b ∨ ∃ u : StorageUpdate, op = .updateStorage u ∧ u.space = space ∧ u.name = name ∧
          b' = u.applySpec b) := by
  by_cases hplace : resourcePlace .backupStorage space name = e.place
  · cases op with
    | createStorage request =>
      -- A storage is created at a free place only.
      cases he
      rw [hst.spec?_create hplace] at hb
      cases hb
    | updateStorage update =>
      cases he
      obtain rfl : space = update.space := congrArg Place.space hplace
      obtain rfl : name = update.name := congrArg Place.name hplace
      obtain ⟨current, hcurrent, hnew⟩ := hst.spec?_update
      rw [hb] at hcurrent
      obtain rfl := Option.some.inj hcurrent
      exact .inr ⟨_, hnew, .inr ⟨update, rfl, rfl, rfl, rfl⟩⟩
    | deleteStorage space' name' =>
      cases he
      obtain rfl : space = space' := congrArg Place.space hplace
      obtain rfl : name = name' := congrArg Place.name hplace
      exact .inl rfl
    | getCluster | listClusters | listStorages => cases he
    | _ =>
      cases he
      cases congrArg Place.collection hplace
  · rw [← hst.spec?_of_ne hplace] at hb
    exact .inr ⟨b, hb, .inl rfl⟩

/-- As long as no storage that a cluster works with is deleted, the cluster has its storages. -/
theorem Store.HasStorages.step {op : Operation} (he : op.effect = some e) (hst : e.Happens s t)
    (hs : s.HasStorages space c)
    (hdelete : ∀ name, op = .deleteStorage space name → ¬ c.Needs name) :
    t.HasStorages space c := by
  intro name hname
  obtain ⟨b, hb, hs3⟩ := hs name hname
  rcases Operation.storage_stays he hst hb with hop | ⟨b', hb', hsame⟩
  · exact absurd hname (hdelete name hop)
  · -- An update of a storage keeps its provider.
    have htype : b'.storageType = b.storageType := by
      rcases hsame with rfl | ⟨_, -, -, -, rfl⟩ <;> rfl
    refine ⟨b', hb', fun hengine henabled hpitr => ?_⟩
    rw [htype]
    exact hs3 hengine henabled hpitr

/-- A storage that no cluster refers to, as a check is shown, is one that none refers to. -/
theorem Policy.StorageUnused.not_mem {faults : List Api.Fault} {name name' : String} {j : Json}
    (h : Policy.StorageUnused (View.through (Api.serveUnder faults) s) space name)
    (hj : s.get? (resourcePlace .databaseCluster space name') = some j)
    (hc : Resource.specIn? .databaseCluster j = some c) : name ∉ c.referencedStorages := by
  obtain ⟨clusters, hclusters, hunused⟩ := h
  obtain ⟨cluster, hcluster, rfl⟩ := Store.mem_of_listResources hclusters
    (fun _ h => (Option.some.inj h).symm) hj hc
  exact hunused cluster hcluster

/-- A storage that is deleted has been shown to be unused. -/
theorem Submission.Admitted.storageUnused (h : r.Admitted p s) {name : String}
    (hop : r.op = .deleteStorage space name) :
    Policy.StorageUnused (View.through (Api.serveUnder r.faults) s) space name :=
  Policy.storageDelete_ok (h _ (by rw [hop]; rfl))

/-- A cluster that is written has its storages. -/
theorem Policy.ClusterPasses.hasStorages {faults : List Api.Fault} {prober : Prober}
    {cluster : DatabaseCluster}
    (h : Policy.ClusterPasses p (View.through (Api.serveUnder faults) s) prober cluster) :
    s.HasStorages cluster.space cluster.spec := by
  intro name hname
  obtain ⟨b, hb, hs3⟩ := h.storage hname
  refine ⟨b.spec, Store.spec?_of_getResource hb.1, fun hengine henabled hpitr => hs3 ?_⟩
  rw [Policy.recoveryStorage, if_pos ⟨henabled, hengine⟩, hpitr]

/-- Whether clusters have their storages is kept. -/
theorem Policies.keeps_hasStorages (p : Policies) :
    p.Keeps fun s => s.EachCluster s.HasStorages where
  same {s t} hsame hs := hs.same hsame fun space c h name hname => by
    rw [hsame.spec?_eq]
    exact h name hname
  effect {r s t e} hadmitted he hst hs := by
    refine hs.step he hst ?_ ?_
    · intro space name j c hj hc h
      exact h.step he hst fun _ hop hneeds =>
        (hadmitted.storageUnused hop).not_mem hj hc (Policy.mem_referencedStorages hneeds)
    · intro cluster hop
      refine (hadmitted.clusterPasses hop).hasStorages.step he hst fun name hdelete => ?_
      -- A request that writes a cluster deletes no storage.
      rw [hdelete] at hop
      rcases hop with hop | hop <;> cases hop

/-- At every moment of every run that starts without clusters, every stored cluster has the storages
that it works with. -/
theorem storages_of_clusters (p : Policies) {s : Chain.State} {rs : List Submission} {t : Store}
    (hs : s.store.NoClusters) (ht : t ∈ p.moments s rs) : t.EachCluster t.HasStorages :=
  p.keeps_hasStorages.of_mem_moments hs.eachCluster ht

theorem storages_of_clusters_of_sample :
    let t := (Policies.default.final Sample.platform (Sample.setUp "pmm")).store
    Sample.platform.store.NoClusters ∧
      t ∈ Policies.default.moments Sample.platform (Sample.setUp "pmm") ∧
      t.spec? .databaseCluster "ns" "orders" = some (Sample.cluster "pmm").spec ∧
      t.EachCluster t.HasStorages :=
  ⟨Sample.platform_noClusters, Sample.final_mem_moments, Sample.cluster_stored,
    storages_of_clusters _ Sample.platform_noClusters Sample.final_mem_moments⟩

end ClusterAdmission
