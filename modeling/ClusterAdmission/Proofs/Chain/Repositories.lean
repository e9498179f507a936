import ClusterAdmission.Policy.Backup
import ClusterAdmission.Proofs.Chain.Clusters
import ClusterAdmission.Proofs.Policy.Objects
import Mathlib.Data.Set.Card

/-!
# Repositories of PostgreSQL clusters

A PostgreSQL cluster never has more schedules, nor storages with backups, than there can be
repositories (`repositories_of_clusters`). The schedules come with the cluster and the backups one
by one, and they stay when the cluster goes or changes its engine. So the storages are counted from
both whenever either of the two is written (`Store.WithinBudget.of_fit`), and nothing else adds to
them (`Store.repositories_step`).
-/

namespace ClusterAdmission

open Api (resourcePlace createdPlace)

namespace Store

/-- The storages of the repositories of a cluster: those of its schedules, and those of the backups
of its namespace that name it. No backup names a cluster that has no name of its own. -/
def repositories (s : Store) (space name : String) (c : ClusterSpec) : Set String :=
  {storage | storage ≠ "" ∧ (storage ∈ c.scheduleStorages ∨
    name ≠ "" ∧ ∃ id b, s.spec? .databaseClusterBackup space id = some b ∧
      b.dbClusterName = name ∧ b.backupStorageName = storage)}

/-- A cluster does not need more repositories than there can be. -/
structure WithinBudget (s : Store) (max : Nat) (space name : String) (c : ClusterSpec) : Prop where
  schedules : c.backup.schedules.length ≤ max
  storages : (s.repositories space name c).encard ≤ max

/-- Every stored cluster can be read, and those of PostgreSQL are within the budget. -/
def KeepsBudget (s : Store) (max : Nat) : Prop :=
  ∀ space name j, s.get? (resourcePlace .databaseCluster space name) = some j →
    ∃ c, Resource.specIn? .databaseCluster j = some c ∧
      (c.engine.engine = .postgresql → s.WithinBudget max space name c)

end Store

variable {p : Policies} {s t : Store} {e : Effect} {space name : String} {c : ClusterSpec}

/-! ## What the checks count -/

/-- What is read of the backups of a cluster are all the stored ones that name it. -/
theorem Store.mem_of_backups {faults : List Api.Fault} {backups : List DatabaseClusterBackup}
    {id : String} {b : BackupRequest}
    (h : View.through (Api.serveUnder faults) s (.backups space b.dbClusterName) = .ok backups)
    (hb : s.spec? .databaseClusterBackup space id = some b) : ∃ r ∈ backups, r.spec = b := by
  obtain ⟨j, hj, hspec⟩ := Option.bind_eq_some_iff.1 hb
  simp only [View.through, Read.fetch, Api.Program.run_bind] at h
  cases hall : ((Api.listResources .databaseClusterBackup (some space)).run
      (Api.serveUnder faults) s).answer with
  | error f =>
    rw [hall] at h
    cases h
  | ok all =>
    rw [hall] at h
    obtain rfl := Except.ok.inj h
    obtain ⟨r, hr, hspec⟩ := Store.mem_of_listResources hall
      (fun _ h => (Option.some.inj h).symm) hj hspec
    exact ⟨r, List.mem_filter.2 ⟨hr, by simp [hspec]⟩, hspec⟩

/-- A backup of a PostgreSQL cluster fits with the others and the schedules. -/
theorem Policy.backupCreate_ok {view : View} {prober : Prober} {b : DatabaseClusterBackup}
    (h : (backupCreate p b).run view prober = .ok ()) :
    ∃ c : DatabaseCluster, view (.cluster b.space b.spec.dbClusterName) = .ok c ∧
      (c.spec.engine.engine = .postgresql →
        RepositoriesFit view p.config.pgMaxRepositories b.space b.spec.dbClusterName
          c.spec.backup.schedules (some b.spec.backupStorageName)) := by
  simp only [backupCreate, Check.run_bind_eq_ok] at h
  obtain ⟨_, -, c, hc, _, -, hengine⟩ := h
  refine ⟨c, Check.run_getReferenced_eq_ok.1 hc, fun hpostgresql => ?_⟩
  rw [hpostgresql] at hengine
  exact (repositoryBudget_decides _ _ _).ok_iff.1 ⟨(), hengine⟩

/-- Where the schedules, the stored backups and one in flight fit, a cluster is within the budget as
long as nothing else has been added. -/
theorem Store.WithinBudget.of_fit {faults : List Api.Fault} {max : Nat} {owner : String}
    {inFlight : Option String}
    (h : Policy.RepositoriesFit (View.through (Api.serveUnder faults) s) max space owner
      c.backup.schedules inFlight)
    (howner : name ≠ "" → owner = name)
    (hadded : t.repositories space name c ⊆
      s.repositories space name c ∪ {storage | storage ≠ "" ∧ inFlight = some storage}) :
    t.WithinBudget max space name c := by
  obtain ⟨backups, hbackups, hlength, hcard⟩ := h
  refine ⟨hlength, le_trans (Set.encard_le_encard fun storage hstorage => ?_)
    (le_of_eq_of_le (Set.encard_coe_eq_coe_finsetCard _) (Nat.cast_le.2 hcard))⟩
  -- Whatever is used has been counted.
  simp only [List.coe_toFinset, List.mem_filter, List.mem_append, Option.mem_toList,
    decide_eq_true_eq, Set.mem_ofPred_eq]
  rcases hadded hstorage with ⟨hne, hschedule | ⟨hname, id, b, hb, rfl, rfl⟩⟩ | ⟨hne, hflight⟩
  · exact ⟨.inl hschedule, hne⟩
  · rw [howner hname] at hbackups
    obtain ⟨r, hr, rfl⟩ := Store.mem_of_backups hbackups hb
    exact ⟨.inr (.inl (List.mem_map_of_mem hr)), hne⟩
  · exact ⟨.inr (.inr hflight), hne⟩

/-! ## Steps -/

theorem Store.SameResources.repositories_eq (h : s.SameResources t) :
    t.repositories space name c = s.repositories space name c := by
  simp only [Store.repositories, h.spec?_eq]

/-- Only a backup that names the cluster adds to its storages. -/
theorem Store.repositories_step {op : Operation} (he : op.effect = some e) (hst : e.Happens s t) :
    t.repositories space name c ⊆ s.repositories space name c ∪
      {storage | storage ≠ "" ∧ name ≠ "" ∧ ∃ b : DatabaseClusterBackup, op = .createBackup b ∧
        b.space = space ∧ b.spec.dbClusterName = name ∧ b.spec.backupStorageName = storage} := by
  rintro storage ⟨hne, hschedule | ⟨hname, id, b, hb, howner, hstorage⟩⟩
  · exact .inl ⟨hne, .inl hschedule⟩
  by_cases hplace : resourcePlace .databaseClusterBackup space id = e.place
  · cases op with
    | createBackup new =>
      cases he
      rw [hst.spec?_created hplace] at hb
      obtain rfl := Option.some.inj hb
      exact .inr ⟨hne, hname, new, rfl, (congrArg Place.space hplace).symm, howner, hstorage⟩
    | getCluster | listClusters | listStorages => cases he
    | _ =>
      cases he
      cases congrArg Place.collection hplace
  · rw [hst.spec?_of_ne hplace] at hb
    exact .inl ⟨hne, .inr ⟨hname, id, b, hb, howner, hstorage⟩⟩

/-- Whether clusters are within the budget is kept. -/
theorem Policies.keeps_budget (p : Policies) :
    p.Keeps fun s => s.KeepsBudget p.config.pgMaxRepositories where
  same {s t} hsame hs := by
    intro space name j hj
    rw [hsame _ Api.resourcePlace_ne_secrets] at hj
    obtain ⟨c, hc, hbudget⟩ := hs space name j hj
    refine ⟨c, hc, fun hengine => ⟨(hbudget hengine).schedules, ?_⟩⟩
    rw [hsame.repositories_eq]
    exact (hbudget hengine).storages
  effect {r s t e} hadmitted he hst hs := by
    intro space name j hj
    by_cases hplace : resourcePlace .databaseCluster space name = e.place
    · -- The cluster has just been written, and no backup with it.
      have hleaves := hst.leaves
      rw [← hplace, hj] at hleaves
      obtain ⟨c, hop, rfl, hname, rfl⟩ := Operation.written_cluster he hplace.symm hleaves
      refine ⟨c.spec, Resource.specIn?_toJson c, fun hengine => ?_⟩
      have hfit := (Policy.repositoryBudget_decides _ _ _).ok_iff.1
        ⟨(), (hadmitted.clusterPasses hop).budget hengine⟩
      refine .of_fit hfit hname ?_
      refine (Store.repositories_step he hst).trans (Set.union_subset_union_right _ ?_)
      rintro storage ⟨-, -, b, hbackup, -⟩
      rw [hbackup] at hop
      rcases hop with hop | hop <;> cases hop
    · rw [hst.others _ Api.resourcePlace_ne_secrets hplace] at hj
      obtain ⟨c, hc, hbudget⟩ := hs space name j hj
      refine ⟨c, hc, fun hengine => ?_⟩
      by_cases hbackup : ∃ b : DatabaseClusterBackup, r.op = .createBackup b ∧ b.space = space ∧
          b.spec.dbClusterName = name
      · obtain ⟨b, hop, rfl, rfl⟩ := hbackup
        have hcheck := hadmitted (Policy.backupCreate p b) (by rw [hop]; rfl)
        obtain ⟨cluster, hcluster, hfits⟩ := Policy.backupCreate_ok hcheck
        -- The cluster that the check has read is the one that is stored.
        have hread := Store.spec?_of_getResource hcluster
        rw [Store.spec?, hj, Option.bind_some, hc] at hread
        obtain rfl := Option.some.inj hread
        refine .of_fit (hfits hengine) (fun _ => rfl) ?_
        refine (Store.repositories_step he hst).trans (Set.union_subset_union_right _ ?_)
        rintro storage ⟨hne, -, b', hop', -, -, rfl⟩
        rw [hop] at hop'
        cases hop'
        exact ⟨hne, rfl⟩
      · refine ⟨(hbudget hengine).schedules, le_trans (Set.encard_le_encard ?_)
          (hbudget hengine).storages⟩
        intro storage hstorage
        rcases Store.repositories_step he hst hstorage with hold | ⟨-, -, b, hop, hspace, hname, -⟩
        · exact hold
        · exact absurd ⟨b, hop, hspace, hname⟩ hbackup

/-- At every moment of every run that starts without clusters, whatever backups there are, every
stored PostgreSQL cluster is within the budget. -/
theorem repositories_of_clusters (p : Policies) {s : Chain.State} {rs : List Submission} {t : Store}
    (hs : s.store.NoClusters) (ht : t ∈ p.moments s rs) :
    t.KeepsBudget p.config.pgMaxRepositories := by
  refine p.keeps_budget.of_mem_moments (fun space name j hj => ?_) ht
  rw [hs space name] at hj
  cases hj

namespace Sample

/-- A platform with nothing but the operator of PostgreSQL. -/
def postgresPlatform : Chain.State where
  store :=
    let engine : DatabaseEngine :=
      { operator with
        metadata := named EngineType.postgresql.operatorName, spec := { engine := .postgresql } }
    SortedMap.empty.insert (createdPlace engine) engine.toJson

/-- A PostgreSQL cluster that is backed up daily. -/
def ledger : DatabaseCluster where
  metadata := named "ledger"
  spec :=
    { engine :=
        { engine := .postgresql, replicas := 2, storage := { size := "10G" }
          resources := { cpu := some "1", memory := some "2G" } }
      backup :=
        { enabled := true
          schedules := [{ name := "daily", enabled := true, schedule := "0 0 * * *",
                          backupStorageName := "s3" }] } }

/-- The requests that create the cluster and back it up once more. -/
def backUp : List Submission :=
  [{ op := .createStorage storage }, { op := .createCluster ledger },
    { op := .createBackup
        { metadata := named "extra"
          spec := { dbClusterName := "ledger", backupStorageName := "s3" } } }]

end Sample

theorem repositories_of_clusters_of_sample :
    let t := (Policies.default.final Sample.postgresPlatform Sample.backUp).store
    Sample.postgresPlatform.store.NoClusters ∧
      t ∈ Policies.default.moments Sample.postgresPlatform Sample.backUp ∧
      t.spec? .databaseCluster "ns" "ledger" = some Sample.ledger.spec ∧
      t.spec? .databaseClusterBackup "ns" "extra" = some ⟨"ledger", "s3"⟩ ∧
      t.KeepsBudget Policies.default.config.pgMaxRepositories := by
  intro t
  have hnone : Sample.postgresPlatform.store.NoClusters := Sample.noClusters_of_engine _
  have hmoment : t ∈ Policies.default.moments Sample.postgresPlatform Sample.backUp :=
    Policies.store_final_mem_moments _ _ _
  have hstored : t.spec? .databaseCluster "ns" "ledger" = some Sample.ledger.spec ∧
      t.spec? .databaseClusterBackup "ns" "extra" = some ⟨"ledger", "s3"⟩ := by
    decide +kernel
  exact ⟨hnone, hmoment, hstored.1, hstored.2, repositories_of_clusters _ hnone hmoment⟩

end ClusterAdmission
