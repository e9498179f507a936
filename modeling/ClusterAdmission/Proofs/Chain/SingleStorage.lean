import ClusterAdmission.Policy.Backup
import ClusterAdmission.Proofs.Chain.Reports
import ClusterAdmission.Proofs.Policy.Resubmission
import ClusterAdmission.Proofs.Resource.Codec

/-!
# The storage that a MongoDB cluster is bound to

The schedules of a MongoDB cluster name one storage at most, whatever is reported of it. Its backups
and its next schedules are compared with the storage that it is reported to be bound to, and with
nothing else. While that report stands they all go to that storage (`storages_of_bound_cluster`), if
the schedules that were there when it came do; before it, a backup may go anywhere
(`backed_up_elsewhere`).
-/

namespace ClusterAdmission

open Api (resourcePlace createdPlace)

namespace Store

/-- A MongoDB cluster is stored that is reported to be bound to a storage. -/
def BoundTo (s : Store) (space name storage : String) : Prop :=
  ∃ c : DatabaseCluster, s.resource? .databaseCluster space name = some c ∧
    c.spec.engine.engine = .psmdb ∧ Resource.activeStorage c = some storage

/-- The storages that the schedules of a stored cluster name. -/
def scheduled (s : Store) (space name : String) : Set String :=
  {storage | storage ≠ "" ∧ ∃ c, s.spec? .databaseCluster space name = some c ∧
    storage ∈ c.scheduleStorages}

/-- The storages of the backups of a cluster that have come since an earlier moment `u`. -/
def backedUpSince (u s : Store) (space name : String) : Set String :=
  {storage | ∃ id b, u.get? (resourcePlace .databaseClusterBackup space id) = none ∧
    s.spec? .databaseClusterBackup space id = some b ∧ b.dbClusterName = name ∧
    b.backupStorageName = storage}

/-- The storages of a cluster since an earlier moment `u`. -/
def storagesSince (u s : Store) (space name : String) : Set String :=
  s.scheduled space name ∪ u.backedUpSince s space name

/-- A cluster is yet to come or bound to a storage, and has used that storage only since an earlier
moment `u`. -/
structure Keeps (u s : Store) (space name storage : String) : Prop where
  bound : s.get? (resourcePlace .databaseCluster space name) = none ∨
    s.BoundTo space name storage
  storages : u.storagesSince s space name ⊆ {storage}

variable {u s t : Store} {space name storage : String}

instance : Decidable (s.BoundTo space name storage) :=
  decidable_of_iff
    ((s.resource? .databaseCluster space name).any fun c =>
      c.spec.engine.engine = .psmdb ∧ Resource.activeStorage c = some storage)
    (by simp [BoundTo, Option.any_eq_true])

theorem BoundTo.get?_ne_none (h : s.BoundTo space name storage) :
    s.get? (resourcePlace .databaseCluster space name) ≠ none := by
  intro hnone
  obtain ⟨c, hc, -⟩ := h
  rw [resource?, hnone] at hc
  cases hc

/-- What is reported with a cluster is stored with it. -/
theorem BoundTo.of_written {c : DatabaseCluster} (h : s.BoundTo space name storage)
    (hc : s.get? (resourcePlace .databaseCluster space name) = some c.toJson) :
    c.spec.engine.engine = .psmdb ∧ Resource.activeStorage c = some storage := by
  obtain ⟨c', hc', hbound⟩ := h
  rw [resource?_of_get? hc (Resource.ofJson?_toJson_cluster c)] at hc'
  obtain rfl := Option.some.inj hc'
  exact hbound

/-- Of what can be read only what is asked for matters. -/
theorem storagesSince_congr (h : ∀ k space name, t.spec? k space name = s.spec? k space name) :
    u.storagesSince t space name = u.storagesSince s space name := by
  simp only [storagesSince, scheduled, backedUpSince, h]

theorem backedUpSince_self : u.backedUpSince u space name = ∅ := by
  refine Set.eq_empty_of_forall_notMem ?_
  rintro _ ⟨id, b, hfree, hb, -⟩
  rw [spec?, hfree] at hb
  cases hb

/-- A cluster that does not exist yet uses no storage, and one that is bound those of its
schedules. -/
theorem Keeps.start (h : u.get? (resourcePlace .databaseCluster space name) = none ∨
    u.BoundTo space name storage ∧ u.scheduled space name ⊆ {storage}) :
    u.Keeps u space name storage := by
  refine ⟨h.imp_right And.left, ?_⟩
  rw [storagesSince, backedUpSince_self, Set.union_empty]
  rcases h with hnone | ⟨-, hscheduled⟩
  · rintro x ⟨-, c, hc, -⟩
    rw [spec?, hnone] at hc
    cases hc
  · exact hscheduled

theorem Keeps.same (h : s.SameResources t) (hs : u.Keeps s space name storage) :
    u.Keeps t space name storage where
  bound := by
    rw [h _ Api.resourcePlace_ne_secrets]
    refine hs.bound.imp_right fun ⟨c, hc, hbound⟩ => ⟨c, ?_, hbound⟩
    rw [h.resource?_eq, hc]
  storages := by
    rw [storagesSince_congr h.spec?_eq]
    exact hs.storages

/-- A cluster that is read while it keeps to a storage is bound to it. -/
theorem Keeps.active (h : u.Keeps s space name storage) {c : DatabaseCluster}
    (hc : s.resource? .databaseCluster space name = some c) :
    c.spec.engine.engine = .psmdb ∧ Resource.activeStorage c = some storage := by
  rcases h.bound with hnone | ⟨c', hc', hbound⟩
  · rw [resource?, hnone] at hc
    cases hc
  · rw [hc] at hc'
    obtain rfl := Option.some.inj hc'
    exact hbound

end Store

/-! ## What the checks compare -/

namespace Policy

variable {p : Policies} {view : View} {prober : Prober}

theorem storageTopology_binding {space storage : String} {c : ClusterSpec} {withSource : Bool}
    (h : (storageTopology space c (some storage) withSource).run view prober = .ok ())
    (hengine : c.engine.engine = .psmdb) :
    ∀ s ∈ c.backup.schedules, s.backupStorageName ≠ "" → s.backupStorageName = storage := by
  simp only [storageTopology, hengine, ↓reduceIte, Check.run_then_eq_ok,
    Check.run_rule_eq_ok] at h
  exact ((Rules.psmdbStorages_decides _ _).ok_iff.1 h.1).2 storage rfl

/-- A backup of a MongoDB cluster goes to the storage that the cluster is bound to. -/
theorem backupCreate_binding {b : DatabaseClusterBackup}
    (h : (backupCreate p b).run view prober = .ok ()) :
    ∃ c : DatabaseCluster, view (.cluster b.space b.spec.dbClusterName) = .ok c ∧
      (c.spec.engine.engine = .psmdb → ∀ storage, Resource.activeStorage c = some storage →
        storage = b.spec.backupStorageName) := by
  simp only [backupCreate, Check.run_bind_eq_ok] at h
  obtain ⟨_, -, c, hc, _, -, hrest⟩ := h
  refine ⟨c, Check.run_getReferenced_eq_ok.1 hc, fun hengine storage hactive => ?_⟩
  rw [hengine] at hrest
  simp only [hactive, Check.run_require_eq_ok, decide_eq_true_eq] at hrest
  exact hrest

end Policy

/-! ## Steps -/

variable {p : Policies} {r : Submission} {e : Effect} {u s t v w : Store}
  {space name storage : String}

/-- The schedules that a cluster has after a step name the storage that it is bound to. -/
theorem Store.Keeps.scheduled_step (h : u.Keeps s space name storage) (hadmitted : r.Admitted p s)
    (he : r.op.effect = some e) (hst : e.Happens s t) (hbound : t.BoundTo space name storage) :
    t.scheduled space name ⊆ {storage} := by
  rintro x ⟨hx, c, hc, hscheduled⟩
  by_cases hplace : resourcePlace .databaseCluster space name = e.place
  · obtain ⟨schedule, hschedule, rfl⟩ := List.mem_map.1 hscheduled
    cases hop : r.op with
    | createCluster new =>
      have hcheck := hadmitted (Policy.clusterCreate p new) (by rw [hop]; rfl)
      rw [hop] at he
      cases he
      have hwritten : t.get? (resourcePlace .databaseCluster space name) = some new.toJson := by
        rw [hplace]
        exact hst.leaves.2
      obtain ⟨hengine, hactive⟩ := hbound.of_written hwritten
      rw [hst.spec?_created hplace] at hc
      obtain rfl := Option.some.inj hc
      obtain ⟨-, hbinding⟩ := Policy.clusterCreate_holds hcheck .binding hengine
      exact hbinding storage hactive schedule hschedule hx
    | updateCluster new =>
      have hcheck := hadmitted (Policy.clusterUpdate p new) (by rw [hop]; rfl)
      rw [hop] at he
      cases he
      obtain rfl : space = new.space := congrArg Place.space hplace
      obtain rfl : name = new.name := congrArg Place.name hplace
      obtain ⟨hengine, -⟩ := hbound.of_written hst.leaves.2
      rw [hst.spec?_replace] at hc
      obtain rfl := Option.some.inj hc
      -- An update is compared with what is reported of the stored cluster.
      obtain ⟨old, hold, _, -, -, -, -, -, hstorages, -⟩ := Policy.clusterUpdate_eq_ok.1 hcheck
      obtain ⟨-, hactive⟩ := h.active (Store.resource?_of_getResource hold)
      rw [hactive] at hstorages
      exact Policy.storageTopology_binding hstorages hengine schedule hschedule hx
    | deleteCluster space' name' =>
      rw [hop] at he
      cases he
      refine absurd ?_ hbound.get?_ne_none
      rw [hplace]
      exact hst.leaves
    | getCluster | listClusters | listStorages =>
      rw [hop] at he
      cases he
    | _ =>
      rw [hop] at he
      cases he
      cases congrArg Place.collection hplace
  · rw [hst.spec?_of_ne hplace] at hc
    exact h.storages (.inl ⟨hx, c, hc, hscheduled⟩)

/-- The backups that come with a step go to the storage that the cluster is bound to. -/
theorem Store.Keeps.backedUp_step (h : u.Keeps s space name storage) (hadmitted : r.Admitted p s)
    (he : r.op.effect = some e) (hst : e.Happens s t) :
    u.backedUpSince t space name ⊆ {storage} := by
  rintro x ⟨id, b, hfree, hb, howner, hstorage⟩
  by_cases hplace : resourcePlace .databaseClusterBackup space id = e.place
  · cases hop : r.op with
    | createBackup new =>
      have hcheck := hadmitted (Policy.backupCreate p new) (by rw [hop]; rfl)
      rw [hop] at he
      cases he
      obtain rfl : space = new.space := congrArg Place.space hplace
      rw [hst.spec?_created hplace] at hb
      obtain rfl := Option.some.inj hb
      obtain ⟨c, hc, hbinding⟩ := Policy.backupCreate_binding hcheck
      rw [howner] at hc
      obtain ⟨hengine, hactive⟩ := h.active (Store.resource?_of_getResource hc)
      rw [← hstorage]
      exact (hbinding hengine storage hactive).symm
    | getCluster | listClusters | listStorages =>
      rw [hop] at he
      cases he
    | _ =>
      rw [hop] at he
      cases he
      cases congrArg Place.collection hplace
  · rw [hst.spec?_of_ne hplace] at hb
    exact h.storages (.inr ⟨id, b, hfree, hb, howner, hstorage⟩)

theorem Store.Keeps.step (h : u.Keeps s space name storage) (hadmitted : r.Admitted p s)
    (he : r.op.effect = some e) (hst : e.Happens s t) (hbound : t.BoundTo space name storage) :
    u.Keeps t space name storage :=
  ⟨.inr hbound, Set.union_subset (h.scheduled_step hadmitted he hst hbound)
    (h.backedUp_step hadmitted he hst)⟩

/-- From one moment to the next a bound cluster keeps to its storage. -/
theorem Policies.Moves.keeps (hvw : p.Moves v w) (h : u.Keeps v space name storage)
    (hbound : w.BoundTo space name storage) : u.Keeps w space name storage := by
  rcases hvw with (hsame | ⟨r, s, e, hadmitted, hsame, he, hhappens⟩) | ⟨space', name', status, rfl⟩
  · exact h.same hsame
  · exact (h.same hsame.symm).step hadmitted he hhappens hbound
  · refine ⟨.inr hbound, ?_⟩
    rw [Store.storagesSince_congr fun _ _ _ => Store.spec?_report _ _ _]
    exact h.storages

theorem Store.Keeps.of_mem {stretch : List Store} (h : u.Keeps v space name storage)
    (hchain : (v :: stretch).IsChain p.Moves)
    (hbound : ∀ t ∈ stretch, t.BoundTo space name storage) :
    ∀ t ∈ stretch, u.Keeps t space name storage := by
  induction stretch generalizing v with
  | nil => exact nofun
  | cons w rest ih =>
    obtain ⟨hvw, hrest⟩ := List.isChain_cons_cons.1 hchain
    obtain ⟨hw, hlater⟩ := List.forall_mem_cons.1 hbound
    have hkeeps : u.Keeps w space name storage := hvw.keeps h hw
    exact List.forall_mem_cons.2 ⟨hkeeps, ih hkeeps hrest hlater⟩

/-- Whatever is asked for and reported, the schedules of a MongoDB cluster name one storage at most.
As long as the cluster is reported to be bound to a storage, its schedules name only that one and
its backups go there, from the creation of the cluster on or from a moment at which its schedules
name no other. -/
theorem storages_of_bound_cluster (p : Policies) {s : Chain.State} (es : List Event)
    (hs : s.store.NoClusters) :
    (∀ t ∈ p.eventMoments s es, t.EachCluster fun _ c =>
      c.engine.engine = .psmdb → Rules.SingleStorage c.backup.schedules) ∧
    ∀ (u : Store) (stretch : List Store) (space name storage : String),
      u :: stretch <:+: p.eventMoments s es →
      u.get? (resourcePlace .databaseCluster space name) = none ∨
        u.BoundTo space name storage ∧ u.scheduled space name ⊆ {storage} →
      (∀ t ∈ stretch, t.BoundTo space name storage) →
      ∀ t ∈ stretch, u.storagesSince t space name ⊆ {storage} := by
  constructor
  · intro t ht space name j hj
    have hwellFormed : t.EachCluster fun _ c => c.WellFormed p.config :=
      p.keeps_wellFormed.of_mem_eventMoments (fun _ _ _ _ => .report) hs.eachCluster ht
    obtain ⟨c, hc, hc'⟩ := hwellFormed space name j hj
    exact ⟨c, hc, hc'.single_storage⟩
  · intro u stretch space name storage hinfix hstart hbound t ht
    have hchain : (u :: stretch).IsChain p.Moves := Policies.stretch_moves hinfix
    exact ((Store.Keeps.start hstart).of_mem hchain hbound t ht).storages

namespace Sample

/-- A platform with nothing but the operator of MongoDB. -/
def mongoPlatform : Chain.State where
  store :=
    let engine : DatabaseEngine :=
      { operator with
        metadata := named EngineType.psmdb.operatorName, spec := { engine := .psmdb } }
    SortedMap.empty.insert (createdPlace engine) engine.toJson

/-- A MongoDB cluster that is backed up daily. -/
def events : DatabaseCluster where
  metadata := named "events"
  spec :=
    { engine :=
        { engine := .psmdb, replicas := 3, storage := { size := "10G" }
          resources := { cpu := some "1", memory := some "2G" } }
      backup :=
        { enabled := true
          schedules := [{ name := "daily", enabled := true, schedule := "0 0 * * *",
                          backupStorageName := "s3" }] } }

/-- A request for one more backup of the cluster. -/
def fullBackup (storage : String) : Submission where
  op := .createBackup
    { metadata := named "full"
      spec := { dbClusterName := "events", backupStorageName := storage } }

/-- The cluster is created, reported to be bound to the storage of its schedule, and backed up. -/
def boundEvents : List Event :=
  [.request { op := .createStorage Sample.storage }, .request { op := .createCluster events },
    .report "ns" "events" { activeStorage := some "s3" }, .request (fullBackup "s3")]

/-- Requests that create two storages and the cluster, and back it up to the second storage. -/
def unboundBackup : List Submission :=
  let cold : NewStorage :=
    { Sample.storage with
      storage :=
        { Sample.storage.storage with
          metadata := named "cold"
          spec := { Sample.storage.storage.spec with bucket := "archive" } } }
  [{ op := .createStorage Sample.storage }, { op := .createStorage cold },
    { op := .createCluster events }, fullBackup "cold"]

end Sample

theorem storages_of_bound_cluster_of_sample :
    let all := Policies.default.eventMoments Sample.mongoPlatform Sample.boundEvents
    Sample.mongoPlatform.store.NoClusters ∧
      (∀ t ∈ all, t.EachCluster fun _ c =>
        c.engine.engine = .psmdb → Rules.SingleStorage c.backup.schedules) ∧
      ∃ u stretch, u :: stretch <:+: all ∧ u.BoundTo "ns" "events" "s3" ∧
        u.scheduled "ns" "events" ⊆ {"s3"} ∧ (∀ t ∈ stretch, t.BoundTo "ns" "events" "s3") ∧
        (∃ t ∈ stretch, t.spec? .databaseClusterBackup "ns" "full" = some ⟨"events", "s3"⟩) ∧
        ∀ t ∈ stretch, u.storagesSince t "ns" "events" ⊆ {"s3"} := by
  intro all
  have hnone : Sample.mongoPlatform.store.NoClusters := Sample.noClusters_of_engine _
  obtain ⟨hschedules, hstretch⟩ :=
    storages_of_bound_cluster .default Sample.boundEvents hnone
  -- The report comes before the tenth moment.
  obtain ⟨hdropped, hall, hbackup⟩ : all.drop 9 ≠ [] ∧
      (∀ t ∈ all.drop 9, t.BoundTo "ns" "events" "s3" ∧
        t.spec? .databaseCluster "ns" "events" = some Sample.events.spec) ∧
      ∃ t ∈ (all.drop 9).tail,
        t.spec? .databaseClusterBackup "ns" "full" = some ⟨"events", "s3"⟩ := by
    decide +kernel
  obtain ⟨u, stretch, hdrop⟩ := List.ne_nil_iff_exists_cons.1 hdropped
  rw [hdrop] at hall hbackup
  have hinfix : u :: stretch <:+: all := by
    rw [← hdrop]
    exact (List.drop_suffix 9 all).isInfix
  obtain ⟨⟨hu, hspec⟩, hlater⟩ := List.forall_mem_cons.1 hall
  have hbound : ∀ t ∈ stretch, t.BoundTo "ns" "events" "s3" := fun t ht => (hlater t ht).1
  have hscheduled : u.scheduled "ns" "events" ⊆ {"s3"} := by
    rintro x ⟨-, c, hc, hx⟩
    rw [hspec] at hc
    obtain rfl := Option.some.inj hc
    exact List.mem_singleton.1 hx
  exact ⟨hnone, hschedules, u, stretch, hinfix, hu, hscheduled, hbound, hbackup,
    hstretch u stretch "ns" "events" "s3" hinfix (.inr ⟨hu, hscheduled⟩) hbound⟩

/-- Of a cluster of which nothing is reported a backup can be made at another storage than that of
its schedule. -/
theorem backed_up_elsewhere :
    let s := Sample.mongoPlatform
    let t := (Policies.default.final s Sample.unboundBackup).store
    s.store.NoClusters ∧ t ∈ Policies.default.moments s Sample.unboundBackup ∧
      t.spec? .databaseCluster "ns" "events" = some Sample.events.spec ∧
      Sample.events.spec.engine.engine = .psmdb ∧
      ¬ (s.store.storagesSince t "ns" "events").Subsingleton := by
  intro s t
  obtain ⟨hcluster, hbackup⟩ :
      t.spec? .databaseCluster "ns" "events" = some Sample.events.spec ∧
        t.spec? .databaseClusterBackup "ns" "full" = some ⟨"events", "cold"⟩ := by
    decide +kernel
  have hfree : s.store.get? (resourcePlace .databaseClusterBackup "ns" "full") = none := by
    decide +kernel
  refine ⟨Sample.noClusters_of_engine _, Policies.store_final_mem_moments _ _ _, hcluster, rfl,
    fun hsubsingleton => ?_⟩
  have hs3 : "s3" ∈ s.store.storagesSince t "ns" "events" :=
    .inl ⟨by decide, _, hcluster, by decide⟩
  have hcold : "cold" ∈ s.store.storagesSince t "ns" "events" :=
    .inr ⟨"full", _, hfree, hbackup, rfl, rfl⟩
  exact absurd (hsubsingleton hs3 hcold) (by decide)

end ClusterAdmission
