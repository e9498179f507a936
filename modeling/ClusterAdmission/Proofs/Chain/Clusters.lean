import ClusterAdmission.Proofs.Chain.Run
import ClusterAdmission.Proofs.Policy.WellFormed
import ClusterAdmission.Proofs.Resource.SpecCodec

/-!
# Stored clusters

What holds of every stored cluster (`Store.EachCluster`) is shown by looking at the two operations
that write clusters, once the clusters that stay are taken care of (`Store.EachCluster.step`). Both
write only what has passed its check, so every stored cluster is well formed
(`stored_clusters_wellFormed`).
-/

namespace ClusterAdmission

open Api (resourcePlace createdPlace)

namespace Store

/-- What the resource of a name asks for, if there is one that can be read. -/
def spec? (s : Store) (k : Kind) (space name : String) : Option k.Spec :=
  (s.get? (resourcePlace k space name)).bind (Resource.specIn? k)

/-- The resource of a name, if there is one that can be read. -/
def resource? (s : Store) (k : Kind) (space name : String) : Option (Resource k) :=
  (s.get? (resourcePlace k space name)).bind (Resource.ofJson? k)

/-- There are no clusters, whatever else there is. -/
def NoClusters (s : Store) : Prop :=
  ∀ space name, s.get? (resourcePlace .databaseCluster space name) = none

/-- Every stored cluster can be read, and what it asks for in its namespace has a property. -/
def EachCluster (s : Store) (P : String → ClusterSpec → Prop) : Prop :=
  ∀ space name j, s.get? (resourcePlace .databaseCluster space name) = some j →
    ∃ c, Resource.specIn? .databaseCluster j = some c ∧ P space c

variable {s t : Store} {k : Kind} {P Q : String → ClusterSpec → Prop}

theorem resource?_of_get? {space name : String} {j : Json} {r : Resource k}
    (hj : s.get? (resourcePlace k space name) = some j) (hread : Resource.ofJson? k j = some r) :
    s.resource? k space name = some r := by
  rw [resource?, hj, Option.bind_some, hread]

theorem spec?_of_get? {space name : String} {r : Resource k}
    (h : s.get? (resourcePlace k space name) = some r.toJson) :
    s.spec? k space name = some r.spec := by
  rw [spec?, h, Option.bind_some, Resource.specIn?_toJson]

theorem SameResources.resource?_eq (h : s.SameResources t) (k : Kind) (space name : String) :
    t.resource? k space name = s.resource? k space name := by
  rw [resource?, resource?, h _ Api.resourcePlace_ne_secrets]

theorem SameResources.spec?_eq (h : s.SameResources t) (k : Kind) (space name : String) :
    t.spec? k space name = s.spec? k space name := by
  rw [spec?, spec?, h _ Api.resourcePlace_ne_secrets]

theorem NoClusters.eachCluster (h : s.NoClusters) : s.EachCluster P := by
  intro space name j hj
  rw [h space name] at hj
  cases hj

theorem EachCluster.same (h : s.SameResources t) (hs : s.EachCluster P)
    (hPQ : ∀ space c, P space c → Q space c) : t.EachCluster Q := by
  intro space name j hj
  rw [h _ Api.resourcePlace_ne_secrets] at hj
  obtain ⟨c, hc, hP⟩ := hs space name j hj
  exact ⟨c, hc, hPQ space c hP⟩

end Store

/-! ## Names -/

namespace Resource

variable {k : Kind} {r : Resource k}

/-- A resource is created under the name in its metadata. -/
theorem nameOf_toJson (r : Resource k) : Store.nameOf r.toJson = r.metadata.name.getD "" := by
  have hmetadata : r.toJson.get? "metadata" = some r.metadata.toJson := by
    simp [toJson, Json.get?_ofFields]
  have hname : r.metadata.toJson.get? "name" = r.metadata.name.map Json.str := by
    simp [Metadata.toJson, Json.get?_ofFields]
  rw [Store.nameOf, Store.metadataText, hmetadata, Option.bind_some, hname]
  cases r.metadata.name <;> rfl

/-- If a resource is created under a name at all, it is known by that name. -/
theorem name_of_createdPlace {space name : String}
    (h : createdPlace r = resourcePlace k space name) (hne : name ≠ "") : r.name = name := by
  have hname : r.metadata.name.getD "" = name := by
    rw [← nameOf_toJson]
    exact congrArg Place.name h
  cases hmetadata : r.metadata.name with
  | none =>
    rw [hmetadata] at hname
    exact absurd hname.symm hne
  | some n =>
    rw [hmetadata] at hname
    obtain rfl : n = name := hname
    simp [Resource.name, Metadata.anyName, hmetadata]

end Resource

/-! ## What becomes of specifications -/

namespace Effect.Happens

variable {e : Effect} {s t : Store} {k : Kind} {space name : String}

theorem spec?_of_ne (h : e.Happens s t) (hne : resourcePlace k space name ≠ e.place) :
    t.spec? k space name = s.spec? k space name := by
  rw [Store.spec?, Store.spec?, h.others _ Api.resourcePlace_ne_secrets hne]

theorem resource?_of_ne (h : e.Happens s t) (hne : resourcePlace k space name ≠ e.place) :
    t.resource? k space name = s.resource? k space name := by
  rw [Store.resource?, Store.resource?, h.others _ Api.resourcePlace_ne_secrets hne]

theorem spec?_create {r : Resource k} (h : (Effect.create r).Happens s t)
    (hplace : resourcePlace k space name = createdPlace r) : s.spec? k space name = none := by
  have hfree : s.get? (createdPlace r) = none := h.leaves.1
  rw [Store.spec?, hplace, hfree, Option.bind_none]

theorem spec?_created {r : Resource k} (h : (Effect.create r).Happens s t)
    (hplace : resourcePlace k space name = createdPlace r) :
    t.spec? k space name = some r.spec := by
  have hnew : t.get? (createdPlace r) = some r.toJson := h.leaves.2
  rw [← hplace] at hnew
  exact Store.spec?_of_get? hnew

theorem spec?_replace {r : Resource k} (h : (Effect.replace space name r).Happens s t) :
    t.spec? k space name = some r.spec :=
  Store.spec?_of_get? h.leaves.2

theorem spec?_update {change : Resource k → Resource k}
    (h : (Effect.update space name change).Happens s t) :
    ∃ current : Resource k, s.spec? k space name = some current.spec ∧
      t.spec? k space name = some (change current).spec := by
  obtain ⟨j, current, hold, hread, hnew⟩ := h.leaves
  have hj : s.get? (resourcePlace k space name) = some j := hold
  refine ⟨current, ?_, Store.spec?_of_get? hnew⟩
  rw [Store.spec?, hj, Option.bind_some, Resource.specIn?_of_ofJson? hread]

end Effect.Happens

/-- What is read of a resource is stored. -/
theorem Store.resource?_of_getResource {faults : List Api.Fault} {s : Store} {k : Kind}
    {space name : String} {r : Resource k}
    (h : ((Api.getResource k space name).run (Api.serveUnder faults) s).answer = .ok r) :
    s.resource? k space name = some r := by
  obtain ⟨j, hj, hread⟩ := Api.getResource_ok h
  exact Store.resource?_of_get? hj hread

/-- What is read of a resource is what it asks for. -/
theorem Store.spec?_of_getResource {faults : List Api.Fault} {s : Store} {k : Kind}
    {space name : String} {r : Resource k}
    (h : ((Api.getResource k space name).run (Api.serveUnder faults) s).answer = .ok r) :
    s.spec? k space name = some r.spec := by
  obtain ⟨j, hj, hread⟩ := Api.getResource_ok h
  rw [Store.spec?, hj, Option.bind_some, Resource.specIn?_of_ofJson? hread]

/-- A stored resource is among those that are read of its namespace or of all. -/
theorem Store.mem_of_listResources {faults : List Api.Fault} {s : Store} {k : Kind}
    {among : Option String} {resources : List (Resource k)} {space name : String} {j : Json}
    {spec : k.Spec}
    (h : ((Api.listResources k among).run (Api.serveUnder faults) s).answer = .ok resources)
    (hamong : ∀ sp, among = some sp → sp = (resourcePlace k space name).space)
    (hj : s.get? (resourcePlace k space name) = some j)
    (hspec : Resource.specIn? k j = some spec) : ∃ r ∈ resources, r.spec = spec := by
  have hlisted : Store.isListed (.resources k) among (resourcePlace k space name) := by
    cases among with
    | none => simp [Store.isListed, resourcePlace]
    | some sp =>
      obtain rfl := hamong sp rfl
      simp [Store.isListed, resourcePlace]
  obtain ⟨r, hr, hread⟩ := Api.listResources_ok h hj hlisted
  rw [Resource.specIn?_of_ofJson? hread] at hspec
  exact ⟨r, hr, Option.some.inj hspec⟩

/-! ## Steps -/

/-- A cluster that an operation leaves at a place is the one that it creates or updates. -/
theorem Operation.written_cluster {op : Operation} {e : Effect} {space name : String}
    {old : Option Json} {j : Json} (he : op.effect = some e)
    (hplace : e.place = resourcePlace .databaseCluster space name) (h : e.leaves old (some j)) :
    ∃ c : DatabaseCluster, (op = .createCluster c ∨ op = .updateCluster c) ∧ c.space = space ∧
      (name ≠ "" → c.name = name) ∧ j = c.toJson := by
  cases op with
  | createCluster c =>
    cases he
    exact ⟨c, .inl rfl, congrArg Place.space hplace, Resource.name_of_createdPlace hplace,
      Option.some.inj h.2⟩
  | updateCluster c =>
    cases he
    exact ⟨c, .inr rfl, congrArg Place.space hplace, fun _ => congrArg Place.name hplace,
      Option.some.inj h.2⟩
  | deleteCluster =>
    cases he
    cases h
  | getCluster | listClusters | listStorages => cases he
  | _ =>
    cases he
    cases congrArg Place.collection hplace

/-- A step of an operation keeps what holds of clusters, if it does so for those that stay and
gives it to those that are written. -/
theorem Store.EachCluster.step {op : Operation} {e : Effect} {s t : Store}
    {P Q : String → ClusterSpec → Prop} (he : op.effect = some e) (hst : e.Happens s t)
    (hs : s.EachCluster P)
    (hstay : ∀ space name j c, s.get? (resourcePlace .databaseCluster space name) = some j →
      Resource.specIn? .databaseCluster j = some c → P space c → Q space c)
    (hwritten : ∀ c, op = .createCluster c ∨ op = .updateCluster c → Q c.space c.spec) :
    t.EachCluster Q := by
  intro space name j hj
  -- A cluster at the place of the effect has been written, any other was there before.
  by_cases hplace : resourcePlace .databaseCluster space name = e.place
  · have hleaves := hst.leaves
    rw [← hplace, hj] at hleaves
    obtain ⟨c, hop, rfl, -, rfl⟩ := Operation.written_cluster he hplace.symm hleaves
    exact ⟨c.spec, Resource.specIn?_toJson c, hwritten c hop⟩
  · rw [hst.others _ Api.resourcePlace_ne_secrets hplace] at hj
    obtain ⟨c, hc, hP⟩ := hs space name j hj
    exact ⟨c, hc, hstay space name j c hj hc hP⟩

/-! ## Well-formed clusters -/

/-- A cluster that is written has passed. -/
theorem Submission.Admitted.clusterPasses {r : Submission} {p : Policies} {s : Store}
    {c : DatabaseCluster} (h : r.Admitted p s)
    (hop : r.op = .createCluster c ∨ r.op = .updateCluster c) :
    Policy.ClusterPasses p (View.through (Api.serveUnder r.faults) s) r.prober c := by
  rcases hop with hop | hop
  · exact .of_create (h _ (by rw [hop]; rfl))
  · exact .of_update (h _ (by rw [hop]; rfl))

/-- Whether clusters are well formed is kept. -/
theorem Policies.keeps_wellFormed (p : Policies) :
    p.Keeps fun s => s.EachCluster fun _ c => c.WellFormed p.config where
  same hsame hs := hs.same hsame fun _ _ h => h
  effect hadmitted he hst hs :=
    hs.step he hst (fun _ _ _ _ _ _ h => h) fun _ hop => (hadmitted.clusterPasses hop).wellFormed

/-- At every moment of every run that starts without clusters, every stored cluster is well
formed. -/
theorem stored_clusters_wellFormed (p : Policies) {s : Chain.State} {rs : List Submission}
    {t : Store} (hs : s.store.NoClusters) (ht : t ∈ p.moments s rs) :
    t.EachCluster fun _ c => c.WellFormed p.config :=
  p.keeps_wellFormed.of_mem_moments hs.eachCluster ht

/-! ## A small platform -/

namespace Sample

/-- The metadata of a resource of the one namespace. -/
def named (name : String) : Metadata := { name := some name, space := some "ns" }

/-- An installed operator. -/
def operator : DatabaseEngine where
  metadata := named EngineType.pxc.operatorName
  spec := { engine := .pxc }
  status := some { status := .installed, operatorVersion := "1.19.0" }

/-- A platform on which there is nothing but the operator. -/
def platform : Chain.State where
  store := SortedMap.empty.insert (createdPlace operator) operator.toJson

def storage : NewStorage where
  storage :=
    { metadata := named "s3"
      spec := { storageType := .s3, bucket := "backups", region := "eu",
                credentialsSecretName := "" } }
  credentials := { accessKey := "user", secretKey := "key" }

def monitoring : NewMonitoring where
  config :=
    { metadata := named "pmm"
      spec := { monitoringType := .pmm, pmm := { url := "https://pmm" },
                credentialsSecretName := "" } }
  credentials := { apiKey := some "key" }

def policy : PodSchedulingPolicy where
  metadata := { name := some "spread" }
  spec := { engineType := .pxc }

/-- A MySQL cluster that backs up to the storage and writes a name of a monitoring instance. -/
def cluster (monitoringName : String) : DatabaseCluster where
  metadata := named "orders"
  spec :=
    { engine :=
        { engine := .pxc, replicas := 3, storage := { size := "10G" }
          resources := { cpu := some "1", memory := some "2G" } }
      backup :=
        { enabled := true
          schedules := [{ name := "daily", enabled := true, schedule := "0 0 * * *",
                          backupStorageName := "s3" }]
          pitr := { enabled := true, backupStorageName := some "s3" } }
      monitoring := some { monitoringConfigName := some monitoringName }
      podSchedulingPolicyName := some "spread" }

/-- The requests that set the cluster up. -/
def setUp (monitoringName : String) : List Submission :=
  [{ op := .createStorage storage }, { op := .createMonitoring monitoring },
    { op := .createSchedulingPolicy policy }, { op := .createCluster (cluster monitoringName) }]

theorem noClusters_of_engine (e : DatabaseEngine) :
    Store.NoClusters (SortedMap.empty.insert (createdPlace e) e.toJson) := by
  intro space name
  have hne : resourcePlace .databaseCluster space name ≠ createdPlace e := by
    intro heq
    cases congrArg Place.collection heq
  exact SortedMap.get?_insert_of_ne _ _ hne

theorem platform_noClusters : platform.store.NoClusters := noClusters_of_engine operator

theorem final_mem_moments :
    (Policies.default.final platform (setUp "pmm")).store ∈
      Policies.default.moments platform (setUp "pmm") :=
  Policies.store_final_mem_moments _ _ _

/-- The run ends with the cluster in the store. -/
theorem cluster_stored :
    (Policies.default.final platform (setUp "pmm")).store.spec? .databaseCluster "ns" "orders" =
      some (cluster "pmm").spec := by
  decide +kernel

end Sample

theorem stored_clusters_wellFormed_of_sample :
    let t := (Policies.default.final Sample.platform (Sample.setUp "pmm")).store
    Sample.platform.store.NoClusters ∧
      t ∈ Policies.default.moments Sample.platform (Sample.setUp "pmm") ∧
      t.spec? .databaseCluster "ns" "orders" = some (Sample.cluster "pmm").spec ∧
      t.EachCluster fun _ c => c.WellFormed Policies.default.config :=
  ⟨Sample.platform_noClusters, Sample.final_mem_moments, Sample.cluster_stored,
    stored_clusters_wellFormed _ Sample.platform_noClusters Sample.final_mem_moments⟩

end ClusterAdmission
