import ClusterAdmission.Proofs.Api.Views
import ClusterAdmission.Proofs.Chain.Repositories
import ClusterAdmission.Proofs.Policy.Resubmission
import ClusterAdmission.Proofs.Resource.Codec

/-!
# Clusters submitted again

A cluster that has just been created or updated is admitted once more as an update of itself,
exactly if its schedules of one name have one storage and, where it was updated, its schedules fit
the active storage that it was updated with (`cluster_resubmitted`). Nothing forces the first: only
the cron expressions of schedules are distinct, while an update looks up old schedules by name, so a
cluster with two schedules of one name cannot be updated as it is (`cluster_locked_out`).
-/

namespace ClusterAdmission

open Api (resourcePlace createdPlace serveUnder)

/-! ## Names in paths -/

namespace Names

theorem isPathChar_of_label {c : Char} (h : isLowerOrDigit c ∨ c = '-') : Api.isPathChar c := by
  rcases h with h | rfl
  · have hcode : 97 ≤ c.toNat ∧ c.toNat ≤ 122 ∨ 48 ≤ c.toNat ∧ c.toNat ≤ 57 := by
      simpa [isLowerOrDigit, isLower, Char.isDigit, Char.le_def, UInt32.le_iff_toNat_le] using h
    have hblank : ' ' < c := by
      rw [Char.lt_def, UInt32.lt_iff_toNat_lt]
      change 32 < c.toNat
      omega
    have hne (d : Char) (hd : d = '<' ∨ d = '>') : c ≠ d := by
      rintro rfl
      rcases hd with rfl | rfl <;> revert hcode <;> decide
    have hgrave : c.toNat ≠ 0x60 := by omega
    simp [Api.isPathChar, hblank, hne, hgrave]
  · decide

theorem Label.isPathName {name : String} (h : Label name) : Api.isPathName name := by
  obtain ⟨c, hc, -⟩ := h.start
  have hne : name ≠ "" := by
    rintro rfl
    cases hc
  have hchars : ∀ c ∈ name.toList, Api.isPathChar c :=
    fun c hc => isPathChar_of_label (h.chars c hc)
  simpa [Api.isPathName, hne] using hchars

end Names

/-! ## What is read back -/

/-- A cluster as it is read back from the store. -/
def Resource.readBack (c : DatabaseCluster) : DatabaseCluster :=
  { c with metadata := c.metadata.cut }

/-- A request writes a cluster under the name by which the cluster is known. -/
def Submission.Writes (r : Submission) (c : DatabaseCluster) : Prop :=
  r.op = .updateCluster c ∨ r.op = .createCluster c ∧ c.metadata.name ≠ none

variable {p : Policies} {r : Submission} {s : Chain.State} {c : DatabaseCluster}

theorem createdPlace_of_name (h : c.metadata.name ≠ none) :
    createdPlace c = resourcePlace .databaseCluster c.space c.name := by
  obtain ⟨name, hname⟩ := Option.ne_none_iff_exists'.1 h
  have hknown : c.name = name := by simp [Resource.name, Metadata.anyName, hname]
  rw [createdPlace, resourcePlace, Resource.nameOf_toJson, hname, hknown, Option.getD_some]

/-- What a request that writes a cluster and is answered has shown and left. -/
structure Submission.Written (r : Submission) (p : Policies) (s : Chain.State)
    (c : DatabaseCluster) : Prop where
  admitted : r.Admitted p s.store
  /-- The name and the namespace of the cluster can stand in a path. -/
  sendable : (Api.Request.get (resourcePlace .databaseCluster c.space c.name)).isSendable
  store : (r.after p s).store =
    s.store.insert (resourcePlace .databaseCluster c.space c.name) c.toJson

theorem Submission.Writes.written (hwrites : r.Writes c)
    (hok : ∃ a, ((r.chain p).handle r.context r.op s).answer = .ok a) : r.Written p s c := by
  obtain ⟨op, context, prober, faults⟩ := r
  obtain ⟨a, ha⟩ := hok
  rcases hwrites with hop | ⟨hop, hname⟩
  · obtain rfl : op = .updateCluster c := hop
    obtain ⟨hcheck, -, hanswer⟩ := Submission.of_answered rfl ha
    obtain ⟨hsend, hstate⟩ := Api.replaceResource_ok hanswer
    have hadmitted := Submission.Admitted.of_check rfl hcheck
    exact ⟨hadmitted, hsend, (store_after_of_admitted hadmitted).trans hstate⟩
  · obtain rfl : op = .createCluster c := hop
    obtain ⟨hcheck, -, hanswer⟩ := Submission.of_answered rfl ha
    obtain ⟨hsend, hstate⟩ := Api.createResource_ok hanswer
    have hadmitted := Submission.Admitted.of_check rfl hcheck
    have hlabel : Names.Label c.name := (Policy.clusterCreate_holds hcheck .name).1
    refine ⟨hadmitted, ?_, ?_⟩
    · rw [Api.Request.isSendable, Bool.and_true] at hsend
      rw [Api.Request.isSendable, Bool.and_eq_true]
      exact ⟨hsend, hlabel.isPathName⟩
    · rw [store_after_of_admitted hadmitted, ← createdPlace_of_name hname]
      exact hstate

theorem Submission.Written.sameOutside (h : r.Written p s c) :
    s.store.SameOutside (.resources .databaseCluster) (r.after p s).store := by
  rw [h.store]
  exact s.store.sameOutside_insert (resourcePlace .databaseCluster c.space c.name) c.toJson

theorem Submission.Writes.passes (h : r.Writes c) (hadmitted : r.Admitted p s.store) :
    Policy.ClusterPasses p (View.through (serveUnder r.faults) s.store) r.prober c :=
  hadmitted.clusterPasses (h.symm.imp_left And.left)

/-- A new cluster has been compared with the storage that it says it is bound to, an updated one
with that of the stored cluster. -/
theorem Submission.Writes.binding_iff (h : r.Writes c) (hadmitted : r.Admitted p s.store) :
    (r.op = .updateCluster c → c.BindingAgrees) ↔ c.BindingAgrees := by
  refine ⟨fun hupdate => ?_, fun hagrees _ => hagrees⟩
  rcases h with hop | ⟨hop, -⟩
  · exact hupdate hop
  · have hcheck := hadmitted (Policy.clusterCreate p c) (by rw [hop]; rfl)
    exact fun hengine => (Policy.clusterCreate_holds hcheck .binding hengine).2

/-! ## Submitting again -/

/-- A cluster that has just been written, as it is read back, and again submitted as an update
without faults: it is admitted exactly if it agrees with itself, is then answered, and its
specification stays in any case. -/
theorem cluster_resubmitted (p : Policies) (hwrites : r.Writes c)
    (hok : ∃ a, ((r.chain p).handle r.context r.op s).answer = .ok a) :
    ∃ stored : DatabaseCluster,
      (r.after p s).store.resource? .databaseCluster c.space c.name = some stored ∧
      stored.spec = c.spec ∧
      ∀ again : Submission, again.op = .updateCluster stored → again.faults = [] →
        (again.Admitted p (r.after p s).store ↔
          c.spec.SchedulesAgree ∧ (r.op = .updateCluster c → c.BindingAgrees)) ∧
        (again.Admitted p (r.after p s).store →
          ∃ a, ((again.chain p).handle again.context again.op (r.after p s)).answer = .ok a) ∧
        (again.after p (r.after p s)).store.spec? .databaseCluster c.space c.name =
          some c.spec := by
  have hwritten : r.Written p s c := hwrites.written hok
  have hget : (r.after p s).store.get? (resourcePlace .databaseCluster c.space c.name) =
      some c.toJson := by
    rw [hwritten.store]
    exact SortedMap.get?_insert_self _ _ _
  have hread : Resource.ofJson? .databaseCluster c.toJson = some c.readBack :=
    Resource.ofJson?_toJson_cluster c
  refine ⟨c.readBack, Store.resource?_of_get? hget hread, rfl, fun again hop hfaults => ?_⟩
  obtain ⟨op, context, prober, faults⟩ := again
  obtain rfl : op = .updateCluster c.readBack := hop
  obtain rfl : faults = [] := hfaults
  have hview : View.through (serveUnder []) (r.after p s).store (.cluster c.space c.name) =
      .ok c.readBack := Api.run_getResource hwritten.sendable hget hread
  have hagain : Policy.ClusterPasses p (View.through (serveUnder []) (r.after p s).store) prober
      c.readBack :=
    (hwrites.passes hwritten.admitted).extend (View.extends_through hwritten.sameOutside)
      rfl rfl rfl
  have hthere : (r.after p s).store.contains (resourcePlace .databaseCluster c.space c.name) :=
    SortedMap.contains_iff.2 ⟨_, hget⟩
  obtain ⟨hanswer, hstate⟩ := Api.run_replaceResource hwritten.sendable hthere
    (Resource.ofJson?_toJson_cluster c.readBack)
  refine ⟨?_, fun hadmitted => ⟨_, (Submission.answer_of_admitted hadmitted).trans hanswer⟩, ?_⟩
  · rw [hwrites.binding_iff hwritten.admitted]
    exact (Submission.admitted_iff rfl).trans (hagain.clusterUpdate_iff hview)
  · rcases Submission.store_after_cases (r.after p s) with hsame | hperformed
    · rw [hsame]
      exact Store.spec?_of_get? hget
    · rw [hperformed.trans hstate]
      exact Store.spec?_of_get? (r := c.readBack) (SortedMap.get?_insert_self _ _ _)

namespace Sample

/-- A storage at a bucket, without a secret. -/
def bucketStorage (name bucket : String) : BackupStorage where
  metadata := named name
  spec := { storageType := .s3, bucket, region := "eu", credentialsSecretName := name }

/-- A platform for PostgreSQL clusters with two storages. -/
def archives : Chain.State where
  store :=
    let s3 := bucketStorage "s3" "backups"
    let cold := bucketStorage "cold" "archive"
    (postgresPlatform.store.insert (createdPlace s3) s3.toJson).insert (createdPlace cold)
      cold.toJson

/-- A cluster that is backed up to the two storages by schedules of two names. -/
def scheduled (first second : String) : DatabaseCluster :=
  { ledger with
    spec :=
      { ledger.spec with
        backup :=
          { enabled := true
            schedules := [
              { name := first, enabled := true, schedule := "0 0 * * *"
                backupStorageName := "s3" },
              { name := second, enabled := true, schedule := "0 0 * * 0"
                backupStorageName := "cold" }] } } }

end Sample

theorem cluster_resubmitted_of_sample :
    let c := Sample.scheduled "daily" "weekly"
    let r : Submission := { op := .createCluster c }
    let t := r.after .default Sample.archives
    r.Writes c ∧ (∃ a, ((r.chain .default).handle r.context r.op Sample.archives).answer = .ok a) ∧
      ∃ stored : DatabaseCluster,
        t.store.resource? .databaseCluster "ns" "ledger" = some stored ∧
        let again : Submission := { op := .updateCluster stored }
        again.Admitted .default t.store ∧
          (∃ a, ((again.chain .default).handle again.context again.op t).answer = .ok a) ∧
          (again.after .default t).store.spec? .databaseCluster "ns" "ledger" = some c.spec := by
  intro c r t
  have hwrites : r.Writes c := .inr ⟨rfl, nofun⟩
  have hanswer : (((r.chain .default).handle r.context (.createCluster c) Sample.archives).answer :
      Except Failure DatabaseCluster) = .ok c := by
    decide +kernel
  have hok : ∃ a, ((r.chain .default).handle r.context r.op Sample.archives).answer = .ok a :=
    ⟨_, hanswer⟩
  have hagree : c.spec.SchedulesAgree := by
    unfold ClusterSpec.SchedulesAgree
    decide
  obtain ⟨stored, hstored, -, hagain⟩ := cluster_resubmitted .default hwrites hok
  obtain ⟨hiff, hanswered, hspec⟩ := hagain { op := .updateCluster stored } rfl rfl
  have hadmitted := hiff.2 ⟨hagree, nofun⟩
  exact ⟨hwrites, hok, stored, hstored, hadmitted, hanswered hadmitted, hspec⟩

/-- A cluster with two schedules of one name is created, and is then rejected as it is. -/
theorem cluster_locked_out :
    let c := Sample.scheduled "daily" "daily"
    let r : Submission := { op := .createCluster c }
    let again : Submission := { op := .updateCluster c }
    let t := r.after .default Sample.archives
    ((r.chain .default).handle r.context (.createCluster c) Sample.archives).answer = .ok c ∧
      t.store.resource? .databaseCluster "ns" "ledger" = some c ∧
      ((again.chain .default).handle again.context (.updateCluster c) t).answer =
        .error (.rejected (.scheduleStorageChanged "daily")) := by
  decide +kernel

end ClusterAdmission
