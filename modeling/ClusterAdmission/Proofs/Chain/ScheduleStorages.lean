import ClusterAdmission.Proofs.Chain.History
import ClusterAdmission.Proofs.Chain.Resubmission

/-!
# Storages of schedules over the history of a cluster

An update to a PostgreSQL cluster keeps the storage of each schedule that was there before
(`Policy.UpdatePasses.keeps_storage`). As long as the cluster stays with PostgreSQL, a schedule that
is there throughout thus keeps its storage over its whole history (`schedule_keeps_storage`). Only
the new engine counts: an update to another one is free to move the schedule, and the way back is
compared with what that update has left (`schedule_moved`).
-/

namespace ClusterAdmission

open Api (resourcePlace createdPlace)

/-- The storages of the schedules of a name, one for each of these schedules. -/
def ClusterSpec.storagesOf (c : ClusterSpec) (schedule : String) : List String :=
  (c.backup.schedules.filter fun s => s.name = schedule).map (·.backupStorageName)

/-! ## Single updates -/

variable {p : Policies} {old new c : ClusterSpec} {schedule storage : String}

/-- The only schedule of a name is the one that is found by its name. -/
theorem ClusterSpec.find?_of_storagesOf (h : c.storagesOf schedule = [storage]) :
    ∃ s, c.backup.schedules.find? (fun s => s.name = schedule) = some s ∧
      s.backupStorageName = storage := by
  obtain ⟨s, hs, hstorage⟩ := List.map_eq_singleton_iff.1 h
  refine ⟨s, ?_, hstorage⟩
  rw [← List.head?_filter, hs, List.head?_cons]

/-- A schedule that is the only one of its name keeps its storage. -/
theorem Policy.UpdatePasses.keeps_storage (h : UpdatePasses p old new)
    (hengine : new.engine.engine = .postgresql) (hold : old.storagesOf schedule = [storage])
    (honce : (new.storagesOf schedule).length = 1) : new.storagesOf schedule = [storage] := by
  obtain ⟨storage', hnew⟩ := List.length_eq_one_iff.1 honce
  obtain ⟨o, ho, rfl⟩ := ClusterSpec.find?_of_storagesOf hold
  obtain ⟨s, hs, rfl⟩ := ClusterSpec.find?_of_storagesOf hnew
  have hname : s.name = schedule := by simpa using List.find?_some hs
  have hkept :=
    Rules.scheduleStorages_eq_ok.1 (h.schedules hengine) s (List.mem_of_find?_eq_some hs)
  rw [hname] at hkept
  rw [hnew, hkept o ho]

/-! ## Histories -/

/-- While a cluster stays with PostgreSQL, a schedule that is at every moment the only one of its
name keeps its storage. What engine it starts with does not matter. -/
theorem schedule_keeps_storage {s : Chain.State} {rs : List Submission} {space name : String}
    {later : List ClusterSpec} (h : p.History s rs space name (c :: later))
    (hengine : ∀ x ∈ later, x.engine.engine = .postgresql)
    (hc : c.storagesOf schedule = [storage])
    (honce : ∀ x ∈ later, (x.storagesOf schedule).length = 1) :
    ∀ d ∈ later, d.storagesOf schedule = [storage] := by
  refine h.keeps hc ?_
  intro x hx y hy hpasses
  exact hpasses.keeps_storage (hengine y hy) hx (honce y hy)

namespace Sample

/-- A platform for PostgreSQL and MySQL clusters with two storages. -/
def twoEngines : Chain.State where
  store := archives.store.insert (createdPlace operator) operator.toJson

/-- A cluster of an engine that is backed up daily to one storage and, unless there is none, weekly
to another. -/
def backedUp (engine : EngineType) (daily : String) (weekly : Option String) : DatabaseCluster :=
  { ledger with
    spec :=
      { ledger.spec with
        engine := { ledger.spec.engine with engine, replicas := 3 }
        backup :=
          { enabled := true
            schedules :=
              { name := "daily", enabled := true, schedule := "0 0 * * *"
                backupStorageName := daily } ::
              weekly.toList.map fun storage =>
                { name := "weekly", enabled := true, schedule := "0 0 * * 0"
                  backupStorageName := storage } } } }

end Sample

theorem schedule_keeps_storage_of_sample :
    let first := Sample.backedUp .postgresql "s3" none
    let second := Sample.backedUp .postgresql "s3" (some "cold")
    let later := List.replicate 6 first.spec ++ List.replicate 2 second.spec
    Policies.default.History Sample.twoEngines (Sample.revise first [second]) "ns" "ledger"
        (first.spec :: later) ∧
      (∀ x ∈ later, x.engine.engine = .postgresql) ∧
      first.spec.storagesOf "daily" = ["s3"] ∧
      (∀ x ∈ later, (x.storagesOf "daily").length = 1) ∧
      ∀ d ∈ later, d.storagesOf "daily" = ["s3"] := by
  intro first second later
  have hhistory : Policies.default.History Sample.twoEngines (Sample.revise first [second])
      "ns" "ledger" (first.spec :: later) :=
    Policies.history_of_drop 4 (by decide +kernel)
  have hengine : ∀ x ∈ later, x.engine.engine = .postgresql := by decide
  have hfirst : first.spec.storagesOf "daily" = ["s3"] := by decide
  have honce : ∀ x ∈ later, (x.storagesOf "daily").length = 1 := by decide
  exact ⟨hhistory, hengine, hfirst, honce, schedule_keeps_storage hhistory hengine hfirst honce⟩

/-- A cluster that is taken to another engine and back comes back with its schedule at another
storage. -/
theorem schedule_moved :
    let first := Sample.backedUp .postgresql "s3" none
    let other := Sample.backedUp .pxc "cold" none
    let last := Sample.backedUp .postgresql "cold" none
    let between := List.replicate 4 first.spec ++ List.replicate 6 other.spec ++ [last.spec]
    let all := first.spec :: between ++ [last.spec]
    Policies.default.History Sample.twoEngines (Sample.revise first [other, last]) "ns" "ledger"
        all ∧
      first.spec.engine.engine = .postgresql ∧ last.spec.engine.engine = .postgresql ∧
      (∀ x ∈ all, (x.storagesOf "daily").length = 1) ∧
      first.spec.storagesOf "daily" = ["s3"] ∧ last.spec.storagesOf "daily" = ["cold"] := by
  intro first other last between all
  refine ⟨Policies.history_of_drop 4 (by decide +kernel), rfl, rfl, ?_, ?_, ?_⟩
  all_goals decide

end ClusterAdmission
