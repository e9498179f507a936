import ClusterAdmission.Policy.Storage
import ClusterAdmission.Proofs.Check.Program

/-!
# What checks of storages find out

A storage that is created or updated has been shown that no storage of another name has its location
(`LocationFree`), and one that changes its bucket or region, or that is deleted, that no cluster
refers to it (`StorageUnused`).
-/

namespace ClusterAdmission.Policy

variable {view : View} {prober : Prober} {space name : String}

/-- Every storage of a namespace with the location of a storage is known by the same name. -/
def LocationFree (view : View) (space : String) (s : BackupStorage) : Prop :=
  ∃ existing : List BackupStorage, view (.storages space) = .ok existing ∧
    ∀ other ∈ existing, other.spec.location = s.spec.location → other.name = s.name

/-- No cluster of a namespace refers to a storage. -/
def StorageUnused (view : View) (space name : String) : Prop :=
  ∃ clusters : List DatabaseCluster, view (.clusters (some space)) = .ok clusters ∧
    ∀ c ∈ clusters, name ∉ c.spec.referencedStorages

theorem storageFields_ok {s : BackupStorage}
    (h : (storageFields space s).run view prober = .ok ()) : LocationFree view space s := by
  obtain ⟨existing, hexisting, hrest⟩ := Check.run_bind_eq_ok.1 h
  obtain ⟨_, hfree, -⟩ := Check.run_bind_eq_ok.1 hrest
  have hnone : Rules.duplicate? s existing = none := by simpa using hfree
  refine ⟨existing, Check.run_get_eq_ok.1 hexisting, fun other hother hlocation => ?_⟩
  by_contra hname
  exact List.find?_eq_none.1 hnone other hother (by simp [hname, hlocation])

theorem unused_ok {v : Violation} (h : (do
      let used ← isStorageUsed space name
      Check.require (!used) v : Check Unit).run view prober = .ok ()) :
    StorageUnused view space name := by
  simp only [isStorageUsed, List.contains_eq_mem, Check.run_bind_eq_ok, Check.run_pure,
    Except.ok.injEq, Check.run_require_eq_ok, Bool.not_eq_eq_eq_not, Bool.not_true,
    exists_eq_right, List.any_eq_false, decide_eq_true_eq] at h
  obtain ⟨clusters, hclusters, hunused⟩ := h
  exact ⟨clusters, Check.run_get_eq_ok.1 hclusters, hunused⟩

theorem storageDelete_ok (h : (storageDelete space name).run view prober = .ok ()) :
    StorageUnused view space name :=
  unused_ok h

theorem storageCreate_ok {r : NewStorage} (h : (storageCreate r).run view prober = .ok ()) :
    LocationFree view r.storage.space r.storage := by
  obtain ⟨_, hfields, -⟩ := Check.run_bind_eq_ok.1 h
  exact storageFields_ok hfields

theorem changedField_eq_none {old new : BackupStorageSpec} :
    changedField old new = none ↔ new.bucket = old.bucket ∧ new.region = old.region := by
  unfold changedField
  split
  · simp_all
  · split <;> simp_all

/-- An update that changes the bucket or the region is one of an unused storage. -/
theorem storageUpdate_ok {u : StorageUpdate} (h : (storageUpdate u).run view prober = .ok ()) :
    ∃ current : BackupStorage, view (.storage u.space u.name) = .ok current ∧
      LocationFree view u.space (u.apply current) ∧
      ((u.applySpec current.spec).bucket = current.spec.bucket ∧
          (u.applySpec current.spec).region = current.spec.region ∨
        StorageUnused view u.space u.name) := by
  obtain ⟨current, hcurrent, hrest⟩ := Check.run_bind_eq_ok.1 h
  obtain ⟨_, hfields, hrest'⟩ := Check.run_bind_eq_ok.1 hrest
  obtain ⟨_, hunused, -⟩ := Check.run_bind_eq_ok.1 hrest'
  refine ⟨current, Check.run_get_eq_ok.1 hcurrent, storageFields_ok hfields, ?_⟩
  cases hfield : changedField current.spec (u.apply current).spec with
  | none => exact .inl (changedField_eq_none.1 hfield)
  | some field =>
    rw [hfield] at hunused
    exact .inr (unused_ok hunused)

end ClusterAdmission.Policy
