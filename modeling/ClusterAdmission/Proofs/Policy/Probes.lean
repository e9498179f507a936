import ClusterAdmission.Proofs.Policy.Strict

/-!
# What the checks of storages probe

A check of a new or of an updated storage that passes has made one probe: of the storage as it is to
be, with the credentials as they are to be, which are complete. Everything before that probe only
reads (`Check.Silent`).
-/

namespace ClusterAdmission

namespace Check

variable {α β : Type} {view : View} {prober : Prober} {c : Check α}

/-- Whatever the view shows, no probe is made. -/
def Silent (view : View) (prober : Prober) (c : Check α) : Prop := c.probes view prober = []

theorem probes_bind (c : Check α) (k : α → Check β) :
    (c >>= k).probes view prober = c.probes view prober ++
      match c.run view prober with
      | .ok a => (k a).probes view prober
      | .error _ => [] := by
  change (c.bind k).probes view prober = _
  induction c with
  | done a => rfl
  | fail f => rfl
  | read r next ih => exact ih (view r)
  | probe call next ih => exact congrArg (call :: ·) (ih (prober call))

/-- After a check that passes silently, what follows makes all the probes. -/
theorem Silent.probes_bind {k : α → Check β} {a : α} (hc : c.Silent view prober)
    (ha : c.run view prober = .ok a) :
    (c >>= k).probes view prober = (k a).probes view prober := by
  rw [Check.probes_bind, hc, ha, List.nil_append]

/-- A strict check that only reads makes no probe. -/
theorem Strict.silent (hc : c.Strict (Step.IsRead fun _ => True)) : c.Silent view prober := by
  unfold Silent
  induction c with
  | done a => rfl
  | fail f => rfl
  | read r next ih =>
    obtain ⟨⟨missing, -, hfail⟩, hnext⟩ := hc
    rw [probes]
    cases view r with
    | ok a => exact ih _ (hnext a)
    | error f =>
      rw [hfail]
      rfl
  | probe call next ih => exact hc.1.elim

end Check

namespace Policy

open Check (Silent strict_get strict_require)

variable {view : View} {prober : Prober}

/-- A check has probed a storage with credentials that are complete, once, and they are accepted. -/
structure Probed (view : View) (prober : Prober) (c : Check Unit) (call : ProbeCall) : Prop where
  probes : c.probes view prober = [call]
  accepted : prober call = .accepted
  complete : call.credentials.accessKey ≠ "" ∧ call.credentials.secretKey ≠ ""

theorem acceptedCredentials_ok {s : BackupStorage} {c : StorageCredentials}
    (h : (acceptedCredentials s c).run view prober = .ok ()) :
    Probed view prober (acceptedCredentials s c) ⟨s, c⟩ := by
  obtain ⟨_, hrequire, hprobe⟩ := Check.run_bind_eq_ok.1 h
  have hcomplete : c.isComplete = true := Check.run_require_eq_ok.1 hrequire
  have haccepted : prober ⟨s, c⟩ = .accepted := by
    cases houtcome : prober ⟨s, c⟩ with
    | accepted => rfl
    | failed | late => simp [Check.mustAccept, Check.run, houtcome] at hprobe
  refine ⟨?_, haccepted, by simpa [StorageCredentials.isComplete] using hcomplete⟩
  rw [acceptedCredentials, (strict_require _ _).silent.probes_bind hrequire]
  simp [Check.mustAccept, Check.probes, haccepted]

/-- Silent steps before a check add no probe. -/
theorem Probed.after {α : Type} {c : Check α} {k : α → Check Unit} {a : α} {call : ProbeCall}
    (hc : c.Silent view prober) (ha : c.run view prober = .ok a)
    (h : Probed view prober (k a) call) : Probed view prober (c >>= k) call :=
  ⟨(hc.probes_bind ha).trans h.probes, h.accepted, h.complete⟩

/-- A new storage that passes has been probed as it is submitted. -/
theorem storageCreate_probed {r : NewStorage} (h : (storageCreate r).run view prober = .ok ()) :
    Probed view prober (storageCreate r) ⟨r.storage, r.credentials⟩ := by
  obtain ⟨_, hfields, haccepted⟩ := Check.run_bind_eq_ok.1 h
  exact .after (strict_storageFields fun _ _ => trivial).silent hfields
    (acceptedCredentials_ok haccepted)

/-- An update of a storage that passes has probed the updated storage, with the credentials of the
update laid over those in the secret of the stored one. -/
theorem storageUpdate_probed {u : StorageUpdate} (h : (storageUpdate u).run view prober = .ok ()) :
    ∃ (current : BackupStorage) (stored : SecretData),
      view (.storage u.space u.name) = .ok current ∧
      view (.secret u.space current.spec.credentialsSecretName) = .ok stored ∧
      Probed view prober (storageUpdate u)
        ⟨u.apply current, u.applyCredentials (.ofSecret current.spec.storageType stored)⟩ := by
  obtain ⟨current, hcurrent, hrest⟩ := Check.run_bind_eq_ok.1 h
  obtain ⟨_, hfields, hrest'⟩ := Check.run_bind_eq_ok.1 hrest
  obtain ⟨_, hunused, hlast⟩ := Check.run_bind_eq_ok.1 hrest'
  obtain ⟨stored, hstored, haccepted⟩ := Check.run_bind_eq_ok.1 hlast
  refine ⟨current, stored, Check.run_get_eq_ok.1 hcurrent, Check.run_get_eq_ok.1 hstored, ?_⟩
  refine .after (strict_get trivial).silent hcurrent ?_
  refine .after (strict_storageFields fun _ _ => trivial).silent hfields ?_
  refine .after (strict_changeUnused fun _ _ => trivial).silent hunused ?_
  exact .after (strict_get trivial).silent hstored (acceptedCredentials_ok haccepted)

end Policy

end ClusterAdmission
