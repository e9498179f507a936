import ClusterAdmission.Proofs.Chain.ProbedStorages
import ClusterAdmission.Proofs.Operation.SecretTexts

/-!
# The keys of storages stay secret

The keys of a storage are asked for completeness, handed to a probe and put into a secret, and
show nowhere else: two requests that differ in the keys alone cannot be told apart by their answers,
by the metrics or by the other objects (`credentials_stay_secret`). The check looks at the keys
through their completeness and the verdict of the probe only (`Policy.acceptedCredentials_alike`);
what a failed probe reports is dropped.
-/

namespace ClusterAdmission

open Api (Program serveUnder secretPlace)

/-! ## Checks -/

/-- The credentials of two probes are complete, and either both are accepted or neither is. What
the probes report may differ. -/
structure ProbedAlike (prober prober' : Prober) (call call' : ProbeCall) : Prop where
  complete : call.credentials.isComplete
  complete' : call'.credentials.isComplete
  verdict : (prober' call').isAccepted = (prober call).isAccepted

namespace Policy

open Check (strict_get)

variable {view : View} {prober prober' : Prober}

theorem run_mustAccept (s : BackupStorage) (c : StorageCredentials) :
    (Check.mustAccept s c).run view prober =
      if (prober ⟨s, c⟩).isAccepted then .ok () else .error (.dependency .storageUnreachable) := by
  rw [Check.mustAccept, Check.run]
  cases prober ⟨s, c⟩ <;> rfl

theorem acceptedCredentials_alike {s s' : BackupStorage} {c c' : StorageCredentials}
    (h : ProbedAlike prober prober' ⟨s, c⟩ ⟨s', c'⟩) :
    (acceptedCredentials s' c').run view prober' = (acceptedCredentials s c).run view prober := by
  refine Check.run_bind_congr ?_ fun _ _ => ?_
  · rw [Check.run_require, Check.run_require, h.complete, h.complete']
  · rw [run_mustAccept, run_mustAccept, h.verdict]

theorem storageCreate_alike {r r' : NewStorage} (hmasked : r.masked = r'.masked)
    (h : ProbedAlike prober prober' ⟨r.storage, r.credentials⟩ ⟨r'.storage, r'.credentials⟩) :
    (storageCreate r').run view prober' = (storageCreate r).run view prober := by
  obtain ⟨credentials, rfl⟩ := NewStorage.eq_of_masked hmasked
  exact Check.run_bind_congr (strict_storageFields fun _ _ => trivial).run_prober fun _ _ =>
    acceptedCredentials_alike h

theorem storageUpdate_alike {u u' : StorageUpdate} (hmasked : u.masked = u'.masked)
    (h : ∀ (current : BackupStorage) (data : SecretData),
      view (.storage u.space u.name) = .ok current →
      view (.secret u.space current.spec.credentialsSecretName) = .ok data →
      ProbedAlike prober prober'
        ⟨u.apply current, u.applyCredentials (.ofSecret current.spec.storageType data)⟩
        ⟨u'.apply current, u'.applyCredentials (.ofSecret current.spec.storageType data)⟩) :
    (storageUpdate u').run view prober' = (storageUpdate u).run view prober := by
  obtain ⟨accessKey, secretKey, rfl, -⟩ := StorageUpdate.eq_of_masked hmasked
  refine Check.run_bind_congr (strict_get trivial).run_prober fun current hcurrent => ?_
  refine Check.run_bind_congr (strict_storageFields fun _ _ => trivial).run_prober fun _ _ => ?_
  refine Check.run_bind_congr (strict_changeUnused fun _ _ => trivial).run_prober fun _ _ => ?_
  refine Check.run_bind_congr (strict_get trivial).run_prober fun data hdata => ?_
  rw [Check.run_get] at hcurrent hdata
  exact acceptedCredentials_alike (h current data hcurrent hdata)

end Policy

/-! ## Replies -/

namespace Chain

/-- Two replies show the same, but for what is kept at exempt places. -/
structure Reply.SameBut {α : Type} (exempt : Place → Prop) (reply reply' : Reply α) : Prop where
  answer : reply'.answer = reply.answer
  metrics : reply'.state.metrics = reply.state.metrics
  store : reply.state.store.SameBut exempt reply'.state.store

/-- Two requests whose checks run alike and whose operations are alike are answered alike, are
counted alike and leave stores that are alike. -/
theorem handle_alike (p : Policies) (context : Context) (op op' : Operation)
    {faults : List Api.Fault} {prober prober' : Prober} {s : State} {check check' : Check Unit}
    {V : op.Result → op'.Result → Prop} {exempt : Place → Prop}
    (hrun : check'.run (View.through (serveUnder faults) s.store) prober' =
      check.run (View.through (serveUnder faults) s.store) prober)
    (hperform : Program.Alike (serveUnder faults) (Store.SameBut exempt) V op.perform s.store
      op'.perform s.store)
    (hpolicy : op.policy p = some check) (hpolicy' : op'.policy p = some check')
    (hname : op'.name = op.name) :
    let reply := { standard p prober with faults }.handle context op s
    let reply' := { standard p prober' with faults }.handle context op' s
    Api.AlikeAnswers V reply.answer reply'.answer ∧ reply'.state.metrics = reply.state.metrics ∧
      reply.state.store.SameBut exempt reply'.state.store := by
  let r : Submission := ⟨op, context, prober, faults⟩
  let r' : Submission := ⟨op', context, prober', faults⟩
  change let reply := (r.chain p).handle context op s
    let reply' := (r'.chain p).handle context op' s
    Api.AlikeAnswers V reply.answer reply'.answer ∧ reply'.state.metrics = reply.state.metrics ∧
      reply.state.store.SameBut exempt reply'.state.store
  intro reply reply'
  cases hcheck : check.run (View.through (serveUnder faults) s.store) prober with
  | error f =>
    have hreply : reply = _ := handle_of_failed rfl hpolicy hcheck
    have hreply' : reply' = _ := handle_of_failed rfl hpolicy' (hrun.trans hcheck)
    rw [hreply, hreply', hname]
    exact ⟨.error f, rfl, .refl exempt s.store⟩
  | ok _ =>
    have hadmitted : r.Admitted p s.store := .of_check hpolicy hcheck
    have hadmitted' : r'.Admitted p s.store := .of_check hpolicy' (hrun.trans hcheck)
    have hanswer : reply.answer = _ := Submission.answer_of_admitted hadmitted
    have hanswer' : reply'.answer = _ := Submission.answer_of_admitted hadmitted'
    have hstore : reply.state.store = _ := Submission.store_after_of_admitted hadmitted
    have hstore' : reply'.state.store = _ := Submission.store_after_of_admitted hadmitted'
    have hmetrics : reply.state.metrics = _ := metrics_handle context s rfl hpolicy
    have hmetrics' : reply'.state.metrics = _ := metrics_handle context s rfl hpolicy'
    rw [hanswer, hanswer', hstore, hstore', hmetrics, hmetrics', hname]
    exact ⟨hperform.answer, congrArg (s.metrics.addAnswer op.name · checkSeconds) hrun,
      hperform.state⟩

end Chain

/-- The keys of a storage show nowhere but in its secret. Two creations that differ in their keys
alone, or two updates that give the same keys with other values, are answered alike, are counted
alike and leave the same objects everywhere else, as long as the credentials that are probed are
complete and both probes are accepted or neither is. Nothing of what a failed probe reports shows
either. -/
theorem credentials_stay_secret (p : Policies) (context : Context) (faults : List Api.Fault)
    (prober prober' : Prober) (s : Chain.State) :
    let c : Chain := { Chain.standard p prober with faults }
    let c' : Chain := { Chain.standard p prober' with faults }
    let view := View.through c.serve s.store
    (∀ r r' : NewStorage, r.masked = r'.masked →
      ProbedAlike prober prober' ⟨r.storage, r.credentials⟩ ⟨r'.storage, r'.credentials⟩ →
      (c.handle context (.createStorage r) s).SameBut
        (fun q => q = SecretLink.storage.secretOf (SecretLink.storage.filled r.storage))
        (c'.handle context (.createStorage r') s)) ∧
    ∀ u u' : StorageUpdate, u.masked = u'.masked →
      (∀ (current : BackupStorage) (data : SecretData),
        view (.storage u.space u.name) = .ok current →
        view (.secret u.space current.spec.credentialsSecretName) = .ok data →
        ProbedAlike prober prober'
          ⟨u.apply current, u.applyCredentials (.ofSecret current.spec.storageType data)⟩
          ⟨u'.apply current, u'.applyCredentials (.ofSecret current.spec.storageType data)⟩) →
      (c.handle context (.updateStorage u) s).SameBut
        (fun q => ∃ current : BackupStorage, view (.storage u.space u.name) = .ok current ∧
          q = secretPlace u.space current.spec.credentialsSecretName)
        (c'.handle context (.updateStorage u') s) := by
  intro c c' view
  constructor
  · intro r r' hmasked hprobed
    obtain ⟨hanswer, hmetrics, hstore⟩ := Chain.handle_alike p context
      (.createStorage r) (.createStorage r') (Policy.storageCreate_alike hmasked hprobed)
      (Operation.createStorage_alike hmasked s.store) rfl rfl rfl
    exact ⟨(Api.alikeAnswers_eq_iff.1 hanswer).symm, hmetrics, hstore⟩
  · intro u u' hmasked hprobed
    obtain ⟨hanswer, hmetrics, hstore⟩ := Chain.handle_alike p context
      (.updateStorage u) (.updateStorage u') (Policy.storageUpdate_alike hmasked hprobed)
      (Operation.updateStorage_alike hmasked s.store) rfl rfl rfl
    exact ⟨(Api.alikeAnswers_eq_iff.1 hanswer).symm, hmetrics, hstore⟩

namespace Sample

/-- A provider that knows one account, and repeats the secret key of any other. -/
def repeating : Prober := fun call =>
  if call.credentials.accessKey = "user" then .accepted
  else .failed (.rejected call.credentials.secretKey)

/-- A new storage under an account that the provider does not know. -/
def unknown (secretKey : String) : NewStorage :=
  { storage with credentials := { accessKey := "stranger", secretKey } }

/-- A new secret key for the storage. -/
def rotationTo (secretKey : String) : StorageUpdate := { rotation with secretKey := some secretKey }

/-- Two new secret keys for the storage are both accepted, since its account is known. -/
theorem probedAlike_rotationTo {current : BackupStorage} {data : SecretData}
    (hcurrent : View.through (serveUnder []) stocked.store (.storage "ns" "s3") = .ok current)
    (hdata : View.through (serveUnder []) stocked.store
      (.secret "ns" current.spec.credentialsSecretName) = .ok data) :
    ProbedAlike repeating repeating
      ⟨(rotationTo "one").apply current,
        (rotationTo "one").applyCredentials (.ofSecret current.spec.storageType data)⟩
      ⟨(rotationTo "two").apply current,
        (rotationTo "two").applyCredentials (.ofSecret current.spec.storageType data)⟩ := by
  have hstored : View.through (serveUnder []) stocked.store (.storage "ns" "s3") =
      .ok (SecretLink.storage.filled storage.storage) := by
    decide +kernel
  obtain rfl := Except.ok.inj (hcurrent.symm.trans hstored)
  have hsecret : View.through (serveUnder []) stocked.store (.secret "ns" "s3") =
      .ok (StorageCredentials.secretData .s3 (some "user") (some "key")) := by
    decide +kernel
  obtain rfl := Except.ok.inj (hdata.symm.trans hsecret)
  exact ⟨by decide +kernel, by decide +kernel, by decide +kernel⟩

end Sample

/-- Two creations that the provider refuses with their secret keys, and two updates that go
through. -/
theorem credentials_stay_secret_of_sample :
    let c := { Chain.standard .default Sample.repeating with faults := [] }
    (c.handle {} (.createStorage (Sample.unknown "one")) Sample.platform).SameBut
        (fun q => q = SecretLink.storage.secretOf
          (SecretLink.storage.filled (Sample.unknown "one").storage))
        (c.handle {} (.createStorage (Sample.unknown "two")) Sample.platform) ∧
      (c.handle {} (.updateStorage (Sample.rotationTo "one")) Sample.stocked).SameBut
        (fun q => ∃ current : BackupStorage,
          View.through c.serve Sample.stocked.store (.storage "ns" "s3") = .ok current ∧
          q = secretPlace "ns" current.spec.credentialsSecretName)
        (c.handle {} (.updateStorage (Sample.rotationTo "two")) Sample.stocked) ∧
      (c.handle {} (.createStorage (Sample.unknown "one")) Sample.platform).answer =
        .error (.dependency .storageUnreachable) ∧
      (c.handle {} (.updateStorage (Sample.rotationTo "one")) Sample.stocked).answer.isOk := by
  have hcreate := (credentials_stay_secret .default {} [] Sample.repeating Sample.repeating
    Sample.platform).1 (Sample.unknown "one") (Sample.unknown "two") rfl
    ⟨by decide, by decide, by decide⟩
  have hupdate := (credentials_stay_secret .default {} [] Sample.repeating Sample.repeating
    Sample.stocked).2 (Sample.rotationTo "one") (Sample.rotationTo "two") rfl
    fun _ _ => Sample.probedAlike_rotationTo
  exact ⟨hcreate, hupdate, by decide +kernel, by decide +kernel⟩

end ClusterAdmission
