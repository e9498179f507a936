import ClusterAdmission.Error
import ClusterAdmission.Probe
import ClusterAdmission.Rules

/-!
# Checks

A check decides about a request and may read the state of the platform and probe storages on the
way. It is a program over typed reads, so that what it reads can be seen: `run` gives its answer
under a view of the state, `reads` and `probes` what it asked for. A check cannot write.
-/

namespace ClusterAdmission

/-- A read of the state. -/
inductive Read where
  | cluster (space name : String)
  /-- The clusters of a namespace, or of all. -/
  | clusters (space : Option String)
  | engine (space : String) (engine : EngineType)
  | storage (space name : String)
  | storages (space : String)
  /-- The backups of a cluster. -/
  | backups (space cluster : String)
  | backup (space name : String)
  | loadBalancer (name : String)
  | monitoring (space name : String)
  | schedulingPolicy (name : String)
  | splitHorizon (space name : String)
  /-- The contents of a secret. -/
  | secret (space name : String)
  deriving DecidableEq, Repr

/-- What a read gives. -/
@[reducible] def Read.Answer : Read → Type
  | .cluster .. => DatabaseCluster
  | .clusters _ => List DatabaseCluster
  | .engine .. => DatabaseEngine
  | .storage .. => BackupStorage
  | .storages _ => List BackupStorage
  | .backups .. => List DatabaseClusterBackup
  | .backup .. => DatabaseClusterBackup
  | .loadBalancer _ => LoadBalancerConfig
  | .monitoring .. => MonitoringConfig
  | .schedulingPolicy _ => PodSchedulingPolicy
  | .splitHorizon .. => SplitHorizonDnsConfig
  | .secret .. => SecretData

/-- The answers to all reads. -/
abbrev View := (r : Read) → Except Failure r.Answer

/-- A program that reads and probes, and ends with a value or a failure. -/
inductive Check (α : Type) where
  | done (a : α)
  | fail (f : Failure)
  | read (r : Read) (next : Except Failure r.Answer → Check α)
  | probe (call : ProbeCall) (next : ProbeOutcome → Check α)

namespace Check

variable {α β : Type}

/-- Continues with the value of a check. -/
def bind : Check α → (α → Check β) → Check β
  | done a, k => k a
  | fail f, _ => fail f
  | read r next, k => read r fun answer => (next answer).bind k
  | probe call next, k => probe call fun outcome => (next outcome).bind k

instance : Monad Check where
  pure := done
  bind := bind

/-! ## Steps -/

/-- Applies a rule. -/
def rule : Verdict → Check Unit
  | .ok () => done ()
  | .error v => fail (.rejected v)

/-- Rejects unless `ok` holds. -/
def require (ok : Bool) (v : Violation) : Check Unit := rule (Rules.require ok v)

/-- A read whose failure fails the check. -/
def get (r : Read) : Check r.Answer :=
  .read r fun
    | .ok a => done a
    | .error f => fail f

/-- A read of an object that the request refers to: where it is missing, the request is rejected. -/
def getReferenced (r : Read) (missing : Violation) : Check r.Answer :=
  .read r fun
    | .ok a => done a
    | .error (.notFound _) => fail (.rejected missing)
    | .error f => fail f

/-- A probe that must succeed. The failure tells nothing of its cause. -/
def mustAccept (storage : BackupStorage) (credentials : StorageCredentials) : Check Unit :=
  .probe ⟨storage, credentials⟩ fun
    | .accepted => done ()
    | .failed _ | .late => fail (.dependency .storageUnreachable)

/-! ## Running -/

/-- The answer under a view and a prober. -/
def run (view : View) (prober : Prober) : Check α → Except Failure α
  | done a => .ok a
  | fail f => .error f
  | read r next => (next (view r)).run view prober
  | probe call next => (next (prober call)).run view prober

/-- The reads that are made, in order. -/
def reads (view : View) (prober : Prober) : Check α → List Read
  | done _ | fail _ => []
  | read r next => r :: (next (view r)).reads view prober
  | probe call next => (next (prober call)).reads view prober

/-- The probes that are made, in order. -/
def probes (view : View) (prober : Prober) : Check α → List ProbeCall
  | done _ | fail _ => []
  | read r next => (next (view r)).probes view prober
  | probe call next => call :: (next (prober call)).probes view prober

@[simp] theorem run_pure (view : View) (prober : Prober) (a : α) :
    (pure a : Check α).run view prober = .ok a := rfl

/-- Running one check after another. -/
theorem run_bind (view : View) (prober : Prober) (c : Check α) (k : α → Check β) :
    (c >>= k).run view prober =
      match c.run view prober with
      | .ok a => (k a).run view prober
      | .error f => .error f := by
  change (c.bind k).run view prober = _
  induction c with
  | done a => rfl
  | fail f => rfl
  | read r next ih => exact ih (view r)
  | probe call next ih => exact ih (prober call)

/-- A rule answers without reading. -/
theorem run_rule (view : View) (prober : Prober) (v : Verdict) :
    (rule v).run view prober =
      match v with
      | .ok () => .ok ()
      | .error w => .error (.rejected w) := by
  cases v <;> rfl

end Check

end ClusterAdmission
