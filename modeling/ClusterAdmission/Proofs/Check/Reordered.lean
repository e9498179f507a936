import ClusterAdmission.Metrics
import ClusterAdmission.Proofs.Api.TwoRuns
import ClusterAdmission.Proofs.Check.Monotone

/-!
# Checks under views with other list orders

Two runs concur (`Concur`) if they end with related values, or both with a rejection, or with one
failure; then they have one outcome (`Concur.outcome`). Checks concur if their parts do
(`Check.concur_bind`). Under views that give lists in different orders a check that reads no list
runs alike (`Check.run_of_reordered`).
-/

namespace ClusterAdmission

open Api (AlikeAnswers)

/-! ## Reordered views -/

/-- A read of a list. -/
def Read.IsList : Read → Prop
  | .clusters _ | .storages _ | .backups .. => True
  | _ => False

/-- Two answers to a read, the same but for the order of a list. -/
def Read.Reordered : (r : Read) → Except Failure r.Answer → Except Failure r.Answer → Prop
  | .clusters _, answer, answer' => AlikeAnswers List.Perm answer answer'
  | .storages _, answer, answer' => AlikeAnswers List.Perm answer answer'
  | .backups .., answer, answer' => AlikeAnswers List.Perm answer answer'
  | _, answer, answer' => answer' = answer

/-- Two views that give the same objects, lists in any order. -/
def View.Reordered (view view' : View) : Prop := ∀ r : Read, r.Reordered (view r) (view' r)

theorem View.Reordered.eq_of_not_isList {view view' : View} (h : view.Reordered view') {r : Read}
    (hr : ¬ r.IsList) : view' r = view r := by
  have hr' := h r
  cases r with
  | clusters | storages | backups => exact absurd trivial hr
  | _ => exact hr'

/-! ## Runs that concur -/

/-- Two runs end with related values, or both with a rejection, or with one failure. -/
inductive Concur {α β : Type} (V : α → β → Prop) : Except Failure α → Except Failure β → Prop
  | ok {a : α} {b : β} : V a b → Concur V (.ok a) (.ok b)
  | rejected (v w : Violation) : Concur V (.error (.rejected v)) (.error (.rejected w))
  | failed (f : Failure) : Concur V (.error f) (.error f)

namespace Concur

variable {α β : Type} {V : α → β → Prop}

theorem of_alike {a : Except Failure α} {b : Except Failure β} (h : AlikeAnswers V a b) :
    Concur V a b := by
  cases h with
  | ok hab => exact .ok hab
  | error f => exact .failed f

theorem of_eq {a b : Except Failure α} (h : b = a) : Concur Eq a b := by
  rw [h]
  cases a with
  | ok a => exact .ok rfl
  | error f => exact .failed f

/-- Which rejection it is makes no difference to the outcome. -/
theorem outcome {V : Unit → Unit → Prop} {a b : Except Failure Unit} (h : Concur V a b) :
    Outcome.ofAnswer b = Outcome.ofAnswer a := by
  cases h with
  | ok _ => rfl
  | rejected v w => rfl
  | failed f => rfl

end Concur

namespace Check

variable {α β γ δ : Type} {V : α → β → Prop} {W : γ → δ → Prop} {view view' : View}
  {prober : Prober}

/-- What follows concurs for values that are related. -/
theorem concur_bind {c : Check α} {c' : Check β} {k : α → Check γ} {k' : β → Check δ}
    (h : Concur V (c.run view prober) (c'.run view' prober))
    (hk : ∀ a b, V a b → Concur W ((k a).run view prober) ((k' b).run view' prober)) :
    Concur W ((c >>= k).run view prober) ((c' >>= k').run view' prober) := by
  rw [run_bind, run_bind]
  generalize c.run view prober = answer at h
  generalize c'.run view' prober = answer' at h
  cases h with
  | ok hab => exact hk _ _ hab
  | rejected v w => exact .rejected v w
  | failed f => exact .failed f

/-- What follows concurs for each value. -/
theorem concur_then {c c' : Check α} {k : α → Check γ} {k' : α → Check δ}
    (h : Concur Eq (c.run view prober) (c'.run view' prober))
    (hk : ∀ a, Concur W ((k a).run view prober) ((k' a).run view' prober)) :
    Concur W ((c >>= k).run view prober) ((c' >>= k').run view' prober) := by
  refine concur_bind h fun a b hab => ?_
  obtain rfl := hab
  exact hk a

theorem concur_ite {condition : Prop} [Decidable condition] {c d : Check α} {c' d' : Check β}
    (hc : Concur V (c.run view prober) (c'.run view' prober))
    (hd : Concur V (d.run view prober) (d'.run view' prober)) :
    Concur V ((if condition then c else d).run view prober)
      ((if condition then c' else d').run view' prober) := by
  split
  · exact hc
  · exact hd

theorem concur_pure (a : α) :
    Concur Eq ((pure a : Check α).run view prober) ((pure a : Check α).run view' prober) :=
  .ok rfl

theorem concur_rule {v v' : Verdict} (h : v' = .ok () ↔ v = .ok ()) :
    Concur Eq ((rule v).run view prober) ((rule v').run view' prober) := by
  cases v with
  | ok _ =>
    obtain rfl := h.2 rfl
    exact .ok rfl
  | error w =>
    cases v' with
    | ok _ => cases h.1 rfl
    | error w' => exact .rejected w w'

theorem concur_rule_self (v : Verdict) :
    Concur Eq ((rule v).run view prober) ((rule v).run view' prober) :=
  concur_rule Iff.rfl

theorem concur_require_self (ok : Bool) (v : Violation) :
    Concur Eq ((require ok v).run view prober) ((require ok v).run view' prober) :=
  concur_rule_self _

/-- Probes do not depend on the view. -/
theorem concur_mustAccept (storage : BackupStorage) (credentials : StorageCredentials) :
    Concur Eq ((mustAccept storage credentials).run view prober)
      ((mustAccept storage credentials).run view' prober) := by
  refine .of_eq ?_
  rw [mustAccept, run, run]
  cases prober ⟨storage, credentials⟩ <;> rfl

/-! ## Reads -/

theorem concur_get {r : Read} {V : r.Answer → r.Answer → Prop}
    (h : AlikeAnswers V (view r) (view' r)) :
    Concur V ((get r).run view prober) ((get r).run view' prober) := by
  rw [run_get, run_get]
  exact .of_alike h

variable (hview : view.Reordered view')

include hview

theorem run_of_reordered {c : Check α} (hc : c.Strict (Step.IsRead fun r => ¬ r.IsList)) :
    c.run view' prober = c.run view prober :=
  hc.run_of_agrees fun _ hr => hview.eq_of_not_isList hr

theorem concur_of_strict {c : Check α} (hc : c.Strict (Step.IsRead fun r => ¬ r.IsList)) :
    Concur Eq (c.run view prober) (c.run view' prober) :=
  .of_eq (run_of_reordered hview hc)

end Check

end ClusterAdmission
