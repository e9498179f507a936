import ClusterAdmission.Proofs.Check.Program
import ClusterAdmission.Proofs.Names

/-!
# What rules decide

A rule passes exactly what has a property, and where it does not pass it names one of a few
violations (`Rules.Decides`). What a rule of several parts decides is put together from its parts in
the order in which it looks at them (`Rules.Decides.bind`).
-/

namespace ClusterAdmission

namespace Rules

/-- A verdict passes if and only if a property holds, and names one of the violations if not. -/
structure Decides (v : Verdict) (P : Prop) (violations : List Violation) : Prop where
  ok_iff : v = .ok () ↔ P
  mem_of_error {w : Violation} : v = .error w → w ∈ violations

namespace Decides

variable {v : Verdict} {P Q : Prop} {violations more : List Violation} {ok : Bool} {w : Violation}

theorem pass : Decides (.ok ()) True violations := ⟨by simp, nofun⟩

theorem require (hok : ok = true ↔ P) (hw : w ∈ violations) :
    Decides (Rules.require ok w) P violations where
  ok_iff := require_eq_ok.trans hok
  mem_of_error herror := by
    obtain ⟨-, rfl⟩ := require_eq_error.1 herror
    exact hw

theorem congr (h : Decides v P violations) (hPQ : P ↔ Q) : Decides v Q violations :=
  ⟨h.ok_iff.trans hPQ, h.mem_of_error⟩

/-- A rule after a value that may be missing. -/
theorem bind_value {α : Type} {x : Except Violation α} {k : α → Verdict} {S R : α → Prop}
    (hvalue : ∀ a, x = .ok a ↔ S a) (herror : ∀ w, x = .error w → w ∈ violations)
    (hk : ∀ a, S a → Decides (k a) (R a) violations) :
    Decides (x >>= k) (∃ a, S a ∧ R a) violations where
  ok_iff := by
    cases x with
    | ok a =>
      simp only [← hvalue, Except.ok.injEq]
      rw [exists_eq_left']
      exact (hk a ((hvalue a).1 rfl)).ok_iff
    | error w =>
      simp only [← hvalue]
      exact iff_of_false nofun nofun
  mem_of_error {w} hrun := by
    cases x with
    | ok a => exact (hk a ((hvalue a).1 rfl)).mem_of_error hrun
    | error w' =>
      cases hrun
      exact herror w rfl

/-- One rule after another: the second is asked where the first has passed. -/
theorem bind {k : Unit → Verdict} (hv : Decides v P violations)
    (hk : P → Decides (k ()) Q violations) : Decides (v >>= k) (P ∧ Q) violations := by
  refine (bind_value (fun _ => hv.ok_iff) (fun _ => hv.mem_of_error) fun _ => hk).congr ?_
  exact exists_const Unit

theorem mono (h : Decides v P violations) (hsub : violations ⊆ more) : Decides v P more :=
  ⟨h.ok_iff, fun herror => hsub (h.mem_of_error herror)⟩

end Decides

theorem shortLabel_decides (name : String) (max : Nat) :
    Decides (shortLabel name max) (Names.Label name ∧ name.utf8ByteSize ≤ max)
      [.invalidName name, .nameTooLong name max] :=
  .bind (.require Names.isLabel_iff (by simp)) fun _ => .require (by simp) (by simp)

end Rules

end ClusterAdmission
