import ClusterAdmission.Proofs.Check.Strict

/-!
# Checks under views that answer more

A check that ends at a failed read and makes no probe passes under every view that answers what the
first one has answered (`Check.Strict.run_of_extends`). It runs alike under views that agree on what
it reads (`Check.Strict.run_of_agrees`), and under all probers (`Check.Strict.run_prober`). How a
whole check fares when the store changes elsewhere then needs no look at its rules.
-/

namespace ClusterAdmission

/-- A read of other things than clusters. -/
def Read.OfOthers : Read → Prop
  | .cluster .. | .clusters _ => False
  | _ => True

/-- A read of one object that is no cluster. -/
def Read.OfObject : Read → Prop
  | .storages _ | .backups .. => False
  | r => r.OfOthers

theorem Read.OfObject.ofOthers {r : Read} (h : r.OfObject) : r.OfOthers := by
  cases r with
  | storages | backups => trivial
  | _ => exact h

/-- Of some reads, a second view answers at least what the first one answers. -/
def View.Extends (of : Read → Prop) (view view' : View) : Prop :=
  ∀ r, of r → ∀ a, view r = .ok a → view' r = .ok a

namespace Check

variable {α : Type} {of : Read → Prop} {view view' : View} {prober prober' : Prober} {c : Check α}
  {a : α}

/-- A read of some things, and no probe. -/
def Step.IsRead (of : Read → Prop) : Step → Prop
  | .read r _ => of r
  | .probe _ => False

/-- A strict check that passes does so, with the same value, under every view that extends the one
it has passed under. -/
theorem Strict.run_of_extends (hc : c.Strict (Step.IsRead of)) (hext : view.Extends of view')
    (h : c.run view prober = .ok a) : c.run view' prober' = .ok a := by
  induction c with
  | done b => exact h
  | fail f => exact h
  | read r next ih =>
    obtain ⟨⟨missing, hr, hfail⟩, hnext⟩ := hc
    rw [run] at h ⊢
    cases hview : view r with
    | ok b =>
      rw [hview] at h
      rw [hext r hr b hview]
      exact ih _ (hnext b) h
    | error f =>
      rw [hview, hfail] at h
      cases h
  | probe call next ih => exact hc.1.elim

/-- A check makes the same of the same answers. -/
theorem Strict.run_of_agrees (hc : c.Strict (Step.IsRead of))
    (hagrees : ∀ r, of r → view' r = view r) : c.run view' prober' = c.run view prober := by
  induction c with
  | done b => rfl
  | fail f => rfl
  | read r next ih =>
    obtain ⟨⟨missing, hr, hfail⟩, hnext⟩ := hc
    rw [run, run, hagrees r hr]
    cases view r with
    | ok b => exact ih _ (hnext b)
    | error f =>
      rw [hfail]
      rfl
  | probe call next ih => exact hc.1.elim

/-- Without a probe it does not matter how probes end. -/
theorem Strict.run_prober (hc : c.Strict (Step.IsRead fun _ => True)) :
    c.run view prober' = c.run view prober :=
  hc.run_of_agrees fun _ _ => rfl

end Check

end ClusterAdmission
