import ClusterAdmission.Metrics
import ClusterAdmission.Proofs.SortedMap

/-!
# Accounts

The metrics account for a list of answered checks (`Metrics.Accounts`) if every check is counted
once by operation and outcome, once in the histogram of its operation and, if it rejects, once by
its reason. One more answer keeps the account (`Metrics.Accounts.addAnswer`).
-/

namespace ClusterAdmission

/-- The reason for which a check rejects, if it does. -/
def rejectedFor? : Except Failure Unit → Option String
  | .error (.rejected v) => some v.reason
  | _ => none

theorem Histogram.count_observe (h : Histogram) (seconds : Binary64) :
    (h.observe seconds).count = h.count + 1 := rfl

namespace Tally

/-- The checks of all outcomes. -/
def all (t : Tally) : Nat := t.admitted + t.rejected + t.failed

theorem all_add (t : Tally) (o : Outcome) : (t.add o).all = t.all + 1 := by
  cases o <;> simp only [all, add] <;> omega

end Tally

namespace Metrics

/-- The metrics count every answer of a check, once, and nothing else. -/
structure Accounts (m : Metrics) (answers : List (String × Except Failure Unit)) : Prop where
  validations (operation : String) (o : Outcome) : (m.tally operation).count o =
    answers.countP fun a => a.1 = operation ∧ .ofAnswer a.2 = o
  durations (operation : String) : (m.histogram operation).count = (m.tally operation).all
  rejections (reason : String) : m.rejectionCount reason =
    answers.countP fun a => rejectedFor? a.2 = some reason
  /-- Rejections are counted twice, by reason and by operation. -/
  conserved : m.rejections.total id = m.validations.total Tally.rejected

/-! ## One more answer -/

variable {m : Metrics} {operation other : String} {answer : Except Failure Unit} {o : Outcome}
  {seconds : Binary64} {answers : List (String × Except Failure Unit)}

theorem tally_add (m : Metrics) (operation : String) (o : Outcome) (seconds : Binary64) :
    (m.add operation o seconds).tally operation = (m.tally operation).add o := by
  rw [tally, add, SortedMap.get?_insert_self, Option.getD_some]

theorem tally_add_of_ne (h : other ≠ operation) :
    (m.add operation o seconds).tally other = m.tally other := by
  rw [tally, add, SortedMap.get?_insert_of_ne _ _ h, tally]

theorem histogram_add (m : Metrics) (operation : String) (o : Outcome) (seconds : Binary64) :
    (m.add operation o seconds).histogram operation =
      (m.histogram operation).observe seconds := by
  rw [histogram, add, SortedMap.get?_insert_self, Option.getD_some]

theorem histogram_add_of_ne (h : other ≠ operation) :
    (m.add operation o seconds).histogram other = m.histogram other := by
  rw [histogram, add, SortedMap.get?_insert_of_ne _ _ h, histogram]

/-- An outcome is one more in the sum over all operations, if it is counted there. -/
theorem total_validations_add (m : Metrics) (operation : String) (o o' : Outcome)
    (seconds : Binary64) :
    (m.add operation o seconds).validations.total (·.count o') =
      m.validations.total (·.count o') + if o = o' then 1 else 0 := by
  have hsum := m.validations.total_insert (·.count o') operation ((m.tally operation).add o)
  have hold : ((m.validations.get? operation).map (·.count o')).getD 0 =
      (m.tally operation).count o' := by
    rw [tally]
    cases m.validations.get? operation with
    | none => cases o' <;> rfl
    | some t => rfl
  rw [hold, Tally.count_add] at hsum
  simp only [add]
  omega

theorem total_rejections_addRejection (m : Metrics) (reason : String) :
    (m.addRejection reason).rejections.total id = m.rejections.total id + 1 := by
  have hsum := m.rejections.total_insert id reason (m.rejectionCount reason + 1)
  have hold : ((m.rejections.get? reason).map id).getD 0 = m.rejectionCount reason := by
    rw [Option.map_id, id_eq, rejectionCount]
  rw [hold, id_eq] at hsum
  simp only [addRejection]
  omega

theorem rejectionCount_addRejection (m : Metrics) (reason reason' : String) :
    (m.addRejection reason).rejectionCount reason' =
      m.rejectionCount reason' + if reason = reason' then 1 else 0 := by
  by_cases h : reason' = reason
  · rw [h, rejectionCount, addRejection, SortedMap.get?_insert_self, Option.getD_some, if_pos rfl]
  · rw [rejectionCount, addRejection, SortedMap.get?_insert_of_ne _ _ h, if_neg fun h' => h h'.symm]
    rfl

theorem rejectionCount_add (m : Metrics) (operation : String) (o : Outcome) (seconds : Binary64)
    (reason : String) :
    (m.add operation o seconds).rejectionCount reason = m.rejectionCount reason := rfl

/-- A rejection is counted by its reason before the check is counted. -/
theorem addAnswer_eq (m : Metrics) (operation : String) (answer : Except Failure Unit)
    (seconds : Binary64) : m.addAnswer operation answer seconds =
      ((rejectedFor? answer).elim m m.addRejection).add operation (.ofAnswer answer) seconds := by
  cases answer with
  | ok _ => rfl
  | error f => cases f <;> rfl

theorem tally_elim_addRejection (reason? : Option String) :
    (reason?.elim m m.addRejection).tally operation = m.tally operation := by
  cases reason? <;> rfl

theorem histogram_elim_addRejection (reason? : Option String) :
    (reason?.elim m m.addRejection).histogram operation = m.histogram operation := by
  cases reason? <;> rfl

/-- What a check answers is counted for its operation. -/
theorem tally_addAnswer (m : Metrics) (operation : String) (answer : Except Failure Unit)
    (seconds : Binary64) : (m.addAnswer operation answer seconds).tally operation =
      (m.tally operation).add (.ofAnswer answer) := by
  rw [addAnswer_eq, tally_add, tally_elim_addRejection]

theorem rejectedFor?_isSome (answer : Except Failure Unit) :
    (rejectedFor? answer).isSome = true ↔ .ofAnswer answer = Outcome.rejected := by
  cases answer with
  | ok _ => simp [rejectedFor?, Outcome.ofAnswer]
  | error f => cases f <;> simp [rejectedFor?, Outcome.ofAnswer]

namespace Accounts

theorem fresh : Accounts {} [] where
  validations _ o := by cases o <;> rfl
  durations _ := rfl
  rejections _ := rfl
  conserved := rfl

theorem addAnswer (h : m.Accounts answers) (operation : String) (answer : Except Failure Unit)
    (seconds : Binary64) :
    (m.addAnswer operation answer seconds).Accounts (answers ++ [(operation, answer)]) where
  validations other o := by
    rw [List.countP_append, List.countP_singleton, addAnswer_eq]
    by_cases heq : other = operation
    · rw [heq, tally_add, Tally.count_add, tally_elim_addRejection, h.validations]
      simp
    · rw [tally_add_of_ne heq, tally_elim_addRejection, h.validations]
      simp [Ne.symm heq]
  durations other := by
    rw [addAnswer_eq]
    by_cases heq : other = operation
    · rw [heq, histogram_add, Histogram.count_observe, tally_add, Tally.all_add,
        histogram_elim_addRejection, tally_elim_addRejection, h.durations]
    · rw [histogram_add_of_ne heq, tally_add_of_ne heq, histogram_elim_addRejection,
        tally_elim_addRejection, h.durations]
  rejections reason := by
    rw [List.countP_append, List.countP_singleton, addAnswer_eq, ← h.rejections]
    cases hreason : rejectedFor? answer with
    | none => rfl
    | some reason' =>
      rw [rejectionCount_add]
      simpa [hreason] using m.rejectionCount_addRejection reason' reason
  conserved := by
    -- A rejection adds one to both sums, another answer to neither.
    have htotal := total_validations_add ((rejectedFor? answer).elim m m.addRejection) operation
      (.ofAnswer answer) .rejected seconds
    have hrejected := rejectedFor?_isSome answer
    rw [addAnswer_eq]
    have hconserved := h.conserved
    cases hreason : rejectedFor? answer with
    | none =>
      have hne : Outcome.ofAnswer answer ≠ .rejected := by simpa [hreason] using hrejected
      rw [hreason, if_neg hne] at htotal
      exact hconserved.trans htotal.symm
    | some reason =>
      have heq : Outcome.ofAnswer answer = .rejected := by simpa [hreason] using hrejected
      rw [hreason, if_pos heq] at htotal
      calc (m.addRejection reason).rejections.total id
        _ = m.rejections.total id + 1 := m.total_rejections_addRejection reason
        _ = m.validations.total Tally.rejected + 1 := by rw [hconserved]
        _ = _ := htotal.symm

end Accounts

end Metrics

end ClusterAdmission
