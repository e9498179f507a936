import ClusterAdmission.Binary64
import ClusterAdmission.Error
import ClusterAdmission.SortedMap

/-!
# Metrics

Every checked request is counted once by operation and outcome, and its duration is added to the
histogram of the operation. Every rejection is also counted by its reason.
-/

namespace ClusterAdmission

/-- How the check of a request ended. -/
inductive Outcome where
  | admitted
  /-- A rule rejects the request. -/
  | rejected
  /-- The check could not be finished. -/
  | failed
  deriving DecidableEq, Repr

namespace Outcome

/-- The name of an outcome. -/
def name : Outcome → String
  | admitted => "admitted"
  | rejected => "rejected"
  | failed => "failed"

/-- Every outcome. -/
def all : List Outcome := [admitted, rejected, failed]

/-- The outcome of a name. -/
def ofName? (name : String) : Option Outcome := all.find? fun o => o.name = name

/-- The outcome of a check. -/
def ofAnswer : Except Failure Unit → Outcome
  | .ok () => admitted
  | .error (.rejected _) => rejected
  | .error _ => failed

end Outcome

/-- How many requests ended with each outcome. -/
structure Tally where
  admitted : Nat := 0
  rejected : Nat := 0
  failed : Nat := 0
  deriving DecidableEq, Repr, Inhabited

namespace Tally

/-- The requests that ended with an outcome. -/
def count (t : Tally) : Outcome → Nat
  | .admitted => t.admitted
  | .rejected => t.rejected
  | .failed => t.failed

/-- Counts one more request. -/
def add (t : Tally) : Outcome → Tally
  | .admitted => { t with admitted := t.admitted + 1 }
  | .rejected => { t with rejected := t.rejected + 1 }
  | .failed => { t with failed := t.failed + 1 }

theorem count_add (t : Tally) (o o' : Outcome) :
    (t.add o).count o' = t.count o' + if o = o' then 1 else 0 := by
  cases o <;> cases o' <;> rfl

end Tally

/-- Durations in seconds: how many there are, their sum, and how many fell into each bucket. -/
structure Histogram where
  count : Nat := 0
  sum : Binary64 := .zero false
  buckets : List Nat := List.replicate 16 0
  deriving DecidableEq, Inhabited

namespace Histogram

/-- The first bound. -/
def firstBound : Binary64 := .ofDecimal false 1 (-3)

/-- A list of `n` bounds, each twice the one before. -/
def boundsFrom (bound : Binary64) : Nat → List Binary64
  | 0 => []
  | n + 1 => bound :: boundsFrom (bound.mul (.ofInt 2)) n

/-- The upper bounds of the buckets but the last, which holds all that is longer. -/
def bounds : List Binary64 := boundsFrom firstBound 15

/-- The largest finite duration, up to which the last bucket goes. -/
def largest : Binary64 := .finite false (Nat.pow 2 53 - 1) Binary64.maxExponent

/-- Counts a duration in the first bucket whose bound it does not exceed. -/
def countIn (seconds : Binary64) : List Binary64 → List Nat → List Nat
  | bound :: bounds, n :: ns =>
    if seconds.le bound then (n + 1) :: ns else n :: countIn seconds bounds ns
  | _, ns => ns

/-- Adds a duration. -/
def observe (h : Histogram) (seconds : Binary64) : Histogram where
  count := h.count + 1
  sum := h.sum.add seconds
  buckets := countIn seconds (bounds ++ [largest]) h.buckets

end Histogram

/-- The metrics of a chain. -/
structure Metrics where
  rejections : SortedMap String Nat := .empty
  validations : SortedMap String Tally := .empty
  durations : SortedMap String Histogram := .empty
  deriving DecidableEq, Inhabited

namespace Metrics

/-- The rejections with a reason. -/
def rejectionCount (m : Metrics) (reason : String) : Nat := (m.rejections.get? reason).getD 0

/-- The outcomes of an operation. -/
def tally (m : Metrics) (operation : String) : Tally := (m.validations.get? operation).getD {}

/-- The durations of an operation. -/
def histogram (m : Metrics) (operation : String) : Histogram :=
  (m.durations.get? operation).getD {}

/-- Counts a rejection. -/
def addRejection (m : Metrics) (reason : String) : Metrics :=
  { m with rejections := m.rejections.insert reason (m.rejectionCount reason + 1) }

/-- Counts a checked request. -/
def add (m : Metrics) (operation : String) (outcome : Outcome) (seconds : Binary64) : Metrics :=
  { m with
    validations := m.validations.insert operation ((m.tally operation).add outcome)
    durations := m.durations.insert operation ((m.histogram operation).observe seconds) }

/-- Counts what a check answered. -/
def addAnswer (m : Metrics) (operation : String) (answer : Except Failure Unit)
    (seconds : Binary64) : Metrics :=
  let m := match answer with
    | .error (.rejected v) => m.addRejection v.reason
    | _ => m
  m.add operation (.ofAnswer answer) seconds

end Metrics

end ClusterAdmission
