import ClusterAdmission.Text.Numeral
import ClusterAdmission.Text.Split
import ClusterAdmission.Time.Calendar

/-!
# Dates with a time of day

A date of the calendar and a time of day, read from the layout `2006-01-02T15:04:05Z`. A leap second
is read as the second before it.
-/

namespace ClusterAdmission

/-- A date and a time of day. -/
structure CivilTime where
  date : CivilDate
  hour : Nat
  minute : Nat
  second : Nat
  deriving DecidableEq, Repr

namespace CivilTime

/-- Reads a date of the calendar and a time of day. -/
def parse? (text : List Char) : Option CivilTime := do
  let (year, rest) ← Text.fixed? 4 text
  let (month, rest) ← Text.fixed? 2 (← Text.dropStart? ['-'] rest)
  let (day, rest) ← Text.fixed? 2 (← Text.dropStart? ['-'] rest)
  let (hour, rest) ← Text.fixed? 2 (← Text.dropStart? ['T'] rest)
  let (minute, rest) ← Text.fixed? 2 (← Text.dropStart? [':'] rest)
  let (second, rest) ← Text.fixed? 2 (← Text.dropStart? [':'] rest)
  let date : CivilDate := { year, month, day }
  if date.isValid && hour ≤ 23 && minute ≤ 59 && second ≤ 60 && rest = ['Z'] then
    some { date, hour, minute, second := min second 59 }
  else
    none

example : parse? "2024-02-29T23:59:60Z".toList = some ⟨⟨2024, 2, 29⟩, 23, 59, 59⟩ := by decide

example : parse? "2023-02-29T00:00:00Z".toList = none := by decide

end CivilTime

end ClusterAdmission
