/-!
# The proleptic Gregorian calendar

Dates of the Gregorian calendar, extended without end in both directions, and their count of days
from 1970-01-01. The year before 1 is 0.
-/

namespace ClusterAdmission

/-- Whether a year has a 29th of February. -/
def isLeapYear (year : Int) : Bool :=
  year % 4 == 0 && (year % 100 != 0 || year % 400 == 0)

/-- The count of days of a month. -/
def daysInMonth (year : Int) (month : Nat) : Nat :=
  match month with
  | 1 | 3 | 5 | 7 | 8 | 10 | 12 => 31
  | 4 | 6 | 9 | 11 => 30
  | 2 => if isLeapYear year then 29 else 28
  | _ => 0

/-- A year, a month from 1 to 12 and a day of that month. -/
structure CivilDate where
  year : Int
  month : Nat
  day : Nat
  deriving DecidableEq, Repr

namespace CivilDate

/-- Whether the date stands in the calendar. -/
def isValid (d : CivilDate) : Bool := 1 ≤ d.day && d.day ≤ daysInMonth d.year d.month

/-- The days from 1970-01-01 to a day of a year that starts in March. Months count from zero, so
that the leap day is the last of the year. -/
def daysFromMarch (year month day : Int) : Int :=
  365 * year + year / 4 - year / 100 + year / 400 + (153 * month + 2) / 5 + day - 719469

/-- The date of a day of a year that starts in March. -/
def ofMarch (year month day : Int) : CivilDate :=
  if month < 10 then
    { year, month := (month + 3).toNat, day := day.toNat }
  else
    { year := year + 1, month := (month - 9).toNat, day := day.toNat }

/-- The days from 1970-01-01 to a date. -/
def toDays (d : CivilDate) : Int :=
  if d.month ≤ 2 then
    daysFromMarch (d.year - 1) (d.month + 9) d.day
  else
    daysFromMarch d.year (d.month - 3) d.day

/-- The day of a cycle of 400 years as year of the cycle, month and day from March. The last of the
four centuries of a cycle and the last of four years are a day longer than the others. -/
def marchOfCycle (day : Int) : Int × Int × Int :=
  let century := min (day / 36524) 3
  let day := day - 36524 * century
  let leap := day / 1461
  let day := day - 1461 * leap
  let year := min (day / 365) 3
  let day := day - 365 * year
  let month := (5 * day + 2) / 153
  (100 * century + 4 * leap + year, month, day - (153 * month + 2) / 5 + 1)

/-- The date that many days after 1970-01-01. -/
def ofDays (days : Int) : CivilDate :=
  let cycle := (days + 719468) / 146097
  let (year, month, day) := marchOfCycle ((days + 719468) % 146097)
  ofMarch (year + 400 * cycle) month day

theorem toDays_ofMarch {year month day : Int} (hmonth : 0 ≤ month) (hmonth' : month < 12)
    (hday : 0 ≤ day) : (ofMarch year month day).toDays = daysFromMarch year month day := by
  have htoNat : (day.toNat : Int) = day := Int.toNat_of_nonneg hday
  unfold ofMarch toDays
  split
  · have hlarge : ¬ (month + 3).toNat ≤ 2 := by omega
    have hback : (((month + 3).toNat : Nat) : Int) - 3 = month := by omega
    simp only [hlarge, if_false, htoNat, hback]
  · have hsmall : (month - 9).toNat ≤ 2 := by omega
    have hback : (((month - 9).toNat : Nat) : Int) + 9 = month := by omega
    simp only [hsmall, if_true, htoNat, hback]
    congr 1
    omega

theorem marchOfCycle_bounds {day : Int} (h : 0 ≤ day) (h' : day < 146097) :
    let (year, month, dayOfMonth) := marchOfCycle day
    (0 ≤ year ∧ year < 400) ∧ (0 ≤ month ∧ month < 12) ∧ 1 ≤ dayOfMonth ∧
      365 * year + year / 4 - year / 100 + (153 * month + 2) / 5 + dayOfMonth = day + 1 := by
  simp only [marchOfCycle]
  generalize hcentury : min (day / 36524) 3 = century
  have hcentury0 : 0 ≤ century ∧ century ≤ 3 := by omega
  generalize hleap : (day - 36524 * century) / 1461 = leap
  have hleap0 : 0 ≤ leap ∧ leap ≤ 24 := by omega
  generalize hyear : min ((day - 36524 * century - 1461 * leap) / 365) 3 = year
  have hyear0 : 0 ≤ year ∧ year ≤ 3 := by omega
  generalize hday : day - 36524 * century - 1461 * leap - 365 * year = dayOfYear
  have hday0 : 0 ≤ dayOfYear ∧ dayOfYear ≤ 365 := by omega
  have hfour : (100 * century + 4 * leap + year) / 4 = 25 * century + leap := by omega
  have hhundred : (100 * century + 4 * leap + year) / 100 = century := by omega
  have hmonth : 0 ≤ (5 * dayOfYear + 2) / 153 ∧ (5 * dayOfYear + 2) / 153 < 12 := by omega
  have hfirst : (153 * ((5 * dayOfYear + 2) / 153) + 2) / 5 ≤ dayOfYear := by omega
  rw [hfour, hhundred]
  clear hcentury hleap hyear hfour hhundred
  refine ⟨⟨by omega, by omega⟩, hmonth, by omega, by omega⟩

theorem isLeapYear_add_cycles (year cycle : Int) :
    isLeapYear (year + 400 * cycle + 1) = isLeapYear (year + 1) := by
  have hfour : (year + 400 * cycle + 1) % 4 = (year + 1) % 4 := by omega
  have hhundred : (year + 400 * cycle + 1) % 100 = (year + 1) % 100 := by omega
  have hcycle : (year + 400 * cycle + 1) % 400 = (year + 1) % 400 := by omega
  simp only [isLeapYear, hfour, hhundred, hcycle]

/-- The days of a month of a year that starts in March, in a leap year if `leap`. -/
def marchDays (leap : Bool) (month : Int) : Int :=
  if month = 11 then (if leap then 29 else 28)
  else (153 * (month + 1) + 2) / 5 - (153 * month + 2) / 5

/-- A 29th of February only comes up at the end of a leap year. -/
theorem marchOfCycle_day_le {day : Int} (h : 0 ≤ day) (h' : day < 146097) :
    let (year, month, dayOfMonth) := marchOfCycle day
    dayOfMonth ≤ marchDays (isLeapYear (year + 1)) month := by
  simp only [marchOfCycle]
  generalize hcentury : min (day / 36524) 3 = century
  generalize hleap : (day - 36524 * century) / 1461 = leap
  generalize hyear : min ((day - 36524 * century - 1461 * leap) / 365) 3 = year
  generalize hday : day - 36524 * century - 1461 * leap - 365 * year = dayOfYear
  have hday0 : 0 ≤ dayOfYear ∧ dayOfYear ≤ 365 := by omega
  by_cases hlast : dayOfYear = 365
  · -- The last day of a year of 366 days is the 29th of February.
    have hyear3 : year = 3 := by omega
    have hleap24 : 0 ≤ leap ∧ leap ≤ 24 := by omega
    have hcentury3 : leap = 24 → century = 3 := by omega
    have hfour : (100 * century + 4 * leap + year + 1) % 4 = 0 := by omega
    have hhundred : (100 * century + 4 * leap + year + 1) % 100 = 0 →
        (100 * century + 4 * leap + year + 1) % 400 = 0 := by
      clear hcentury hleap hyear hday
      omega
    have hleapYear : isLeapYear (100 * century + 4 * leap + year + 1) = true := by
      simp only [isLeapYear, hfour, beq_self_eq_true, Bool.true_and, Bool.or_eq_true, bne_iff_ne,
        beq_iff_eq]
      by_cases hc : (100 * century + 4 * leap + year + 1) % 100 = 0
      · exact .inr (hhundred hc)
      · exact .inl hc
    rw [hleapYear, hlast]
    decide
  · clear hcentury hleap hyear hday
    unfold marchDays
    split
    · split <;> omega
    · omega

theorem bounds_of_isValid {d : CivilDate} (h : d.isValid = true) :
    (1 ≤ d.month ∧ d.month ≤ 12) ∧ 1 ≤ d.day ∧ d.day ≤ 31 := by
  rw [isValid, Bool.and_eq_true, decide_eq_true_iff, decide_eq_true_iff] at h
  obtain ⟨hday, hlast⟩ := h
  unfold daysInMonth at hlast
  split at hlast
  case h_12 =>
    split at hlast <;> omega
  all_goals omega

theorem isValid_ofMarch {year month day : Int} (hmonth : 0 ≤ month) (hmonth' : month < 12)
    (hday : 1 ≤ day) (hday' : day ≤ marchDays (isLeapYear (year + 1)) month) :
    (ofMarch year month day).isValid = true := by
  -- The months from March on have the lengths of the table of the calendar.
  have hlength : marchDays (isLeapYear (year + 1)) month =
      daysInMonth (ofMarch year month day).year (ofMarch year month day).month := by
    have hcases : month = 0 ∨ month = 1 ∨ month = 2 ∨ month = 3 ∨ month = 4 ∨ month = 5 ∨
        month = 6 ∨ month = 7 ∨ month = 8 ∨ month = 9 ∨ month = 10 ∨ month = 11 := by omega
    rcases hcases with rfl | rfl | rfl | rfl | rfl | rfl | rfl | rfl | rfl | rfl | rfl | rfl
    case inr.inr.inr.inr.inr.inr.inr.inr.inr.inr.inr =>
      change (if isLeapYear (year + 1) then 29 else 28 : Int) =
        ((if isLeapYear (year + 1) then 29 else 28 : Nat) : Int)
      cases isLeapYear (year + 1) <;> rfl
    all_goals rfl
  have hofDay : (ofMarch year month day).day = day.toNat := by
    unfold ofMarch
    split <;> rfl
  rw [hlength] at hday'
  rw [isValid, hofDay, Bool.and_eq_true, decide_eq_true_iff, decide_eq_true_iff]
  omega

/-- Counting the days of the date that a count of days leads to gives that count. -/
theorem toDays_ofDays (days : Int) : (ofDays days).toDays = days := by
  have h0 : 0 ≤ (days + 719468) % 146097 := by omega
  have h1 : (days + 719468) % 146097 < 146097 := by omega
  have hbounds := marchOfCycle_bounds h0 h1
  simp only [ofDays]
  generalize marchOfCycle ((days + 719468) % 146097) = march at hbounds ⊢
  obtain ⟨year, month, day⟩ := march
  obtain ⟨⟨hy0, hy1⟩, ⟨hm0, hm1⟩, hd, hsum⟩ := hbounds
  dsimp only
  rw [toDays_ofMarch hm0 hm1 (by omega), daysFromMarch]
  omega

/-- Every count of days leads to a date of the calendar. -/
theorem isValid_ofDays (days : Int) : (ofDays days).isValid = true := by
  have h0 : 0 ≤ (days + 719468) % 146097 := by omega
  have h1 : (days + 719468) % 146097 < 146097 := by omega
  have hbounds := marchOfCycle_bounds h0 h1
  have hday := marchOfCycle_day_le h0 h1
  simp only [ofDays]
  generalize marchOfCycle ((days + 719468) % 146097) = march at hbounds hday ⊢
  obtain ⟨year, month, day⟩ := march
  obtain ⟨-, ⟨hm0, hm1⟩, hd, -⟩ := hbounds
  refine isValid_ofMarch hm0 hm1 hd ?_
  rw [isLeapYear_add_cycles]
  exact hday

/-- The years of the instants that can be represented. -/
theorem year_ofDays_bounds {days : Int} (h : -4371587 ≤ days) (h' : days ≤ 2932895) :
    -9999 ≤ (ofDays days).year ∧ (ofDays days).year ≤ 9999 := by
  obtain ⟨hmonth, hday⟩ := bounds_of_isValid (isValid_ofDays days)
  have hdays := toDays_ofDays days
  unfold toDays daysFromMarch at hdays
  split at hdays
  · omega
  · omega

example : (CivilDate.mk 1970 1 1).toDays = 0 := by decide

example : CivilDate.ofDays 19782 = ⟨2024, 2, 29⟩ := by decide

example : CivilDate.ofDays (-719529) = ⟨-1, 12, 31⟩ := by decide

example : CivilDate.isValid ⟨2000, 2, 29⟩ ∧ ¬ CivilDate.isValid ⟨1900, 2, 29⟩ := by decide

end CivilDate

end ClusterAdmission
