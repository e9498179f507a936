import ClusterAdmission.Proofs.Rules.Decides
import ClusterAdmission.Proofs.Text.Bytes
import ClusterAdmission.Proofs.Text.Split
import ClusterAdmission.Rules.Cluster

/-!
# Dates to recover to

Which dates can be recovered to (`Rules.RecoveryDate`), and that the rule passes exactly these: the
layout fixes the characters, the seconds are compared as texts, and the calendar decides the rest.
-/

namespace ClusterAdmission

namespace Rules

/-! ## Digits -/

/-- A number written with a fixed count of digits. -/
structure Digits (count value : Nat) (ds : List Char) : Prop where
  length : ds.length = count
  digits (c : Char) : c ∈ ds → c.isDigit
  value_eq : Nat.ofDigitChars 10 ds 0 = value

theorem fixed?_eq_some {n v : Nat} {cs rest : List Char} (hn : 0 < n) :
    Text.fixed? n cs = some (v, rest) ↔ ∃ ds, Digits n v ds ∧ cs = ds ++ rest := by
  unfold Text.fixed?
  constructor
  · intro h
    split at h
    · next hlength =>
      obtain ⟨w, hvalue, heq⟩ := Option.map_eq_some_iff.1 h
      obtain ⟨-, hdigits, rfl⟩ := Text.natural?_eq_some.1 hvalue
      cases heq
      exact ⟨cs.take n, ⟨hlength, hdigits, rfl⟩, (List.take_append_drop n cs).symm⟩
    · cases h
  · rintro ⟨ds, ⟨hlength, hdigits, hvalue⟩, rfl⟩
    have htake : (ds ++ rest).take n = ds := by rw [← hlength, List.take_left]
    have hdrop : (ds ++ rest).drop n = rest := by rw [← hlength, List.drop_left]
    have hne : ds ≠ [] := List.ne_nil_of_length_pos (hlength ▸ hn)
    rw [htake, hdrop, if_pos hlength, Text.natural?_eq_some.2 ⟨hne, hdigits, hvalue⟩,
      Option.map_some]

/-! ## The layout -/

/-- Six numbers written as `2006-01-02T15:04:05Z`. -/
def InLayout (text : List Char) (year month day hour minute second : Nat) : Prop :=
  ∃ yyyy mm dd h m s : List Char,
    text = yyyy ++ '-' :: (mm ++ '-' :: (dd ++ 'T' :: (h ++ ':' :: (m ++ ':' :: (s ++ ['Z']))))) ∧
    Digits 4 year yyyy ∧ Digits 2 month mm ∧ Digits 2 day dd ∧
    Digits 2 hour h ∧ Digits 2 minute m ∧ Digits 2 second s

variable {text : List Char} {year month day hour minute second : Nat}

theorem digits_ofDigitChars {n : Nat} {ds : List Char} (hlength : ds.length = n)
    (hds : ∀ c ∈ ds, c.isDigit) : Digits n (Nat.ofDigitChars 10 ds 0) ds :=
  ⟨hlength, hds, rfl⟩

/-- The texts that have the layout are six numbers with the characters of the layout between
them. -/
theorem fitsLayout_iff :
    Text.fitsLayout (Text.bytes dateLayout.toList) (Text.bytes text) ↔
      ∃ year month day hour minute second, InLayout text year month day hour minute second := by
  have hlayout : dateLayout.toList = ['2', '0', '0', '6'] ++ '-' :: (['0', '1'] ++ '-' ::
      (['0', '2'] ++ 'T' :: (['1', '5'] ++ ':' :: (['0', '4'] ++ ':' :: (['0', '5'] ++ ['Z']))))) :=
    rfl
  rw [hlayout]
  simp (disch := decide) only [Text.fitsLayout_digits, Text.fitsLayout_char, Text.fitsLayout_end]
  constructor
  · rintro ⟨yyyy, _, rfl, hyyyy, hyear, _, rfl, mm, _, rfl, hmm, hmonth, _, rfl, dd, _, rfl, hdd,
      hday, _, rfl, h, _, rfl, hh, hhour, _, rfl, m, _, rfl, hm, hminute, _, rfl, s, _, rfl, hs,
      hsecond, _, rfl, rfl⟩
    exact ⟨_, _, _, _, _, _, yyyy, mm, dd, h, m, s, rfl, digits_ofDigitChars hyyyy hyear,
      digits_ofDigitChars hmm hmonth, digits_ofDigitChars hdd hday, digits_ofDigitChars hh hhour,
      digits_ofDigitChars hm hminute, digits_ofDigitChars hs hsecond⟩
  · rintro ⟨year, month, day, hour, minute, second, yyyy, mm, dd, h, m, s, rfl, hyear, hmonth, hday,
      hhour, hminute, hsecond⟩
    exact ⟨yyyy, _, rfl, hyear.length, hyear.digits, _, rfl, mm, _, rfl, hmonth.length,
      hmonth.digits, _, rfl, dd, _, rfl, hday.length, hday.digits, _, rfl, h, _, rfl, hhour.length,
      hhour.digits, _, rfl, m, _, rfl, hminute.length, hminute.digits, _, rfl, s, _, rfl,
      hsecond.length, hsecond.digits, _, rfl, rfl⟩

/-! ## The seconds -/

theorem length_bytes_digits {n v : Nat} {ds : List Char} (h : Digits n v ds) :
    (Text.bytes ds).length = n := by
  rw [Text.bytes_of_ascii fun c hc => Text.isDigit_lt (h.digits c hc), List.length_map, h.length]

/-- The slice of the seconds falls on the two digits in front of the closing `Z`. -/
theorem InLayout.slice?_seconds (h : InLayout text year month day hour minute second) :
    ∃ s, Text.slice? 17 19 (Text.bytes text) = some (Text.bytes s) ∧ Digits 2 second s := by
  obtain ⟨yyyy, mm, dd, h, m, s, rfl, hyear, hmonth, hday, hhour, hminute, hsecond⟩ := h
  refine ⟨s, ?_, hsecond⟩
  have hfront : (Text.bytes (yyyy ++ '-' :: (mm ++ '-' :: (dd ++ 'T' :: (h ++ ':' ::
      (m ++ [':'])))))).length = 17 := by
    have hbyte (c : Char) (hc : c.toNat < 128) : (String.utf8EncodeChar c).length = 1 := by
      rw [Text.utf8EncodeChar_of_ascii hc, List.length_singleton]
    simp (disch := decide) only [Text.bytes_append, Text.bytes_cons, List.length_append, hbyte,
      length_bytes_digits hyear, length_bytes_digits hmonth, length_bytes_digits hday,
      length_bytes_digits hhour, length_bytes_digits hminute]
    rfl
  have hslice := Text.slice?_bytes (yyyy ++ '-' :: (mm ++ '-' :: (dd ++ 'T' :: (h ++ ':' ::
    (m ++ [':']))))) s ['Z']
  rw [hfront, length_bytes_digits hsecond] at hslice
  simpa only [List.append_assoc, List.cons_append, List.nil_append] using hslice

/-- Two digits are at most `59` as a text if and only if they are as a number. -/
theorem bytes_lt_iff {s : List Char} (h : Digits 2 second s) :
    Text.bytes ['5', '9'] < Text.bytes s ↔ 59 < second := by
  obtain ⟨hlength, hdigits, rfl⟩ := h
  obtain ⟨a, b, rfl⟩ := List.length_eq_two.1 hlength
  have hbounds {c : Char} (hc : c ∈ [a, b]) : 48 ≤ c.toNat ∧ c.toNat ≤ 57 :=
    Char.isDigit_iff_toNat.1 (hdigits c hc)
  obtain ⟨ha, ha'⟩ := hbounds List.mem_cons_self
  obtain ⟨hb, hb'⟩ := hbounds (List.mem_cons_of_mem _ List.mem_cons_self)
  have hvalue : Nat.ofDigitChars 10 [a, b] 0 = 10 * (a.toNat - 48) + (b.toNat - 48) := by
    simp [Nat.ofDigitChars_cons]
  have hbytes : Text.bytes [a, b] = [UInt8.ofNat a.toNat, UInt8.ofNat b.toNat] :=
    Text.bytes_of_ascii fun c hc => Text.isDigit_lt (hdigits c hc)
  have hlayout : Text.bytes ['5', '9'] = [53, 57] := rfl
  rw [hvalue, hbytes, hlayout, List.cons_lt_cons_iff, List.cons_lt_cons_iff]
  simp only [UInt8.lt_iff_toNat_lt, ← UInt8.toNat_inj, UInt8.toNat_ofNat', UInt8.reduceToNat,
    Nat.reducePow, List.not_lt_nil, and_false, or_false]
  omega

theorem InLayout.secondsFit_iff (h : InLayout text year month day hour minute second) :
    secondsFit (Text.bytes text) ↔ second ≤ 59 := by
  obtain ⟨s, hslice, hs⟩ := h.slice?_seconds
  rw [secondsFit, hslice]
  simp [bytes_lt_iff hs]

/-! ## The calendar -/

/-- A reader of dates takes the dates of the calendar from texts in the layout, and a leap second
for the second before it. What it makes of other texts is left open. -/
def ReadsCalendar (reads : List Char → Bool) : Prop :=
  ∀ text year month day hour minute second, InLayout text year month day hour minute second →
    (reads text ↔ CivilDate.isValid ⟨year, month, day⟩ ∧ hour ≤ 23 ∧ minute ≤ 59 ∧ second ≤ 60)

theorem readsCalendar_civilTime : ReadsCalendar readsCivilTime := by
  rintro text year month day hour minute second
    ⟨yyyy, mm, dd, h, m, s, rfl, hyear, hmonth, hday, hhour, hminute, hsecond⟩
  have hfixed {n v : Nat} {ds rest : List Char} (hn : 0 < n) (hds : Digits n v ds) :
      Text.fixed? n (ds ++ rest) = some (v, rest) :=
    (fixed?_eq_some hn).2 ⟨ds, hds, rfl⟩
  have hdrop (c : Char) (rest : List Char) : Text.dropStart? [c] (c :: rest) = some rest :=
    Text.dropStart?_eq_some.2 rfl
  -- Each part is read off the front of what the ones before it have left.
  simp only [readsCivilTime, CivilTime.parse?, bind, Option.bind_some, hdrop,
    hfixed (by decide) hyear, hfixed (by decide) hmonth, hfixed (by decide) hday,
    hfixed (by decide) hhour, hfixed (by decide) hminute, hfixed (by decide) hsecond]
  rw [Option.isSome_ite]
  simp [and_assoc]

/-! ## The rule -/

/-- A date of the calendar and a time, written as `2006-01-02T15:04:05Z`. -/
def RecoveryDate (text : List Char) : Prop :=
  ∃ (year month day hour minute second : Nat) (yyyy mm dd h m s : List Char),
    text = yyyy ++ '-' :: (mm ++ '-' :: (dd ++ 'T' :: (h ++ ':' :: (m ++ ':' :: (s ++ ['Z']))))) ∧
    Digits 4 year yyyy ∧ Digits 2 month mm ∧ Digits 2 day dd ∧
    Digits 2 hour h ∧ Digits 2 minute m ∧ Digits 2 second s ∧
    CivilDate.isValid ⟨year, month, day⟩ ∧ hour ≤ 23 ∧ minute ≤ 59 ∧ second ≤ 59

theorem recoveryDate_iff : RecoveryDate text ↔
    ∃ year month day hour minute second, InLayout text year month day hour minute second ∧
      CivilDate.isValid ⟨year, month, day⟩ ∧ hour ≤ 23 ∧ minute ≤ 59 ∧ second ≤ 59 := by
  constructor
  · rintro ⟨year, month, day, hour, minute, second, yyyy, mm, dd, h, m, s, htext, hyear, hmonth,
      hday, hhour, hminute, hsecond, hvalid⟩
    exact ⟨year, month, day, hour, minute, second,
      ⟨yyyy, mm, dd, h, m, s, htext, hyear, hmonth, hday, hhour, hminute, hsecond⟩, hvalid⟩
  · rintro ⟨year, month, day, hour, minute, second,
      ⟨yyyy, mm, dd, h, m, s, htext, hyear, hmonth, hday, hhour, hminute, hsecond⟩, hvalid⟩
    exact ⟨year, month, day, hour, minute, second, yyyy, mm, dd, h, m, s, htext, hyear, hmonth,
      hday, hhour, hminute, hsecond, hvalid⟩

theorem pitrDateBy_decides {reads : List Char → Bool} (hreads : ReadsCalendar reads)
    (date : String) :
    Decides (pitrDateBy reads date) (RecoveryDate date.toList) [.invalidPitrDate] := by
  refine (Decides.bind (.require fitsLayout_iff (by simp)) fun hlayout => .bind
    (.require Iff.rfl (by simp)) fun _ => .require Iff.rfl (by simp)).congr ?_
  rw [recoveryDate_iff]
  constructor
  · rintro ⟨⟨year, month, day, hour, minute, second, hlayout⟩, hseconds, hread⟩
    obtain ⟨hvalid, hhour, hminute, -⟩ := (hreads _ _ _ _ _ _ _ hlayout).1 hread
    exact ⟨year, month, day, hour, minute, second, hlayout, hvalid, hhour, hminute,
      hlayout.secondsFit_iff.1 hseconds⟩
  · rintro ⟨year, month, day, hour, minute, second, hlayout, hvalid, hhour, hminute, hsecond⟩
    exact ⟨⟨year, month, day, hour, minute, second, hlayout⟩, hlayout.secondsFit_iff.2 hsecond,
      (hreads _ _ _ _ _ _ _ hlayout).2
        ⟨hvalid, hhour, hminute, Nat.le_trans hsecond (by decide)⟩⟩

theorem pitrDate_decides (date : String) :
    Decides (pitrDate date) (RecoveryDate date.toList) [.invalidPitrDate] :=
  pitrDateBy_decides readsCalendar_civilTime date

end Rules

/-! ## The dates that pass -/

/-- A leap year is one of every four, but of the years that end a century one of every four. -/
theorem isLeapYear_iff {year : Int} : isLeapYear year ↔ 4 ∣ year ∧ (100 ∣ year → 400 ∣ year) := by
  simp only [isLeapYear, Bool.and_eq_true, Bool.or_eq_true, beq_iff_eq, bne_iff_ne, ne_eq,
    Int.dvd_iff_emod_eq_zero]
  omega

/-- A day exists in a month of a year of the proleptic Gregorian calendar. -/
def CivilDate.InCalendar (d : CivilDate) : Prop :=
  (1 ≤ d.month ∧ d.month ≤ 12) ∧ 1 ≤ d.day ∧
    if d.month = 2 then
      d.day ≤ 28 ∨ d.day = 29 ∧ 4 ∣ d.year ∧ (100 ∣ d.year → 400 ∣ d.year)
    else if d.month ∈ [4, 6, 9, 11] then d.day ≤ 30
    else d.day ≤ 31

theorem CivilDate.isValid_iff {d : CivilDate} : d.isValid ↔ d.InCalendar := by
  obtain ⟨year, month, day⟩ := d
  by_cases hmonth : 1 ≤ month ∧ month ≤ 12
  · have hcases : month = 1 ∨ month = 2 ∨ month = 3 ∨ month = 4 ∨ month = 5 ∨ month = 6 ∨
        month = 7 ∨ month = 8 ∨ month = 9 ∨ month = 10 ∨ month = 11 ∨ month = 12 := by omega
    have hlast (n : Nat) : (1 ≤ day && day ≤ n) = true ↔ 1 ≤ day ∧ day ≤ n := by simp
    rcases hcases with rfl | rfl | rfl | rfl | rfl | rfl | rfl | rfl | rfl | rfl | rfl | rfl
    case inr.inl =>
      -- February has a day more in leap years.
      rw [isValid, InCalendar, if_pos rfl, daysInMonth, hlast, ← isLeapYear_iff]
      cases isLeapYear year with
      | false => simp
      | true =>
        simp only [↓reduceIte, Nat.reduceLeDiff, and_self, and_true, true_and, and_congr_right_iff]
        omega
    all_goals simp [isValid, InCalendar, daysInMonth]
  · refine iff_of_false (fun h => hmonth (bounds_of_isValid h).1) fun h => hmonth h.1

namespace Rules

/-- A rule passes the dates of the calendar that are written as `2006-01-02T15:04:05Z` with a time
of day, and refuses every other text as no such date. -/
structure PassesDates (rule : String → Verdict) : Prop where
  passes (date : String) : rule date = .ok () ↔
    ∃ year month day hour minute second, InLayout date.toList year month day hour minute second ∧
      CivilDate.InCalendar ⟨year, month, day⟩ ∧ hour ≤ 23 ∧ minute ≤ 59 ∧ second ≤ 59
  refuses (date : String) : rule date ≠ .ok () → rule date = .error .invalidPitrDate

theorem Decides.passesDates {rule : String → Verdict}
    (h : ∀ date, Decides (rule date) (RecoveryDate date.toList) [.invalidPitrDate]) :
    PassesDates rule where
  passes date := by
    rw [(h date).ok_iff, recoveryDate_iff]
    simp only [CivilDate.isValid_iff]
  refuses date hne := by
    cases hrule : rule date with
    | ok => exact absurd hrule hne
    | error w => rw [List.mem_singleton.1 ((h date).mem_of_error hrule)]

/-- The rule for dates to recover to passes exactly the dates of the calendar in the one layout,
with any reader that takes these, and a leap second, from texts in the layout. No such text has a
character across an end of the slice of the seconds. -/
theorem pitrDate_exact :
    PassesDates pitrDate ∧ (∀ reads, ReadsCalendar reads → PassesDates (pitrDateBy reads)) ∧
      ∀ text, Text.fitsLayout (Text.bytes dateLayout.toList) (Text.bytes text) →
        ∃ seconds, Text.slice? 17 19 (Text.bytes text) = some seconds := by
  refine ⟨Decides.passesDates pitrDate_decides,
    fun reads hreads => Decides.passesDates (pitrDateBy_decides hreads), fun text hlayout => ?_⟩
  obtain ⟨_, _, _, _, _, _, hlayout⟩ := fitsLayout_iff.1 hlayout
  obtain ⟨s, hslice, -⟩ := hlayout.slice?_seconds
  exact ⟨_, hslice⟩

/-- The last second of a leap day passes. A text of as many bytes that ends within a character where
the seconds are sliced is refused. -/
theorem pitrDate_exact_of_sample :
    ReadsCalendar readsCivilTime ∧ pitrDateBy readsCivilTime "2024-02-29T23:59:59Z" = .ok () ∧
      Text.slice? 17 19 (Text.bytes "2024-02-29T23:59:5é".toList) = none ∧
      pitrDate "2024-02-29T23:59:5é" = .error .invalidPitrDate := by
  obtain ⟨⟨hpasses, hrefuses⟩, hreads, hslice⟩ := pitrDate_exact
  have hnone : Text.slice? 17 19 (Text.bytes "2024-02-29T23:59:5é".toList) = none := by decide
  have hdigits {n value : Nat} {ds : List Char} (hlength : ds.length = n)
      (hds : ds.all Char.isDigit) (hvalue : Nat.ofDigitChars 10 ds 0 = value) :
      Digits n value ds :=
    ⟨hlength, List.all_eq_true.1 hds, hvalue⟩
  refine ⟨readsCalendar_civilTime, ((hreads _ readsCalendar_civilTime).passes _).2
    ⟨2024, 2, 29, 23, 59, 59, ?_, ?_, by decide, by decide, by decide⟩, hnone,
    hrefuses _ fun hok => ?_⟩
  · exact ⟨['2', '0', '2', '4'], ['0', '2'], ['2', '9'], ['2', '3'], ['5', '9'], ['5', '9'], rfl,
      hdigits rfl rfl rfl, hdigits rfl rfl rfl, hdigits rfl rfl rfl, hdigits rfl rfl rfl,
      hdigits rfl rfl rfl, hdigits rfl rfl rfl⟩
  · exact CivilDate.isValid_iff.1 (by decide)
  · -- What passes has the layout and so can be sliced.
    obtain ⟨year, month, day, hour, minute, second, hlayout, -⟩ := (hpasses _).1 hok
    obtain ⟨seconds, hsome⟩ := hslice _ (fitsLayout_iff.2 ⟨_, _, _, _, _, _, hlayout⟩)
    rw [hnone] at hsome
    cases hsome

end Rules

end ClusterAdmission
