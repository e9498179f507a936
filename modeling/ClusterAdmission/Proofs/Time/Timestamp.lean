import ClusterAdmission.Time.Timestamp

/-!
# Instants are read back

What is written of an instant is read back as the instant cut to the whole second
(`Timestamp.parse?_wholeText`): every part of the text has a fixed width, every count of days leads
to a date of the calendar, and no instant that can be represented lies beyond the years that are
written.
-/

namespace ClusterAdmission.Timestamp

/-- A padded number starts with a digit. -/
theorem padded_eq_cons {width n : Nat} (hwidth : 0 < width) (h : n < Nat.pow 10 width) :
    ∃ c cs, Text.padded width n = c :: cs ∧ c.isDigit = true := by
  have hlength := Text.length_padded hwidth h
  have hdigits := Text.all_isDigit_padded width n
  cases hpadded : Text.padded width n with
  | nil =>
    rw [hpadded] at hlength
    simp only [List.length_nil] at hlength
    omega
  | cons c cs =>
    rw [hpadded, List.all_cons, Bool.and_eq_true] at hdigits
    exact ⟨c, cs, rfl, hdigits.1⟩

theorem year?_yearText {year : Int} (h : -9999 ≤ year) (h' : year ≤ 9999) (rest : List Char) :
    year? (yearText year ++ rest) = some (year, rest) := by
  unfold yearText
  split
  · next hneg =>
    have hfit : year.natAbs < Nat.pow 10 6 := by
      change _ < 1000000
      omega
    have hne : year.natAbs ≠ 0 := by omega
    have hback : (-(year.natAbs : Int)) = year := by omega
    rw [List.cons_append, year?, Text.fixed?_padded_append (by decide) hfit,
      Option.filter_some_pos (by simpa using hne)]
    exact congrArg (fun y => some (y, rest)) hback
  · next hpos =>
    have hfit : year.toNat < Nat.pow 10 4 := by
      change _ < 10000
      omega
    have hback : (year.toNat : Int) = year := by omega
    have hfixed := Text.fixed?_padded_append (by decide) hfit rest
    obtain ⟨c, cs, hpadded, hc⟩ := padded_eq_cons (by decide) hfit
    rw [hpadded, List.cons_append] at hfixed ⊢
    -- A digit is neither of the two signs.
    have hplus : c ≠ '+' := Text.ne_of_kind hc rfl
    have hminus : c ≠ '-' := Text.ne_of_kind hc rfl
    unfold year?
    split
    · next heq => exact absurd (List.cons.inj heq).1 hplus
    · next heq => exact absurd (List.cons.inj heq).1 hminus
    · rw [hfixed]
      exact congrArg (fun y => some (y, rest)) hback

theorem twoDigits?_padded {hi n : Nat} (h : n ≤ hi) (hhi : hi < 100) (rest : List Char) :
    twoDigits? hi (Text.padded 2 n ++ rest) = some (n, rest) := by
  have hfit : n < Nat.pow 10 2 := Nat.lt_of_le_of_lt h hhi
  rw [twoDigits?, Text.fixed?_padded_append (by decide) hfit]
  simp [h]

theorem date?_text {date : CivilDate} (hvalid : date.isValid = true) (h : -9999 ≤ date.year)
    (h' : date.year ≤ 9999) (rest : List Char) :
    date? (yearText date.year ++ '-' :: (Text.padded 2 date.month ++ '-' ::
      (Text.padded 2 date.day ++ rest))) = some (date, rest) := by
  obtain ⟨hmonth, hday⟩ := CivilDate.bounds_of_isValid hvalid
  have hmonth2 : date.month < Nat.pow 10 2 := by
    change _ < 100
    omega
  have hday2 : date.day < Nat.pow 10 2 := by
    change _ < 100
    omega
  simp only [date?, year?_yearText h h', Option.bind_eq_bind, Option.bind_some,
    Text.fixed?_padded_append (by decide : 0 < 2) hmonth2,
    Text.fixed?_padded_append (by decide : 0 < 2) hday2]
  rw [if_pos hvalid]

theorem time?_text {hour minute second : Nat} (hhour : hour ≤ 23) (hminute : minute ≤ 59)
    (hsecond : second ≤ 59) :
    time? (Text.padded 2 hour ++ ':' :: (Text.padded 2 minute ++ ':' ::
      (Text.padded 2 second ++ ['Z']))) =
      some (((hour * 3600 + minute * 60 + second : Nat) : Int) * perSecond, ['Z']) := by
  have hclock : clock? 23 60 (Text.padded 2 hour ++ ':' :: (Text.padded 2 minute ++ ':' ::
      (Text.padded 2 second ++ ['Z']))) = some (hour, minute, some second, ['Z']) := by
    simp [clock?, nextPart?, twoDigits?_padded hhour (by decide),
      twoDigits?_padded hminute (by decide), twoDigits?_padded (Nat.le_succ_of_le hsecond)]
  rw [time?, hclock]
  change some (((hour * 3600 + minute * 60 + min second 59 : Nat) : Int) * perSecond + 0, ['Z']) = _
  rw [Nat.min_eq_left hsecond, Int.add_zero]

/-- An instant is read back as it was written, cut to the whole second. -/
theorem parse?_wholeText (t : Timestamp) : parse? t.wholeText = some t.cut := by
  obtain ⟨hmin, hmax⟩ := t.floorSecond_bounds
  simp only [minSecond, maxSecond] at hmin hmax
  have hvalid := CivilDate.isValid_ofDays (t.floorSecond / 86400)
  have hyear : -9999 ≤ (CivilDate.ofDays (t.floorSecond / 86400)).year ∧
      (CivilDate.ofDays (t.floorSecond / 86400)).year ≤ 9999 :=
    CivilDate.year_ofDays_bounds (by omega) (by omega)
  have hdays := CivilDate.toDays_ofDays (t.floorSecond / 86400)
  have hhour : (t.floorSecond % 86400).toNat / 3600 ≤ 23 := by omega
  have hminute : (t.floorSecond % 86400).toNat / 60 % 60 ≤ 59 := by omega
  have hsecond : (t.floorSecond % 86400).toNat % 60 ≤ 59 := by omega
  have htime := time?_text hhour hminute hsecond
  have hsum : (t.floorSecond % 86400).toNat / 3600 * 3600 +
      (t.floorSecond % 86400).toNat / 60 % 60 * 60 + (t.floorSecond % 86400).toNat % 60 =
        (t.floorSecond % 86400).toNat := by omega
  rw [hsum] at htime
  have hnanoseconds : (t.floorSecond / 86400 * 86400 - 0) * perSecond +
      ((t.floorSecond % 86400).toNat : Int) * perSecond = t.cut.nanoseconds := by
    simp only [cut, perSecond]
    omega
  simp only [wholeText, secondText, parse?, String.toList_ofList, List.append_assoc,
    List.cons_append, date?_text hvalid hyear.1 hyear.2, Option.bind_eq_bind, Option.bind_some,
    htime, offset?, hdays, hnanoseconds]
  simp [ofNanoseconds?, t.cut.min_le, t.cut.lt_max]

end ClusterAdmission.Timestamp
