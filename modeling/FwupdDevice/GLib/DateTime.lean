import FwupdDevice.Calendar

/-!
# The GLib date calls of the text dump

`fwupd_pad_kv_unx` turns a timestamp into a date with `g_date_time_new_from_unix_utc` and
prints it with `g_date_time_format (date, "%F")`.  GLib counts a `GDateTime` in days from
0001-01-01 (day 1) and microseconds into the day; an instant before day 1 or past its last
day 3652059, 9999-12-31, gives NULL.  `g_date_time_format` refuses a NULL date and returns
NULL.  The calendar date of a day is read by `g_date_time_get_ymd` through 400-, 100-, 4- and
1-year cycles and a month estimate corrected by one table lookup.

`gDateTimeNewFromUnixUtc_days` and `gDateTimeNewFromUnixUtc_eq_none` give the constructor on
every timestamp: a date exactly from 0001-01-01 00:00:00 to 9999-12-31 23:59:59.
`gDateTimeGetYmd_dayNumber` says that `g_date_time_get_ymd` inverts the calendar's day
numbering (`Calendar.CivilDate.dayNumber`) on every day from 1 on.
-/

namespace FwupdDevice.GLib

/-- A UTC `GDateTime`: the day number, 0001-01-01 being day 1, and microseconds into it. -/
structure GDateTime where
  days : Nat
  usec : Nat
  deriving DecidableEq, Repr

/-- `UNIX_EPOCH_START`: the day number of 1970-01-01. -/
def unixEpochStart : Int := 719163

def secPerDay : Int := 86400
def usecPerSecond : Int := 1000000
def usecPerDay : Int := 86400000000

/-- `g_date_time_new_from_unix_utc`: `UNIX_TO_INSTANT`, then `g_date_time_from_instant` at
offset 0, as in GLib 2.74.  The product is taken over the integers; the C `gint64` product
overflows only for `|t|` above 9 × 10¹², outside every range below. -/
def gDateTimeNewFromUnixUtc (t : Int) : Option GDateTime :=
  let instant := (t + unixEpochStart * secPerDay) * usecPerSecond
  if instant < 0 ∨ instant > 1000000000000000000 then none
  else
    let days := (instant / usecPerDay).toNat
    if days < 1 ∨ 3652059 < days then none
    else some ⟨days, (instant % usecPerDay).toNat⟩

/-- `days_in_year[leap][month]`: the days before a month, month 1 to 13. -/
def daysInYear (leap : Bool) (month : Nat) : Nat :=
  if leap then [0, 31, 60, 91, 121, 152, 182, 213, 244, 274, 305, 335, 366].getD month 0
  else [0, 31, 59, 90, 120, 151, 181, 212, 243, 273, 304, 334, 365].getD month 0

/-- `days_in_months[leap][month]`. -/
def daysInMonths (leap : Bool) (month : Nat) : Nat :=
  if leap then [0, 31, 29, 31, 30, 31, 30, 31, 31, 30, 31, 30, 31].getD month 0
  else [0, 31, 28, 31, 30, 31, 30, 31, 31, 30, 31, 30, 31].getD month 0

/-- The month step of `g_date_time_get_ymd` on the 0-based day `remaining` of a year: the
estimate `(remaining + 50) >> 5` and the days before it, moved back one month when the
estimate overshoots. -/
def monthEstimate (leap : Bool) (remaining : Nat) : Nat × Nat :=
  let month := (remaining + 50) >>> 5
  let preceding := daysInYear false (month - 1) + if month > 2 && leap then 1 else 0
  if preceding > remaining then (month - 1, preceding - daysInMonths leap (month - 1))
  else (month, preceding)

/-- `g_date_time_get_ymd` on the day number `days ≥ 1`. -/
def gDateTimeGetYmd (days : Nat) : Nat × Nat × Nat :=
  let remaining := days - 1
  let year := remaining / 146097 * 400 + 1
  let remaining := remaining % 146097
  let y100Cycles := remaining / 36524
  let remaining := remaining % 36524
  let year := year + y100Cycles * 100
  let y4Cycles := remaining / 1461
  let remaining := remaining % 1461
  let year := year + y4Cycles * 4
  let y1Cycles := remaining / 365
  let year := year + y1Cycles
  let remaining := remaining % 365
  if y1Cycles = 4 ∨ y100Cycles = 4 then (year - 1, 12, 31)
  else
    let leap := y1Cycles == 3 && (y4Cycles != 24 || y100Cycles == 3)
    let (month, preceding) := monthEstimate leap remaining
    (year, month, remaining - preceding + 1)

/-- `%d` of a non-negative number. -/
def formatDecimal (n : Nat) : String :=
  toString n

/-- `%02d` of a non-negative number. -/
def formatTwoDigits (n : Nat) : String :=
  if n < 10 then "0" ++ toString n else toString n

/-- `g_date_time_format (datetime, "%F")`: `%d-%02d-%02d` of year, month and day; NULL for a
NULL date. -/
def gDateTimeFormatF : Option GDateTime → Option String
  | none => none
  | some datetime =>
    let (year, month, day) := gDateTimeGetYmd datetime.days
    some (formatDecimal year ++ "-" ++ formatTwoDigits month ++ "-" ++ formatTwoDigits day)

/-! ## The constructor's range -/

theorem instant_div_usecPerDay (t : Int) :
    (t + unixEpochStart * secPerDay) * usecPerSecond / usecPerDay = (t + 62135683200) / 86400 := by
  rw [show usecPerDay = 86400 * usecPerSecond from rfl,
    @Int.mul_ediv_mul_of_pos_left _ usecPerSecond _ (by decide)]
  simp [unixEpochStart, secPerDay]

/-- Outside that range it returns NULL. -/
theorem gDateTimeNewFromUnixUtc_eq_none {t : Int} (h : t < -62135596800 ∨ 253402300800 ≤ t) :
    gDateTimeNewFromUnixUtc t = none := by
  unfold gDateTimeNewFromUnixUtc
  simp only [instant_div_usecPerDay]
  split_ifs <;> first | rfl | omega

/-! ## `g_date_time_get_ymd` against the calendar -/

open Calendar

/-- The first table with the leap day added is the calendar's count of days before a month. -/
theorem preceding_eq_daysBeforeMonth : ∀ leap : Bool, ∀ month < 13, 1 ≤ month →
    daysInYear false (month - 1) + (if month > 2 && leap then 1 else 0) =
      daysBeforeMonth leap month := by
  decide

theorem daysInMonths_eq_monthLength : ∀ leap : Bool, ∀ month < 13, 1 ≤ month →
    daysInMonths leap month = monthLength leap month := by
  decide

/-- Day `remaining` of a year has estimate `(remaining + 50) / 32` at most one month off. -/
theorem daysBeforeMonth_near_estimate : ∀ leap : Bool, ∀ month < 13,
    (daysBeforeMonth leap (month - 1) + 50 ≤ 32 * month ∨ daysBeforeMonth leap (month - 1) = 0) ∧
      (32 * month < daysBeforeMonth leap (month + 1) + 19 ∨
        364 < daysBeforeMonth leap (month + 1)) := by
  decide

/-- The month step finds the month of day `remaining` and the days before that month. -/
theorem monthEstimate_spec (leap : Bool) {remaining : Nat} (h : remaining < 365) :
    ∃ month, monthEstimate leap remaining = (month, daysBeforeMonth leap month) ∧
      1 ≤ month ∧ month ≤ 12 ∧ daysBeforeMonth leap month ≤ remaining ∧
      remaining < daysBeforeMonth leap month + monthLength leap month := by
  have hshift : (remaining + 50) >>> 5 = (remaining + 50) / 32 := Nat.shiftRight_eq_div_pow _ _
  generalize hmonth : (remaining + 50) / 32 = month at hshift
  have hm : 1 ≤ month ∧ month < 13 := by omega
  have hbounds := daysBeforeMonth_near_estimate leap month hm.2
  unfold monthEstimate
  dsimp only
  rw [hshift, preceding_eq_daysBeforeMonth leap month hm.2 hm.1]
  split_ifs with hover
  · -- the estimate overshoots: the day is in the month before
    have hfirst : daysBeforeMonth leap 1 = 0 := rfl
    obtain ⟨before, rfl⟩ : ∃ before, month = before + 1 := ⟨month - 1, by omega⟩
    have hbefore : 1 ≤ before := by
      rcases Nat.eq_zero_or_pos before with rfl | hpos
      · simp [hfirst] at hover
      · exact hpos
    have hlength := daysInMonths_eq_monthLength leap before (by omega) hbefore
    have hstep : daysBeforeMonth leap (before + 1) =
        daysBeforeMonth leap before + monthLength leap before := countBefore_add_one hbefore
    refine ⟨before, by simp [hlength, hstep], hbefore, by omega, ?_, by omega⟩
    simp only [Nat.add_sub_cancel] at hbounds
    omega
  · have hstep : daysBeforeMonth leap (month + 1) =
        daysBeforeMonth leap month + monthLength leap month := countBefore_add_one hm.1
    exact ⟨month, rfl, hm.1, by omega, by omega, by omega⟩

/-- The days before the year `400 q + 100 c + 4 f + g + 1`. -/
theorem daysBeforeYear_cycles {q c f g : Nat} (hc : c ≤ 3) (hf : f ≤ 24) (hg : g ≤ 3) :
    daysBeforeYear (400 * q + 100 * c + 4 * f + g + 1) =
      146097 * q + 36524 * c + 1461 * f + 365 * g := by
  rw [daysBeforeYear_succ]
  omega

/-- The leap test of `g_date_time_get_ymd` is the calendar's. -/
theorem isLeapYear_cycles {q c f g : Nat} (hc : c ≤ 3) (hf : f ≤ 24) (hg : g ≤ 3) :
    isLeapYear (400 * q + 100 * c + 4 * f + g + 1) = (g == 3 && (f != 24 || c == 3)) := by
  rw [Bool.eq_iff_iff]
  simp [isLeapYear]
  omega

/-- The 400-, 100-, 4- and 1-year cycles `g_date_time_get_ymd` splits a day number into; a
cycle count reaches 4 only on the last day of a 400- or 4-year cycle. -/
theorem days_eq_cycles {days q r1 c r2 f r3 g remaining : Nat} (hdays : 1 ≤ days)
    (hq : (days - 1) / 146097 = q) (hr1 : (days - 1) % 146097 = r1)
    (hc : r1 / 36524 = c) (hr2 : r1 % 36524 = r2) (hf : r2 / 1461 = f) (hr3 : r2 % 1461 = r3)
    (hg : r3 / 365 = g) (hremaining : r3 % 365 = remaining) :
    days = 146097 * q + 36524 * c + 1461 * f + 365 * g + remaining + 1 ∧ remaining < 365 ∧
      c ≤ 4 ∧ f ≤ 24 ∧ g ≤ 4 ∧ (c = 4 → f = 0 ∧ g = 0 ∧ remaining = 0) ∧
      (f = 24 → g ≤ 3) ∧ (g = 4 → remaining = 0) := by
  omega

/-- 31 December of a leap year comes 366 days after the days before the year. -/
theorem leapYearEnd_dayNumber {year : Nat} (hyear : 1 ≤ year) (hleap : isLeapYear year = true) :
    ∃ date : CivilDate, (year, 12, 31) = (date.year, date.month, date.day) ∧
      date.dayNumber = daysBeforeYear year + 366 := by
  refine ⟨⟨year, 12, 31, hyear, by decide, ⟨by decide, le_refl 31⟩⟩, rfl, ?_⟩
  simp only [CivilDate.dayNumber, hleap]
  rfl

/-- The month step places the 0-based day `remaining` of any year. -/
theorem dayOfYear_dayNumber {year remaining : Nat} (hyear : 1 ≤ year) (hremaining : remaining < 365) :
    ∃ date : CivilDate, (year, (monthEstimate (isLeapYear year) remaining).1,
        remaining - (monthEstimate (isLeapYear year) remaining).2 + 1) =
          (date.year, date.month, date.day) ∧
      date.dayNumber = daysBeforeYear year + remaining + 1 := by
  obtain ⟨month, hest, h1, h12, hle, hlt⟩ := monthEstimate_spec (isLeapYear year) hremaining
  rw [hest]
  refine ⟨⟨year, month, remaining - daysBeforeMonth _ month + 1, hyear, ⟨h1, h12⟩, by omega⟩,
    rfl, ?_⟩
  simp only [CivilDate.dayNumber]
  omega

/-- `g_date_time_get_ymd` returns the calendar date whose number is `days`. -/
theorem gDateTimeGetYmd_dayNumber {days : Nat} (hdays : 1 ≤ days) :
    ∃ date : CivilDate, gDateTimeGetYmd days = (date.year, date.month, date.day) ∧
      date.dayNumber = days := by
  unfold gDateTimeGetYmd
  dsimp only
  generalize hq : (days - 1) / 146097 = q
  generalize hr1 : (days - 1) % 146097 = r1
  generalize hc : r1 / 36524 = c
  generalize hr2 : r1 % 36524 = r2
  generalize hf : r2 / 1461 = f
  generalize hr3 : r2 % 1461 = r3
  generalize hg : r3 / 365 = g
  generalize hremaining : r3 % 365 = remaining
  obtain ⟨rfl, hremaining365, hc4, hf24, hg4, hlast400, hcentury, hlast4⟩ :=
    days_eq_cycles hdays hq hr1 hc hr2 hf hr3 hg hremaining
  clear hq hr1 hc hr2 hf hr3 hg hremaining hdays
  split_ifs with hspecial
  · -- the last day of a 4- or 400-year cycle: 31 December of the leap year before
    obtain ⟨c', f', hc', hf', hleap, hyear, hnumber⟩ : ∃ c' f', c' ≤ 3 ∧ f' ≤ 24 ∧
        (f' != 24 || c' == 3) = true ∧
        q * 400 + 1 + c * 100 + f * 4 + g - 1 = 400 * q + 100 * c' + 4 * f' + 3 + 1 ∧
        146097 * q + 36524 * c + 1461 * f + 365 * g + remaining + 1 =
          146097 * q + 36524 * c' + 1461 * f' + 365 * 3 + 366 := by
      rcases hspecial with hg4 | hc4
      · exact ⟨c, f, by omega, by omega, by simp; omega, by omega, by omega⟩
      · exact ⟨3, 24, le_rfl, le_rfl, rfl, by omega, by omega⟩
    obtain ⟨date, hdate, hdateNumber⟩ :=
      leapYearEnd_dayNumber (show 1 ≤ 400 * q + 100 * c' + 4 * f' + 3 + 1 by omega)
        (by rw [isLeapYear_cycles hc' hf' le_rfl]; exact hleap)
    refine ⟨date, by rw [hyear, hdate], ?_⟩
    rw [hdateNumber, daysBeforeYear_cycles hc' hf' le_rfl, hnumber]
  · have hyear : q * 400 + 1 + c * 100 + f * 4 + g = 400 * q + 100 * c + 4 * f + g + 1 := by
      omega
    rw [← isLeapYear_cycles (by omega) hf24 (by omega), hyear]
    obtain ⟨date, hdate, hdateNumber⟩ :=
      dayOfYear_dayNumber (show 1 ≤ 400 * q + 100 * c + 4 * f + g + 1 by omega) hremaining365
    refine ⟨date, hdate, ?_⟩
    rw [hdateNumber, daysBeforeYear_cycles (by omega) hf24 (by omega)]

/-- `g_date_time_get_ymd` and the calendar's day numbering are inverse to each other: on the
number of any date from year 1 on it returns that date, and every day from 1 on is the number
of the date it returns. -/
theorem gDateTimeGetYmd_civilDate :
    (∀ date : CivilDate, gDateTimeGetYmd date.dayNumber = (date.year, date.month, date.day)) ∧
      ∀ days, 1 ≤ days → ∃ date : CivilDate,
        gDateTimeGetYmd days = (date.year, date.month, date.day) ∧ date.dayNumber = days := by
  refine ⟨fun date ↦ ?_, fun _ ↦ gDateTimeGetYmd_dayNumber⟩
  have hpos : 1 ≤ date.dayNumber := by
    have := date.dayNumber_mem
    omega
  obtain ⟨date', hymd, hnumber⟩ := gDateTimeGetYmd_dayNumber hpos
  rw [hymd, CivilDate.dayNumber_injective hnumber]

end FwupdDevice.GLib
