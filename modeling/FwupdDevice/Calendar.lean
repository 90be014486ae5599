import Mathlib.Order.Monotone.Basic

/-!
# The proleptic Gregorian calendar

What a date printed by `%F` should be, stated without GLib: a year has 365 days, 366 in a
leap year (every fourth year, but not every hundredth, but every four-hundredth); a month has
the length of the rhyme; and a date's number counts the days from 0001-01-01, which is day 1.
`daysBeforeYear_succ` gives the days before a year in closed form, and
`CivilDate.dayNumber_injective` says that a day number names at most one date.
-/

namespace FwupdDevice.Calendar

/-- The Gregorian leap-year rule, extended back to year 1. -/
def isLeapYear (year : Nat) : Bool :=
  year % 4 == 0 && (year % 100 != 0 || year % 400 == 0)

def yearLength (year : Nat) : Nat :=
  if isLeapYear year then 366 else 365

/-- Thirty days have September, April, June and November; February has 28, 29 in a leap
year; the rest have 31. -/
def monthLength (leap : Bool) : Nat → Nat
  | 2 => if leap then 29 else 28
  | 4 | 6 | 9 | 11 => 30
  | _ => 31

/-- The days of the periods (years or months, numbered from 1) before period `n`. -/
def countBefore (length : Nat → Nat) : Nat → Nat
  | 0 | 1 => 0
  | n + 2 => countBefore length (n + 1) + length (n + 1)

def daysBeforeYear : Nat → Nat :=
  countBefore yearLength

def daysBeforeMonth (leap : Bool) : Nat → Nat :=
  countBefore (monthLength leap)

/-- A date of the proleptic Gregorian calendar. -/
structure CivilDate where
  year : Nat
  month : Nat
  day : Nat
  one_le_year : 1 ≤ year
  month_mem : 1 ≤ month ∧ month ≤ 12
  day_mem : 1 ≤ day ∧ day ≤ monthLength (isLeapYear year) month

/-- The number of a date, 0001-01-01 being day 1. -/
def CivilDate.dayNumber (date : CivilDate) : Nat :=
  daysBeforeYear date.year + daysBeforeMonth (isLeapYear date.year) date.month + date.day

section CountBefore

variable {length : Nat → Nat}

theorem countBefore_add_one {n : Nat} (h : 1 ≤ n) :
    countBefore length (n + 1) = countBefore length n + length n := by
  obtain ⟨k, rfl⟩ := Nat.exists_eq_add_of_le h
  rw [Nat.add_comm 1 k]
  rfl

theorem countBefore_mono : Monotone (countBefore length) :=
  monotone_nat_of_le_succ fun n ↦ by
    rcases Nat.eq_zero_or_pos n with rfl | h
    · exact le_rfl
    · rw [countBefore_add_one h]
      omega

/-- A count lies in the span of at most one period. -/
theorem eq_of_countBefore_lt {n n' count : Nat}
    (h : countBefore length n < count ∧ count ≤ countBefore length (n + 1))
    (h' : countBefore length n' < count ∧ count ≤ countBefore length (n' + 1)) : n = n' := by
  by_contra hne
  rcases Nat.lt_or_gt_of_ne hne with hlt | hlt
  · have := @countBefore_mono length (n + 1) n' hlt
    omega
  · have := @countBefore_mono length (n' + 1) n hlt
    omega

end CountBefore

/-! ## Years and months -/

/-- The days before year `n + 1` in closed form. -/
theorem daysBeforeYear_succ (n : Nat) :
    daysBeforeYear (n + 1) = 365 * n + n / 4 - n / 100 + n / 400 := by
  induction n with
  | zero => rfl
  | succ n ih =>
    have hle : n / 100 ≤ n / 4 := Nat.div_le_div_left (by decide) (by decide)
    rw [daysBeforeYear, countBefore_add_one (by omega), ← daysBeforeYear, ih, yearLength,
      isLeapYear, Nat.succ_div n 4, Nat.succ_div n 100, Nat.succ_div n 400]
    simp only [Nat.dvd_iff_mod_eq_zero]
    by_cases h400 : (n + 1) % 400 = 0
    · -- a four-hundredth year is a leap year
      have h100 : (n + 1) % 100 = 0 := by omega
      have h4 : (n + 1) % 4 = 0 := by omega
      simp [h4, h100, h400]
      omega
    by_cases h100 : (n + 1) % 100 = 0
    · -- another hundredth year is not
      have h4 : (n + 1) % 4 = 0 := by omega
      simp [h4, h100, h400]
      omega
    by_cases h4 : (n + 1) % 4 = 0
    · -- another fourth year is
      simp [h4, h100, h400]
      omega
    · simp [h4, h100, h400]
      omega

theorem daysBeforeMonth_thirteen (year : Nat) :
    daysBeforeMonth (isLeapYear year) 13 = yearLength year := by
  unfold yearLength
  cases isLeapYear year <;> rfl

/-- A day of a month lies in the span of that month. -/
theorem daysBeforeMonth_add_day {leap : Bool} {month day : Nat} (hmonth : 1 ≤ month)
    (hday : 1 ≤ day ∧ day ≤ monthLength leap month) :
    daysBeforeMonth leap month < daysBeforeMonth leap month + day ∧
      daysBeforeMonth leap month + day ≤ daysBeforeMonth leap (month + 1) := by
  rw [daysBeforeMonth, countBefore_add_one hmonth]
  omega

/-- A date's number lies in the span of its year. -/
theorem CivilDate.dayNumber_mem (date : CivilDate) :
    daysBeforeYear date.year < date.dayNumber ∧
      date.dayNumber ≤ daysBeforeYear (date.year + 1) := by
  have hday := daysBeforeMonth_add_day date.month_mem.1 date.day_mem
  have hmonth : daysBeforeMonth (isLeapYear date.year) (date.month + 1) ≤
      daysBeforeMonth (isLeapYear date.year) 13 := countBefore_mono (Nat.succ_le_succ date.month_mem.2)
  have hyear : daysBeforeYear (date.year + 1) =
      daysBeforeYear date.year + daysBeforeMonth (isLeapYear date.year) 13 := by
    rw [daysBeforeMonth_thirteen]
    exact countBefore_add_one date.one_le_year
  unfold dayNumber
  omega

/-- A day number names at most one date. -/
theorem CivilDate.dayNumber_injective : Function.Injective CivilDate.dayNumber := by
  intro date date' h
  have hyear : date.year = date'.year :=
    eq_of_countBefore_lt date.dayNumber_mem (h ▸ date'.dayNumber_mem)
  obtain ⟨year, month, day, _, hmonth, hday⟩ := date
  obtain ⟨year', month', day', _, hmonth', hday'⟩ := date'
  simp only [dayNumber] at h hyear
  subst hyear
  have hcount : daysBeforeMonth (isLeapYear year) month + day =
      daysBeforeMonth (isLeapYear year) month' + day' := by omega
  have hmonth_eq : month = month' := eq_of_countBefore_lt (daysBeforeMonth_add_day hmonth.1 hday)
    (hcount ▸ daysBeforeMonth_add_day hmonth'.1 hday')
  subst hmonth_eq
  obtain rfl : day = day' := by omega
  rfl

end FwupdDevice.Calendar
