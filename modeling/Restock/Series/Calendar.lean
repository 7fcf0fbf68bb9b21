import Mathlib.Tactic.IntervalCases
import Mathlib.Tactic.Ring

/-!
# The calendar

The Gregorian calendar, continued backwards, with its days numbered from the first of January
1970. Years and months are found from a day number by division, and the dates are exactly the
day numbers.

* `daysBeforeYear`, `yearOf` — the first day of a year, and the year of a day;
* `daysBeforeMonth`, `monthOfYearDay` — the same for months within a year;
* `CivilDate` — a date, with the proof that its month and its day exist;
* `ofNumber_number`, `number_ofNumber` — dates and day numbers are the same thing.
-/

namespace Series

/-! ## Years -/

/-- Every fourth year is a leap year, of the full centuries only every fourth. -/
def IsLeap (y : ℤ) : Prop :=
  y % 4 = 0 ∧ (y % 100 ≠ 0 ∨ y % 400 = 0)

instance (y : ℤ) : Decidable (IsLeap y) :=
  inferInstanceAs (Decidable (_ ∧ _))

/-- The days a year has more than 365. -/
def leapDay (y : ℤ) : ℤ :=
  if IsLeap y then 1 else 0

/-- The number of the first day of a year. -/
def daysBeforeYear (y : ℤ) : ℤ :=
  365 * (y - 1970) + (y - 1969) / 4 - (y - 1901) / 100 + (y - 1601) / 400

/-- The year of a day. -/
def yearOf (n : ℤ) : ℤ :=
  -- years are 146097 / 400 days long on average, which is off by a year at most
  let guess := 1970 + 400 * n / 146097
  if n < daysBeforeYear guess then guess - 1
  else if n < daysBeforeYear (guess + 1) then guess
  else guess + 1

section Years

theorem leapDay_mem (y : ℤ) : 0 ≤ leapDay y ∧ leapDay y ≤ 1 := by
  unfold leapDay
  split
  · exact ⟨zero_le_one, le_rfl⟩
  · exact ⟨le_rfl, zero_le_one⟩

/-- How long a year is. -/
theorem daysBeforeYear_succ (y : ℤ) :
    daysBeforeYear (y + 1) = daysBeforeYear y + 365 + leapDay y := by
  rw [leapDay]
  by_cases h : IsLeap y
  · rw [if_pos h]
    unfold IsLeap at h
    unfold daysBeforeYear
    omega
  · rw [if_neg h]
    unfold IsLeap at h
    unfold daysBeforeYear
    omega

/-- Later years begin later. -/
theorem daysBeforeYear_lt_iff {y y' : ℤ} : daysBeforeYear y < daysBeforeYear y' ↔ y < y' := by
  have hmono : StrictMono daysBeforeYear := by
    refine strictMono_int_of_lt_succ fun y => ?_
    have hleap := leapDay_mem y
    rw [daysBeforeYear_succ]
    omega
  exact hmono.lt_iff_lt

/-- Years begin in their order. -/
theorem daysBeforeYear_le_iff {y y' : ℤ} : daysBeforeYear y ≤ daysBeforeYear y' ↔ y ≤ y' := by
  rw [← not_lt, daysBeforeYear_lt_iff, not_lt]

/-- A day is in its year. -/
theorem yearOf_spec (n : ℤ) :
    daysBeforeYear (yearOf n) ≤ n ∧ n < daysBeforeYear (yearOf n + 1) := by
  -- the guess is wrong by a year at most, to either side
  have hlower : daysBeforeYear (1970 + 400 * n / 146097 - 1) ≤ n := by
    unfold daysBeforeYear
    omega
  have hupper : n < daysBeforeYear (1970 + 400 * n / 146097 + 1 + 1) := by
    unfold daysBeforeYear
    omega
  unfold yearOf
  dsimp only
  split
  case isTrue h => exact ⟨hlower, by rwa [sub_add_cancel]⟩
  case isFalse h =>
    split
    case isTrue h' => exact ⟨not_lt.mp h, h'⟩
    case isFalse h' => exact ⟨not_lt.mp h', hupper⟩

/-- A day is in no other year. -/
theorem yearOf_eq {n y : ℤ} (h : daysBeforeYear y ≤ n) (h' : n < daysBeforeYear (y + 1)) :
    yearOf n = y := by
  obtain ⟨hle, hlt⟩ := yearOf_spec n
  have hbefore : y < yearOf n + 1 := daysBeforeYear_lt_iff.mp (h.trans_lt hlt)
  have hafter : yearOf n < y + 1 := daysBeforeYear_lt_iff.mp (hle.trans_lt h')
  omega

/-- What is left of a day number after its year is a day of the year. -/
theorem sub_daysBeforeYear_mem (n : ℤ) :
    0 ≤ n - daysBeforeYear (yearOf n) ∧
      n - daysBeforeYear (yearOf n) < 365 + leapDay (yearOf n) := by
  have hyear := yearOf_spec n
  rw [daysBeforeYear_succ] at hyear
  omega

end Years

/-! ## Months -/

/-- The days of a year before a month. -/
def daysBeforeMonth (y m : ℤ) : ℤ :=
  -- from March on, five months in a row are 153 days long
  if m ≤ 2 then 31 * (m - 1) else (153 * (m - 3) + 2) / 5 + 59 + leapDay y

/-- How long a month is. -/
def daysInMonth (y m : ℤ) : ℤ :=
  if m = 2 then 28 + leapDay y
  else if m = 4 ∨ m = 6 ∨ m = 9 ∨ m = 11 then 30
  else 31

/-- The month of a day of the year, the first day being zero. -/
def monthOfYearDay (y k : ℤ) : ℤ :=
  if k < 31 then 1
  else if k < 59 + leapDay y then 2
  else (5 * (k - 59 - leapDay y) + 2) / 153 + 3

section Months

variable {y m d k : ℤ}

/-- A month begins where the one before it ends. -/
theorem daysBeforeMonth_succ (hm : 1 ≤ m ∧ m ≤ 12) :
    daysBeforeMonth y (m + 1) = daysBeforeMonth y m + daysInMonth y m := by
  obtain ⟨hfirst, hlast⟩ := hm
  unfold daysBeforeMonth daysInMonth
  -- one month at a time, with the leap day left as it is
  interval_cases m <;> norm_num <;> ring

/-- A month does not begin before its year. -/
theorem daysBeforeMonth_nonneg (hm : 1 ≤ m) : 0 ≤ daysBeforeMonth y m := by
  have hleap := leapDay_mem y
  unfold daysBeforeMonth
  split
  case isTrue => omega
  case isFalse => omega

/-- A day of the year is in its month, and the month exists. -/
theorem monthOfYearDay_spec (hk : 0 ≤ k ∧ k < 365 + leapDay y) :
    (1 ≤ monthOfYearDay y k ∧ monthOfYearDay y k ≤ 12) ∧
      daysBeforeMonth y (monthOfYearDay y k) ≤ k ∧
      k < daysBeforeMonth y (monthOfYearDay y k + 1) := by
  have hleap := leapDay_mem y
  unfold monthOfYearDay daysBeforeMonth
  split
  case isTrue h =>
    -- January
    norm_num
    omega
  case isFalse h =>
    split
    case isTrue h' =>
      -- February
      norm_num
      omega
    case isFalse h' =>
      -- from March on: the five-month blocks of 153 days are counted with one division each way
      rw [if_neg (by omega), if_neg (by omega)]
      omega

/-- A day of a month is in no other month. -/
theorem monthOfYearDay_eq (hm : 1 ≤ m ∧ m ≤ 12) (hd : 1 ≤ d ∧ d ≤ daysInMonth y m) :
    monthOfYearDay y (daysBeforeMonth y m + (d - 1)) = m := by
  have hleap := leapDay_mem y
  have hend := daysBeforeMonth_succ (y := y) hm
  obtain ⟨hfirst, hlast⟩ := hm
  unfold daysBeforeMonth at hend ⊢
  unfold monthOfYearDay
  interval_cases m <;> norm_num at hend ⊢ <;> omega

/-- A day of a month is a day of the year. -/
theorem yearDay_mem (hm : 1 ≤ m ∧ m ≤ 12) (hd : 1 ≤ d ∧ d ≤ daysInMonth y m) :
    0 ≤ daysBeforeMonth y m + (d - 1) ∧ daysBeforeMonth y m + (d - 1) < 365 + leapDay y := by
  have hleap := leapDay_mem y
  have hend := daysBeforeMonth_succ (y := y) hm
  obtain ⟨hfirst, hlast⟩ := hm
  unfold daysBeforeMonth at hend ⊢
  -- the last day of December is the last of the year
  interval_cases m <;> norm_num at hend ⊢ <;> omega

end Months

/-! ## Dates -/

/-- A date of the calendar. -/
@[ext]
structure CivilDate where
  year : ℤ
  month : ℤ
  day : ℤ
  /-- The month exists. -/
  month_mem : 1 ≤ month ∧ month ≤ 12
  /-- The month has the day. -/
  day_mem : 1 ≤ day ∧ day ≤ daysInMonth year month
  deriving DecidableEq, Repr

namespace CivilDate

/-- The day of the year, the first being zero. -/
def yearDay (date : CivilDate) : ℤ :=
  daysBeforeMonth date.year date.month + (date.day - 1)

/-- The number of a date. -/
def number (date : CivilDate) : ℤ :=
  daysBeforeYear date.year + date.yearDay

/-- The date of a day number. -/
def ofNumber (n : ℤ) : CivilDate where
  year := yearOf n
  month := monthOfYearDay (yearOf n) (n - daysBeforeYear (yearOf n))
  day := n - daysBeforeYear (yearOf n)
    - daysBeforeMonth (yearOf n) (monthOfYearDay (yearOf n) (n - daysBeforeYear (yearOf n))) + 1
  month_mem := (monthOfYearDay_spec (sub_daysBeforeYear_mem n)).1
  day_mem := by
    obtain ⟨hmonth, hle, hlt⟩ := monthOfYearDay_spec (sub_daysBeforeYear_mem n)
    rw [daysBeforeMonth_succ hmonth] at hlt
    omega

variable (date : CivilDate) (n : ℤ)

/-- A date is in its year. -/
theorem number_mem :
    daysBeforeYear date.year ≤ date.number ∧ date.number < daysBeforeYear (date.year + 1) := by
  have hday := yearDay_mem date.month_mem date.day_mem
  rw [daysBeforeYear_succ, number, yearDay]
  omega

/-- A date is in a year or later exactly when it is not before the first day of the year. -/
theorem le_year_iff {y : ℤ} : y ≤ date.year ↔ daysBeforeYear y ≤ date.number := by
  constructor
  · intro h
    exact (daysBeforeYear_le_iff.mpr h).trans date.number_mem.1
  · intro h
    have hlt := daysBeforeYear_lt_iff.mp (h.trans_lt date.number_mem.2)
    omega

@[simp] theorem number_ofNumber : (ofNumber n).number = n := by
  rw [number, yearDay, ofNumber]
  ring

@[simp] theorem ofNumber_number : ofNumber date.number = date := by
  have hyear : yearOf date.number = date.year :=
    yearOf_eq date.number_mem.1 date.number_mem.2
  have hrest : date.number - daysBeforeYear date.year = date.yearDay := by
    rw [number, add_sub_cancel_left]
  have hmonth : monthOfYearDay date.year date.yearDay = date.month :=
    monthOfYearDay_eq date.month_mem date.day_mem
  apply CivilDate.ext
  · exact hyear
  · show monthOfYearDay (yearOf date.number) (date.number - daysBeforeYear (yearOf date.number)) = _
    rw [hyear, hrest, hmonth]
  · show date.number - daysBeforeYear (yearOf date.number) - daysBeforeMonth (yearOf date.number)
      (monthOfYearDay (yearOf date.number) (date.number - daysBeforeYear (yearOf date.number))) + 1
        = _
    rw [hyear, hrest, hmonth, yearDay]
    ring

end CivilDate

end Series
