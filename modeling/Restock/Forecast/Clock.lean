import Mathlib.Data.Int.CardIntervalMod
import Mathlib.Data.Int.ConditionallyCompleteOrder
import Mathlib.Data.Rat.Sqrt
import Restock.Shop.Schema

/-!
# Days, numbers and texts of the engine

What `packages/forecast/src` uses of the language: UTC day keys of dates, months of the
calendar, rounding and the texts of numbers. Quantities are exact rationals. A square root,
an exponential, a power and the decimal text of a number are not rational functions; they
are the fields of a parameter `Js`, as are the two case foldings of a text.

* `dayKeyOf`, `daysBefore`, `dayKeys` — day keys and loops over them;
* `card_dayKeys` — a window of some days contains that many day keys;
* `monthOf`, `isoMonth`, `monthKeyOf` — months;
* `jsRound`, `toFixed` — numbers.
-/

namespace Restock.Forecast

/-- The functions of the language that exact rationals do not carry. -/
structure Js where
  /-- `Math.sqrt`. -/
  sqrt : ℚ → ℚ
  /-- `Math.exp`. -/
  exp : ℚ → ℚ
  /-- `Math.pow`. -/
  pow : ℚ → ℚ → ℚ
  /-- The text of a number in a template. -/
  text : ℚ → String
  /-- `String.prototype.toUpperCase`. -/
  toUpperCase : String → String
  /-- `String.prototype.toLowerCase`. -/
  toLowerCase : String → String

/-! ## Days -/

/-- The milliseconds of a day. -/
def DAY_MS : ℤ := 86400000

/-- UTC-midnight epoch for a date's day-key. -/
def dayKeyOf (d : ℤ) : ℤ :=
  d / DAY_MS * DAY_MS

/-- `setUTCDate(getUTCDate() - days)`. -/
def daysBefore (d : ℤ) (days : ℤ) : ℤ :=
  d - days * DAY_MS

/-- The days from one date to another. -/
def daysBetween (since upTo : ℤ) : ℚ :=
  (upTo - since : ℤ) / (DAY_MS : ℚ)

/-- The dates `since`, a day later, and so on, up to and without `upTo`. -/
def dayKeys (since upTo : ℤ) : List ℤ :=
  (List.range ((upTo - since + (DAY_MS - 1)) / DAY_MS).toNat).map fun i : ℕ => since + i * DAY_MS

section Days

theorem dayMs_pos : 0 < DAY_MS := by decide

theorem dayMs_pos_rat : (0 : ℚ) < (DAY_MS : ℚ) := by norm_num [DAY_MS]

/-- A day key is a multiple of a day. -/
theorem dvd_dayKeyOf (d : ℤ) : DAY_MS ∣ dayKeyOf d :=
  Dvd.intro_left _ rfl

/-- A day key is its own day key. -/
theorem dayKeyOf_eq_self {d : ℤ} : dayKeyOf d = d ↔ DAY_MS ∣ d := by
  constructor
  · intro h
    rw [← h]
    exact dvd_dayKeyOf d
  · intro h
    exact Int.ediv_mul_cancel h

@[simp] theorem dayKeyOf_dayKeyOf (d : ℤ) : dayKeyOf (dayKeyOf d) = dayKeyOf d :=
  dayKeyOf_eq_self.mpr (dvd_dayKeyOf d)

/-- A date is on the day of its day key. -/
theorem dayKeyOf_le (d : ℤ) : dayKeyOf d ≤ d ∧ d < dayKeyOf d + DAY_MS := by
  unfold dayKeyOf DAY_MS
  omega

/-- A day key is at or before a date exactly when it is at or before the date's day. -/
theorem le_dayKeyOf {k d : ℤ} (hk : DAY_MS ∣ k) : k ≤ dayKeyOf d ↔ k ≤ d := by
  obtain ⟨n, rfl⟩ := hk
  unfold dayKeyOf DAY_MS
  omega

/-- A date is before a day key exactly when its day is. -/
theorem dayKeyOf_lt {k d : ℤ} (hk : DAY_MS ∣ k) : dayKeyOf d < k ↔ d < k := by
  rw [← not_le, ← not_le, le_dayKeyOf hk]

/-- A date a number of days before a day key is a day key. -/
theorem dvd_daysBefore {d : ℤ} (hd : DAY_MS ∣ d) (days : ℤ) : DAY_MS ∣ daysBefore d days :=
  Int.dvd_sub hd (Dvd.intro_left _ rfl)

/-- Dates a whole number of days apart. -/
theorem daysBetween_eq {since upTo days : ℤ} (h : upTo - since = days * DAY_MS) :
    daysBetween since upTo = days := by
  rw [daysBetween, h, Int.cast_mul, mul_div_cancel_right₀ _ dayMs_pos_rat.ne']

/-- A window that goes back a number of days is that long. -/
theorem daysBetween_daysBefore (d days : ℤ) : daysBetween (daysBefore d days) d = days :=
  daysBetween_eq (sub_sub_cancel d (days * DAY_MS))

/-- Later dates are no fewer days away. -/
theorem daysBetween_le (since : ℤ) {d d' : ℤ} (h : d ≤ d') :
    daysBetween since d ≤ daysBetween since d' := by
  refine div_le_div_of_nonneg_right ?_ dayMs_pos_rat.le
  exact_mod_cast sub_le_sub_right h since

/-- A window that goes back a number of days contains that many day keys. -/
theorem card_dayKeys (d : ℤ) {days : ℤ} (hdays : 0 ≤ days) :
    (((Finset.Ico (daysBefore d days) d).filter (DAY_MS ∣ ·)).card : ℤ) = days := by
  have hpos := dayMs_pos_rat
  have hsince : ((daysBefore d days : ℤ) : ℚ) / (DAY_MS : ℚ) = (d : ℚ) / (DAY_MS : ℚ) - days := by
    rw [daysBefore]
    push_cast
    field_simp
  rw [Int.Ico_filter_dvd_card _ _ dayMs_pos, hsince, Int.ceil_sub_intCast]
  omega

/-- What is listed by `dayKeys` when both ends are day keys: the day keys between them. -/
theorem mem_dayKeys {since upTo k : ℤ} (hsince : DAY_MS ∣ since) (hupTo : DAY_MS ∣ upTo) :
    k ∈ dayKeys since upTo ↔ DAY_MS ∣ k ∧ since ≤ k ∧ k < upTo := by
  obtain ⟨a, rfl⟩ := hsince
  obtain ⟨b, rfl⟩ := hupTo
  rw [dayKeys, List.mem_map]
  constructor
  · rintro ⟨i, hi, rfl⟩
    rw [List.mem_range] at hi
    refine ⟨⟨a + i, by ring⟩, ?_, ?_⟩ <;> unfold DAY_MS at * <;> omega
  · rintro ⟨⟨c, rfl⟩, hle, hlt⟩
    refine ⟨(c - a).toNat, ?_, ?_⟩
    · rw [List.mem_range]
      unfold DAY_MS at *
      omega
    · unfold DAY_MS at *
      omega

/-- `dayKeys` lists no date twice. -/
theorem nodup_dayKeys (since upTo : ℤ) : (dayKeys since upTo).Nodup := by
  refine List.Nodup.map (fun i j hij => ?_) List.nodup_range
  replace hij : since + (i : ℤ) * DAY_MS = since + (j : ℤ) * DAY_MS := hij
  unfold DAY_MS at hij
  omega

end Days

/-! ## Months -/

/-- The year and month (from 1) of a day counted from the epoch. -/
def monthOf (d : ℤ) : ℤ × ℕ :=
  -- days since the first of March of the year zero, in cycles of 400 years
  let days := d / DAY_MS + 719468
  let dayOfEra := (days % 146097).toNat
  let yearOfEra := (dayOfEra - dayOfEra / 1460 + dayOfEra / 36524 - dayOfEra / 146096) / 365
  let dayOfYear := dayOfEra - (365 * yearOfEra + yearOfEra / 4 - yearOfEra / 100)
  let month := (5 * dayOfYear + 2) / 153
  let year := yearOfEra + days / 146097 * 400
  if month < 10 then (year, month + 3) else (year + 1, month - 9)

/-- A number with zeros in front. -/
def padStart (width n : ℕ) : String :=
  let digits := Nat.toDigits 10 n
  String.ofList (List.replicate (width - digits.length) '0' ++ digits)

/-- `toISOString().slice(0, 7)`. -/
def isoMonth (d : ℤ) : String :=
  let (year, month) := monthOf d
  if 0 ≤ year ∧ year ≤ 9999 then padStart 4 year.toNat ++ "-" ++ padStart 2 month
  else (if year < 0 then "-" else "+") ++ padStart 6 year.natAbs

/-- Month key as stored on MonthlyContext. -/
def monthKeyOf (d : ℤ) : String :=
  let (year, month) := monthOf d
  toString year ++ "-" ++ padStart 2 month

example : monthKeyOf 1735689599999 = "2024-12" ∧ isoMonth (-1) = "1969-12" := by decide +kernel

/-! ## Numbers -/

/-- `Math.round`: halves go up. -/
def jsRound (q : ℚ) : ℤ :=
  ⌊q + 1 / 2⌋

/-- `Number.prototype.toFixed`: halves go away from zero. -/
def toFixed (digits : ℕ) (q : ℚ) : String :=
  let n := (jsRound (|q| * 10 ^ digits)).toNat
  let whole := toString (n / 10 ^ digits)
  let fraction := if digits = 0 then "" else "." ++ padStart digits (n % 10 ^ digits)
  (if q < 0 then "-" else "") ++ whole ++ fraction

example : toFixed 2 (-5 / 4) = "-1.25" ∧ toFixed 0 (5 / 2) = "3" := by decide +kernel

/-- A whole number rounds to itself. -/
@[simp] theorem jsRound_intCast (n : ℤ) : jsRound n = n := by
  rw [jsRound, Int.floor_intCast_add]
  norm_num

/-- What rounds to at least a whole number. -/
theorem le_jsRound {n : ℤ} {q : ℚ} : n ≤ jsRound q ↔ (n : ℚ) - 1 / 2 ≤ q := by
  rw [jsRound, Int.le_floor, sub_le_iff_le_add]

/-- What rounds to less than a whole number. -/
theorem jsRound_lt {n : ℤ} {q : ℚ} : jsRound q < n ↔ q < (n : ℚ) - 1 / 2 := by
  rw [jsRound, Int.floor_lt, lt_sub_iff_add_lt]

/-- A rounded number is within a half of it. -/
theorem jsRound_bounds (q : ℚ) : q - 1 / 2 < jsRound q ∧ (jsRound q : ℚ) ≤ q + 1 / 2 := by
  have hle : ((jsRound q : ℤ) : ℚ) - 1 / 2 ≤ q := le_jsRound.mp le_rfl
  have hlt : q < ((jsRound q + 1 : ℤ) : ℚ) - 1 / 2 := jsRound_lt.mp (lt_add_one _)
  rw [Int.cast_add, Int.cast_one] at hlt
  constructor <;> linarith

/-- The functions of the language on the arguments on which they are rational: the root of a
square, the exponential of zero, a whole power, the text of a number with few decimals. -/
def Js.rational : Js where
  sqrt := Rat.sqrt
  exp _ := 1
  pow q n := q ^ ⌊n⌋
  text q := toFixed (((List.range 18).find? fun d => (q * 10 ^ d).den = 1).getD 17) q
  toUpperCase := String.toUpper
  toLowerCase := String.toLower

example : Js.rational.text (233 / 100) = "2.33" ∧ Js.rational.text 7 = "7" := by decide +kernel

end Restock.Forecast
