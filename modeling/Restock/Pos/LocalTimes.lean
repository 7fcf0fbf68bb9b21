import Restock.Purchasing.CreatePo
import Restock.Sales.TradingDay
import Restock.Series.Calendar

/-!
# Till timestamps

`packages/pos/src/time.ts`: a till sends the date and time its clock shows, mostly without an
offset: a local time of the tenant's zone. The ingest turns it into an instant. The offset is read
where the clock would stand if it were a clock of UTC, hours away from the instant that is looked
for, and so may be that of the other side of a change of the offset.

* `WallClock` — what a clock shows, with `marker`, where a clock of UTC shows the same;
* `dateUtc`, `tzOffsetMs`, `zonedWallClockToUtc`, `parsePosDate` — the code;
* `wholeOffset` — an offset in whole seconds, as a formatted date shows it;
* `OccursOnce` — a local time that names one instant;
* `wallClock_fromClock_iff` — when the instant that is computed is the one that was named;
* `parsePosDate_naive` — what the code reads of a text without an offset.
-/

namespace Restock.Pos

open Forecast (DAY_MS dayKeyOf)
open Sales (HOUR_MS Zone nairobi tenantDayKey)
open Series (CivilDate daysBeforeMonth daysBeforeMonth_nonneg daysBeforeYear
  daysBeforeYear_le_iff)

/-- The milliseconds of a minute. -/
def MINUTE_MS : ℤ := 60000

/-- The milliseconds of a second. -/
def SECOND_MS : ℤ := 1000

/-! ## Clocks -/

/-- What a clock shows. -/
@[ext]
structure WallClock where
  date : CivilDate
  hour : ℤ
  minute : ℤ
  second : ℤ
  hour_mem : 0 ≤ hour ∧ hour < 24
  minute_mem : 0 ≤ minute ∧ minute < 60
  second_mem : 0 ≤ second ∧ second < 60
  deriving DecidableEq, Repr

namespace WallClock

/-- The instant at which a clock of UTC shows it. -/
def marker (w : WallClock) : ℤ :=
  w.date.number * DAY_MS + w.hour * HOUR_MS + w.minute * MINUTE_MS + w.second * SECOND_MS

/-- The day key of its date. -/
def dayKey (w : WallClock) : ℤ :=
  w.date.number * DAY_MS

/-- What a clock of UTC shows at an instant. -/
def ofMarker (t : ℤ) : WallClock where
  date := .ofNumber (t / DAY_MS)
  hour := t % DAY_MS / HOUR_MS
  minute := t % HOUR_MS / MINUTE_MS
  second := t % MINUTE_MS / SECOND_MS
  hour_mem := by
    unfold DAY_MS HOUR_MS
    omega
  minute_mem := by
    unfold HOUR_MS MINUTE_MS
    omega
  second_mem := by
    unfold MINUTE_MS SECOND_MS
    omega

variable {w : WallClock} {t : ℤ}

/-- A clock shows whole seconds. -/
theorem dvd_marker (w : WallClock) : SECOND_MS ∣ w.marker := by
  unfold marker DAY_MS HOUR_MS MINUTE_MS SECOND_MS
  omega

/-- What a clock of UTC shows is the instant, but for parts of a second. -/
theorem marker_ofMarker (t : ℤ) : (ofMarker t).marker = t / SECOND_MS * SECOND_MS := by
  show (CivilDate.ofNumber (t / DAY_MS)).number * DAY_MS + t % DAY_MS / HOUR_MS * HOUR_MS
    + t % HOUR_MS / MINUTE_MS * MINUTE_MS + t % MINUTE_MS / SECOND_MS * SECOND_MS = _
  rw [CivilDate.number_ofNumber]
  unfold DAY_MS HOUR_MS MINUTE_MS SECOND_MS
  omega

/-- A clock of UTC shows something for a second. -/
theorem ofMarker_eq_iff : ofMarker t = w ↔ t / SECOND_MS * SECOND_MS = w.marker := by
  constructor
  · rintro rfl
    exact (marker_ofMarker t).symm
  · intro h
    have hhour := w.hour_mem
    have hminute := w.minute_mem
    have hsecond := w.second_mem
    unfold marker DAY_MS HOUR_MS MINUTE_MS SECOND_MS at h
    have hdate : t / DAY_MS = w.date.number := by
      unfold DAY_MS
      omega
    apply WallClock.ext
    · show CivilDate.ofNumber (t / DAY_MS) = w.date
      rw [hdate, CivilDate.ofNumber_number]
    · show t % DAY_MS / HOUR_MS = w.hour
      unfold DAY_MS HOUR_MS
      omega
    · show t % HOUR_MS / MINUTE_MS = w.minute
      unfold HOUR_MS MINUTE_MS
      omega
    · show t % MINUTE_MS / SECOND_MS = w.second
      unfold MINUTE_MS SECOND_MS
      omega

end WallClock

/-- What the clocks of a zone show at an instant. -/
def wallClock (timezone : Zone) (date : Time) : WallClock :=
  .ofMarker (date + timezone.offset date)

/-! ## The code -/

/-- `Date.UTC`, with its reading of the years before 100 and its carry from months to years. -/
def dateUtc (y monthIndex d h mi s : ℤ) : Time :=
  let fullYear := if 0 ≤ y ∧ y ≤ 99 then 1900 + y else y
  let year := fullYear + monthIndex / 12
  (daysBeforeYear year + daysBeforeMonth year (monthIndex % 12 + 1) + (d - 1)) * DAY_MS
    + h * HOUR_MS + mi * MINUTE_MS + s * SECOND_MS

/-- The year `Intl.DateTimeFormat` writes; before the first it counts backwards. -/
def intlYear (y : ℤ) : ℤ :=
  if 0 < y then y else 1 - y

/-- The offset of a zone at an instant, from the parts of the formatted date. -/
def tzOffsetMs (date : Time) (timezone : Zone) : Time :=
  let m := wallClock timezone date
  let asUtc := dateUtc (intlYear m.date.year) (m.date.month - 1) m.date.day m.hour m.minute m.second
  asUtc - date

/-- The instant at which the clocks of a zone are taken to show a local time. -/
def zonedWallClockToUtc (y mo d h mi s : ℤ) (timezone : Zone) : Time :=
  let utcGuess := dateUtc y (mo - 1) d h mi s
  utcGuess - tzOffsetMs utcGuess timezone

/-- `Number` of a text of digits. -/
def digitsNumber (ds : List Char) : ℤ :=
  ds.foldl (fun n d => 10 * n + ((d.toNat : ℤ) - 48)) 0

/-- `[+-]\d{2}:?\d{2}$`, read backwards. -/
def endsInOffset : List Char → Bool
  | c₁ :: c₂ :: c₃ :: c₄ :: c₅ :: rest =>
      if c₃ = ':' then
        [c₁, c₂, c₄, c₅].all Char.isDigit ∧ rest.head?.any fun sign => sign = '+' ∨ sign = '-'
      else [c₁, c₂, c₃, c₄].all Char.isDigit ∧ (c₅ = '+' ∨ c₅ = '-')
  | _ => false

/-- `/([zZ])$|[+-]\d{2}:?\d{2}$/`. -/
def hasOffset (s : List Char) : Bool :=
  (s.getLast?.any fun c => c = 'z' ∨ c = 'Z') || endsInOffset s.reverse

/-- `replace(" ", "T")`: the first blank only. -/
def replaceBlank : List Char → List Char
  | [] => []
  | c :: cs => if c = ' ' then 'T' :: cs else c :: replaceBlank cs

/-- The seconds of `(?::(\d{2}))?`, zero without them. -/
def secondsGroup : List Char → ℤ
  | c :: s₁ :: s₂ :: _ =>
      if c = ':' ∧ [s₁, s₂].all Char.isDigit then digitsNumber [s₁, s₂] else 0
  | _ => 0

/-- What `/^(\d{4})-(\d{2})-(\d{2})[ T](\d{2}):(\d{2})(?::(\d{2}))?/` finds. -/
def matchDateTime : List Char → Option (ℤ × ℤ × ℤ × ℤ × ℤ × ℤ)
  | y₁ :: y₂ :: y₃ :: y₄ :: c₁ :: m₁ :: m₂ :: c₂ :: d₁ :: d₂ :: sep :: h₁ :: h₂ :: c₃ :: i₁ :: i₂ ::
      rest =>
      if [y₁, y₂, y₃, y₄, m₁, m₂, d₁, d₂, h₁, h₂, i₁, i₂].all Char.isDigit ∧
          c₁ = '-' ∧ c₂ = '-' ∧ c₃ = ':' ∧ (sep = ' ' ∨ sep = 'T') then
        some (digitsNumber [y₁, y₂, y₃, y₄], digitsNumber [m₁, m₂], digitsNumber [d₁, d₂],
          digitsNumber [h₁, h₂], digitsNumber [i₁, i₂], secondsGroup rest)
      else none
  | _ => none

/-- What `/^(\d{4})-(\d{2})-(\d{2})$/` finds. -/
def matchDate : List Char → Option (ℤ × ℤ × ℤ)
  | [y₁, y₂, y₃, y₄, c₁, m₁, m₂, c₂, d₁, d₂] =>
      if [y₁, y₂, y₃, y₄, m₁, m₂, d₁, d₂].all Char.isDigit ∧ c₁ = '-' ∧ c₂ = '-' then
        some (digitsNumber [y₁, y₂, y₃, y₄], digitsNumber [m₁, m₂], digitsNumber [d₁, d₂])
      else none
  | _ => none

/-- The date of a sale, as it is sent. -/
inductive PosDate
  | text (value : String)
  | date (value : Time)

/-- Parse a timestamp of the till to an instant. A text with an offset is read by `newDate`, the
constructor of dates, a text without one in the tenant's zone; a date is kept. Nothing is an
invalid date. -/
def parsePosDate (newDate : String → Option Time) (value : PosDate) (timezone : Zone) :
    Option Time :=
  match value with
  | .date value => some value
  | .text value =>
      let s := trimChars value.toList
      let trusted := if hasOffset s then newDate (String.ofList (replaceBlank s)) else none
      match trusted, matchDateTime s, matchDate s with
      | some d, _, _ => some d
      | none, some (y, mo, d, h, mi, sec), _ => some (zonedWallClockToUtc y mo d h mi sec timezone)
      | none, none, some (y, mo, d) => some (zonedWallClockToUtc y mo d 0 0 0 timezone)
      | none, none, none => newDate (String.ofList s)

example : parsePosDate (fun _ => none) (.text "2026-07-16 01:00:00") nairobi
    = some (WallClock.marker ⟨⟨2026, 7, 15, by decide, by decide⟩, 22, 0, 0, by decide, by decide,
      by decide⟩) := by
  decide +kernel

/-! ## Offsets in whole seconds -/

/-- The offset of a zone in whole seconds, as a formatted date shows it. -/
def wholeOffset (timezone : Zone) (t : ℤ) : ℤ :=
  timezone.offset t / SECOND_MS * SECOND_MS

section Clocks

variable {timezone : Zone} {w : WallClock} {t : ℤ}

/-- An offset stays within the zones there are. -/
theorem wholeOffset_mem (timezone : Zone) (t : ℤ) :
    -(12 * HOUR_MS) ≤ wholeOffset timezone t ∧ wholeOffset timezone t ≤ 14 * HOUR_MS ∧
      SECOND_MS ∣ wholeOffset timezone t := by
  have hbounds : ∀ offset : ℤ, -(12 * HOUR_MS) ≤ offset → offset ≤ 14 * HOUR_MS →
      -(12 * HOUR_MS) ≤ offset / SECOND_MS * SECOND_MS ∧
        offset / SECOND_MS * SECOND_MS ≤ 14 * HOUR_MS := by
    intro offset
    unfold HOUR_MS SECOND_MS
    omega
  obtain ⟨hwest, heast⟩ := hbounds _ (timezone.west t) (timezone.east t)
  exact ⟨hwest, heast, Dvd.intro_left _ rfl⟩

/-- When the clocks of a zone show something, at a whole second. -/
theorem wallClock_eq_iff (ht : SECOND_MS ∣ t) :
    wallClock timezone t = w ↔ t + wholeOffset timezone t = w.marker := by
  -- the instant is a whole second, so rounding down touches only the offset
  have hwhole : ∀ offset : ℤ,
      (t + offset) / SECOND_MS * SECOND_MS = t + offset / SECOND_MS * SECOND_MS := by
    intro offset
    unfold SECOND_MS at ht ⊢
    omega
  rw [wallClock, WallClock.ofMarker_eq_iff, hwhole, wholeOffset]

/-- What the clocks of a zone show, as an instant of UTC. -/
theorem marker_wallClock (ht : SECOND_MS ∣ t) :
    (wallClock timezone t).marker = t + wholeOffset timezone t :=
  ((wallClock_eq_iff ht).mp rfl).symm

/-- A clock is on the day it shows. -/
theorem dayKey_le_marker (w : WallClock) : w.dayKey ≤ w.marker ∧ w.marker < w.dayKey + DAY_MS := by
  have hhour := w.hour_mem
  have hminute := w.minute_mem
  have hsecond := w.second_mem
  unfold WallClock.dayKey WallClock.marker DAY_MS HOUR_MS MINUTE_MS SECOND_MS
  omega

/-- A clock shows a year or a later one exactly when it is not before the year's first day. -/
theorem le_year_iff {y : ℤ} : y ≤ w.date.year ↔ daysBeforeYear y * DAY_MS ≤ w.marker := by
  have hday := dayKey_le_marker w
  rw [w.date.le_year_iff]
  unfold WallClock.dayKey at hday
  unfold DAY_MS at hday ⊢
  omega

/-- The trading day of an instant is the day the clocks show. -/
theorem tenantDayKey_eq (h : wallClock timezone t = w) : tenantDayKey timezone t = w.dayKey := by
  rw [wallClock] at h
  obtain rfl := h
  -- both are the day of the shifted instant
  show (t + timezone.offset t) / DAY_MS * DAY_MS
    = (CivilDate.ofNumber ((t + timezone.offset t) / DAY_MS)).number * DAY_MS
  rw [CivilDate.number_ofNumber]

end Clocks

/-! ## Reading the offset -/

/-- The parts of a clock given to `Date.UTC`. -/
def WallClock.utc (w : WallClock) : ℤ :=
  dateUtc w.date.year (w.date.month - 1) w.date.day w.hour w.minute w.second

/-- The instant computed for what a clock of the zone shows. -/
def fromClock (w : WallClock) (timezone : Zone) : ℤ :=
  zonedWallClockToUtc w.date.year w.date.month w.date.day w.hour w.minute w.second timezone

section Utc

variable {timezone : Zone} {w : WallClock} {t : ℤ}

/-- The parts of a clock are whole seconds, and come from the month that they name. -/
private theorem utc_eq (w : WallClock) :
    w.utc = (daysBeforeYear (if 0 ≤ w.date.year ∧ w.date.year ≤ 99 then 1900 + w.date.year
          else w.date.year)
        + daysBeforeMonth (if 0 ≤ w.date.year ∧ w.date.year ≤ 99 then 1900 + w.date.year
          else w.date.year) w.date.month + (w.date.day - 1)) * DAY_MS
      + w.hour * HOUR_MS + w.minute * MINUTE_MS + w.second * SECOND_MS := by
  have hmonth := w.date.month_mem
  -- a month of the calendar does not carry into the next year
  have hcarry : (w.date.month - 1) / 12 = 0 := by omega
  have hindex : (w.date.month - 1) % 12 + 1 = w.date.month := by omega
  rw [WallClock.utc, dateUtc, hcarry, hindex, add_zero]

/-- From the year 100 on `Date.UTC` reads the parts as they are. -/
theorem utc_eq_marker (h : 100 ≤ w.date.year) : w.utc = w.marker := by
  rw [utc_eq, if_neg (by omega), WallClock.marker, CivilDate.number, CivilDate.yearDay,
    add_assoc (daysBeforeYear _)]

/-- Earlier years are read as years of the twentieth century. -/
theorem le_utc (h : 0 ≤ w.date.year ∧ w.date.year ≤ 99) :
    daysBeforeYear 1900 * DAY_MS ≤ w.utc := by
  have hyear : daysBeforeYear 1900 ≤ daysBeforeYear (1900 + w.date.year) :=
    daysBeforeYear_le_iff.mpr (by omega)
  have hmonth : 0 ≤ daysBeforeMonth (1900 + w.date.year) w.date.month :=
    daysBeforeMonth_nonneg w.date.month_mem.1
  have hday := w.date.day_mem
  have hhour := w.hour_mem
  have hminute := w.minute_mem
  have hsecond := w.second_mem
  rw [utc_eq, if_pos h]
  unfold DAY_MS HOUR_MS MINUTE_MS SECOND_MS
  omega

/-- The parts of a clock come to a whole second. -/
theorem dvd_utc (w : WallClock) : SECOND_MS ∣ w.utc := by
  rw [utc_eq]
  unfold DAY_MS HOUR_MS MINUTE_MS SECOND_MS
  omega

/-- The offset that is read off a formatted date. -/
theorem tzOffsetMs_eq (h : 1 ≤ (wallClock timezone t).date.year) :
    tzOffsetMs t timezone = (wallClock timezone t).utc - t := by
  rw [tzOffsetMs, intlYear, if_pos (by omega), WallClock.utc]

/-- From the year 100 on that is the zone's offset. -/
theorem tzOffsetMs_eq_wholeOffset (ht : SECOND_MS ∣ t)
    (h : 100 ≤ (wallClock timezone t).date.year) :
    tzOffsetMs t timezone = wholeOffset timezone t := by
  have hread : tzOffsetMs t timezone = (wallClock timezone t).utc - t :=
    tzOffsetMs_eq (by omega)
  rw [hread, utc_eq_marker h, marker_wallClock ht, add_sub_cancel_left]

/-- The offset is read where a clock of UTC shows the parts. -/
theorem fromClock_eq (w : WallClock) (timezone : Zone) :
    fromClock w timezone = w.utc - tzOffsetMs w.utc timezone := rfl

end Utc

/-! ## The named instant -/

/-- A local time that the clocks of a zone show at one second only. -/
structure OccursOnce (timezone : Zone) (w : WallClock) (t : ℤ) : Prop where
  whole : SECOND_MS ∣ t
  shown : wallClock timezone t = w
  only : ∀ t', SECOND_MS ∣ t' → wallClock timezone t' = w → t' = t

/-- The offset at the instant that a local time names is also the offset where a clock of UTC
shows the local time; and neither year is one that is written with two digits. -/
def OffsetKnown (timezone : Zone) (w : WallClock) (t : ℤ) : Prop :=
  100 ≤ w.date.year ∧ 100 ≤ (wallClock timezone w.marker).date.year ∧
    wholeOffset timezone w.marker = wholeOffset timezone t

section Named

variable {timezone : Zone} {w : WallClock} {t : ℤ}

/-- A local time of the first hundred years is taken for one of the twentieth century. -/
theorem wallClock_fromClock_of_early (h : 0 ≤ w.date.year ∧ w.date.year ≤ 99) :
    wallClock timezone (fromClock w timezone) ≠ w := by
  have hread := le_utc h
  have hwhole := dvd_utc w
  have hguess := wholeOffset_mem timezone w.utc
  have hstart : daysBeforeYear 100 = -683003 := by decide
  have hcentury : daysBeforeYear 1900 = -25567 := by decide
  -- the offset is read in the twentieth century, where it is right
  have hyear : 100 ≤ (wallClock timezone w.utc).date.year := by
    rw [le_year_iff, marker_wallClock hwhole, hstart]
    rw [hcentury] at hread
    unfold DAY_MS at hread ⊢
    unfold HOUR_MS at hguess
    omega
  have hp : fromClock w timezone = w.utc - wholeOffset timezone w.utc := by
    rw [fromClock_eq, tzOffsetMs_eq_wholeOffset hwhole hyear]
  intro hshown
  -- the instant is then within a day of that century, and so is what the clocks show there
  have hlate : 100 ≤ w.date.year := by
    have hwhole' : SECOND_MS ∣ fromClock w timezone := hp ▸ Int.dvd_sub hwhole hguess.2.2
    have hmem := wholeOffset_mem timezone (fromClock w timezone)
    have hmarker := (wallClock_eq_iff hwhole').mp hshown
    rw [le_year_iff, ← hmarker, hstart, hp]
    rw [hp] at hmem
    rw [hcentury] at hread
    unfold DAY_MS at hread ⊢
    unfold HOUR_MS at hguess hmem
    omega
  omega

/-- Just after the year 100 has begun the offset may be read off a clock that still shows the year
99, and comes to centuries. -/
theorem wallClock_fromClock_of_turn (h : 100 ≤ w.date.year)
    (hturn : (wallClock timezone w.marker).date.year < 100) :
    wallClock timezone (fromClock w timezone) ≠ w := by
  have hstart : daysBeforeYear 100 = -683003 := by decide
  have hfirst : daysBeforeYear 1 = -719162 := by decide
  have hcentury : daysBeforeYear 1900 = -25567 := by decide
  have hguess := wholeOffset_mem timezone w.marker
  have hmarker : (wallClock timezone w.marker).marker
      = w.marker + wholeOffset timezone w.marker := marker_wallClock w.dvd_marker
  have hafter : daysBeforeYear 100 * DAY_MS ≤ w.marker := le_year_iff.mp h
  have hbefore : ¬ daysBeforeYear 100 * DAY_MS ≤ (wallClock timezone w.marker).marker :=
    mt le_year_iff.mpr (by omega)
  -- an offset is less than a day, so the clock shows a year that is read with two digits
  have hyear : 1 ≤ (wallClock timezone w.marker).date.year := by
    rw [le_year_iff, hmarker, hfirst]
    rw [hstart] at hafter
    unfold DAY_MS at hafter ⊢
    unfold HOUR_MS at hguess
    omega
  -- which `Date.UTC` puts in the twentieth century
  have hread : daysBeforeYear 1900 * DAY_MS ≤ (wallClock timezone w.marker).utc :=
    le_utc ⟨by omega, by omega⟩
  have hp : fromClock w timezone = w.marker - ((wallClock timezone w.marker).utc - w.marker) := by
    rw [fromClock_eq, utc_eq_marker h, tzOffsetMs_eq hyear]
  intro hshown
  -- the computed instant lies centuries before the marker, and no offset makes up for
  -- that
  have hwhole : SECOND_MS ∣ fromClock w timezone := by
    rw [hp]
    exact Int.dvd_sub w.dvd_marker (Int.dvd_sub (dvd_utc _) w.dvd_marker)
  have hmem := wholeOffset_mem timezone (fromClock w timezone)
  have hsame := (wallClock_eq_iff hwhole).mp hshown
  rw [hmarker, hstart] at hbefore
  rw [hcentury] at hread
  rw [hp] at hsame hmem
  unfold DAY_MS at hbefore hread
  unfold HOUR_MS at hguess hmem
  omega

/-- The computed instant is the named one exactly when the offset is known. -/
theorem wallClock_fromClock_iff (ht : OccursOnce timezone w t) (hyear : 0 ≤ w.date.year) :
    wallClock timezone (fromClock w timezone) = w ↔ OffsetKnown timezone w t := by
  by_cases hearly : w.date.year ≤ 99
  case pos =>
    refine iff_of_false (wallClock_fromClock_of_early ⟨hyear, hearly⟩) fun hknown => ?_
    have hcentury := hknown.1
    omega
  have hlate : 100 ≤ w.date.year := by omega
  by_cases hturn : (wallClock timezone w.marker).date.year < 100
  case pos =>
    refine iff_of_false (wallClock_fromClock_of_turn hlate hturn) fun hknown => ?_
    have hcentury := hknown.2.1
    omega
  have hguess : 100 ≤ (wallClock timezone w.marker).date.year := by omega
  have hp : fromClock w timezone = w.marker - wholeOffset timezone w.marker := by
    rw [fromClock_eq, utc_eq_marker hlate, tzOffsetMs_eq_wholeOffset w.dvd_marker hguess]
  -- the named instant is the marker less the offset there
  have hnamed : t + wholeOffset timezone t = w.marker := (wallClock_eq_iff ht.whole).mp ht.shown
  constructor
  · -- a clock that shows the local time is at the named instant, so both offsets come to the
    -- marker less that instant
    intro hshown
    have hwhole : SECOND_MS ∣ fromClock w timezone :=
      hp ▸ Int.dvd_sub w.dvd_marker (wholeOffset_mem timezone w.marker).2.2
    have hsame : fromClock w timezone = t := ht.only _ hwhole hshown
    exact ⟨hlate, hguess, by omega⟩
  · rintro ⟨-, -, hoffset⟩
    have hsame : fromClock w timezone = t := by omega
    rw [hsame]
    exact ht.shown

end Named

/-! ## Texts without an offset -/

/-- The last digit of a number. -/
def digit (n : ℤ) : Char :=
  Char.ofNat (48 + (n % 10).toNat)

/-- Two digits. -/
def twoDigits (n : ℤ) : List Char :=
  [digit (n / 10), digit n]

/-- Four digits. -/
def fourDigits (n : ℤ) : List Char :=
  [digit (n / 1000), digit (n / 100), digit (n / 10), digit n]

namespace WallClock

variable (w : WallClock)

/-- `YYYY-MM-DD`. -/
def dayText : List Char :=
  fourDigits w.date.year ++ '-' :: twoDigits w.date.month ++ '-' :: twoDigits w.date.day

/-- `YYYY-MM-DD HH:MM`, with a blank or a `T` between. -/
def minuteText (sep : Char) : List Char :=
  w.dayText ++ sep :: twoDigits w.hour ++ ':' :: twoDigits w.minute

/-- `YYYY-MM-DD HH:MM:SS`. -/
def secondText (sep : Char) : List Char :=
  w.minuteText sep ++ ':' :: twoDigits w.second

/-- The texts without an offset for a local time: with its seconds, without them when they are
zero, and the date alone at midnight. The year is written with four digits. -/
def naiveTexts : List String :=
  if 0 ≤ w.date.year ∧ w.date.year ≤ 9999 then
    let exact := [' ', 'T'].map w.secondText
    let minutes := if w.second = 0 then [' ', 'T'].map w.minuteText else []
    let days := if w.hour = 0 ∧ w.minute = 0 ∧ w.second = 0 then [w.dayText] else []
    (exact ++ minutes ++ days).map String.ofList
  else []

end WallClock

/-- A digit is one of ten. -/
private theorem digit_mem (n : ℤ) : ∃ k : Fin 10, n % 10 = k ∧ digit n = Char.ofNat (48 + k) := by
  have hlower : 0 ≤ n % 10 := Int.emod_nonneg n (by decide)
  have hupper : n % 10 < 10 := Int.emod_lt_of_pos n (by decide)
  refine ⟨⟨(n % 10).toNat, by omega⟩, ?_, rfl⟩
  exact (Int.toNat_of_nonneg hlower).symm

@[simp] theorem isDigit_digit (n : ℤ) : (digit n).isDigit = true := by
  obtain ⟨k, -, hk⟩ := digit_mem n
  rw [hk]
  clear hk
  revert k
  decide

/-- A digit is read back. -/
theorem toNat_digit (n : ℤ) : ((digit n).toNat : ℤ) - 48 = n % 10 := by
  obtain ⟨k, hmod, hk⟩ := digit_mem n
  rw [hk, hmod]
  clear hk hmod
  revert k
  decide

/-- Two digits are read back. -/
theorem digitsNumber_twoDigits {n : ℤ} (h : 0 ≤ n ∧ n < 100) : digitsNumber (twoDigits n) = n := by
  simp only [twoDigits, digitsNumber, List.foldl_cons, List.foldl_nil, toNat_digit]
  omega

/-- Four digits are read back. -/
theorem digitsNumber_fourDigits {n : ℤ} (h : 0 ≤ n ∧ n < 10000) :
    digitsNumber (fourDigits n) = n := by
  simp only [fourDigits, digitsNumber, List.foldl_cons, List.foldl_nil, toNat_digit]
  omega

/-- A digit is not stripped. -/
theorem isTrimmed_digit (n : ℤ) : isTrimmed (digit n) = false :=
  isTrimmed_of_isDigit (isDigit_digit n)

/-- A digit is no other character. -/
theorem digit_ne (n : ℤ) {c : Char} (h : c.isDigit = false) : digit n ≠ c := by
  rintro rfl
  rw [isDigit_digit] at h
  cases h

section Texts

variable {w : WallClock} {sep : Char} {rest : List Char}

/-- The fields of a date are within their digits. -/
private theorem date_digits (w : WallClock) :
    (0 ≤ w.date.month ∧ w.date.month < 100) ∧ (0 ≤ w.date.day ∧ w.date.day < 100) := by
  have hmonth := w.date.month_mem
  have hday := w.date.day_mem
  have hleap := Series.leapDay_mem w.date.year
  have hlength : Series.daysInMonth w.date.year w.date.month < 100 := by
    unfold Series.daysInMonth
    split
    · omega
    · split <;> omega
  omega

/-- The pattern with a time finds the parts. -/
theorem matchDateTime_minuteText (hyear : 0 ≤ w.date.year ∧ w.date.year ≤ 9999)
    (hsep : sep = ' ' ∨ sep = 'T') :
    matchDateTime (w.minuteText sep ++ rest) = some (w.date.year, w.date.month, w.date.day, w.hour,
      w.minute, secondsGroup rest) := by
  obtain ⟨hmonth, hday⟩ := date_digits w
  have hhour := w.hour_mem
  have hminute := w.minute_mem
  have hmatch : matchDateTime (w.minuteText sep ++ rest)
      = some (digitsNumber (fourDigits w.date.year), digitsNumber (twoDigits w.date.month),
          digitsNumber (twoDigits w.date.day), digitsNumber (twoDigits w.hour),
          digitsNumber (twoDigits w.minute), secondsGroup rest) := by
    refine if_pos ⟨?_, rfl, rfl, rfl, hsep⟩
    simp only [List.all_cons, List.all_nil, isDigit_digit, Bool.and_self]
  rw [hmatch, digitsNumber_fourDigits ⟨hyear.1, by omega⟩, digitsNumber_twoDigits hmonth,
    digitsNumber_twoDigits hday, digitsNumber_twoDigits ⟨hhour.1, by omega⟩,
    digitsNumber_twoDigits ⟨hminute.1, by omega⟩]

/-- The pattern without a time finds the parts. -/
theorem matchDate_dayText (hyear : 0 ≤ w.date.year ∧ w.date.year ≤ 9999) :
    matchDate w.dayText = some (w.date.year, w.date.month, w.date.day) := by
  obtain ⟨hmonth, hday⟩ := date_digits w
  have hmatch : matchDate w.dayText
      = some (digitsNumber (fourDigits w.date.year), digitsNumber (twoDigits w.date.month),
          digitsNumber (twoDigits w.date.day)) := by
    refine if_pos ⟨?_, rfl, rfl⟩
    simp only [List.all_cons, List.all_nil, isDigit_digit, Bool.and_self]
  rw [hmatch, digitsNumber_fourDigits ⟨hyear.1, by omega⟩, digitsNumber_twoDigits hmonth,
    digitsNumber_twoDigits hday]

/-- The seconds at the end. -/
theorem secondsGroup_twoDigits {n : ℤ} (h : 0 ≤ n ∧ n < 60) :
    secondsGroup (':' :: twoDigits n) = n := by
  have hgroup : secondsGroup (':' :: twoDigits n) = digitsNumber (twoDigits n) := by
    refine if_pos ⟨rfl, ?_⟩
    simp only [List.all_cons, List.all_nil, isDigit_digit, Bool.and_self]
  rw [hgroup, digitsNumber_twoDigits ⟨h.1, by omega⟩]

/-- A text that ends in a digit does not end in `z`. -/
private theorem hasOffset_append_digit (cs : List Char) (n : ℤ) :
    hasOffset (cs ++ [digit n]) = endsInOffset (digit n :: cs.reverse) := by
  rw [hasOffset, List.getLast?_concat, List.reverse_append, List.reverse_singleton,
    List.singleton_append, Option.any_some]
  simp only [digit_ne n (c := 'z') (by decide), digit_ne n (c := 'Z') (by decide), or_self,
    decide_false, Bool.false_or]

/-- A date has no offset: its dashes are one digit too close to the end. -/
theorem hasOffset_date (cs : List Char) (n : ℤ) :
    hasOffset (cs ++ '-' :: twoDigits n) = false := by
  have hsplit : cs ++ '-' :: twoDigits n = (cs ++ ['-', digit (n / 10)]) ++ [digit n] := by
    simp [twoDigits]
  rw [hsplit, hasOffset_append_digit, List.reverse_append]
  -- the pattern `±HHMM` wants its sign five places from the end, the dash is at the third
  match cs.reverse with
  | [] => rfl
  | [_] => rfl
  | c₄ :: c₅ :: rest =>
      show decide (([digit n, digit (n / 10), '-', c₄].all Char.isDigit = true) ∧ _) = false
      simp

/-- A time has no offset: no sign stands before the last four digits. -/
theorem hasOffset_time (cs : List Char) {c : Char} (n m : ℤ) (hc : ¬ (c = '+' ∨ c = '-')) :
    hasOffset (cs ++ c :: twoDigits n ++ ':' :: twoDigits m) = false := by
  have hsplit : cs ++ c :: twoDigits n ++ ':' :: twoDigits m
      = (cs ++ [c, digit (n / 10), digit n, ':', digit (m / 10)]) ++ [digit m] := by
    simp [twoDigits]
  rw [hsplit, hasOffset_append_digit, List.reverse_append]
  -- the character in the place of the sign is the separator
  show decide (_ ∧ (Option.any (fun sign => decide (sign = '+' ∨ sign = '-')) (some c)) = true)
    = false
  simp [hc]

variable (newDate : String → Option Time) (timezone : Zone)

/-- A text without an offset goes to the two patterns. -/
private theorem parsePosDate_of_noOffset {cs : List Char} (hhead : ∃ n, cs.head? = some (digit n))
    (hlast : ∃ n, cs.getLast? = some (digit n)) (hoffset : hasOffset cs = false) :
    parsePosDate newDate (.text (String.ofList cs)) timezone =
      match matchDateTime cs, matchDate cs with
      | some (y, mo, d, h, mi, sec), _ => some (zonedWallClockToUtc y mo d h mi sec timezone)
      | none, some (y, mo, d) => some (zonedWallClockToUtc y mo d 0 0 0 timezone)
      | none, none => newDate (String.ofList cs) := by
  obtain ⟨first, hfirst⟩ := hhead
  obtain ⟨last, hend⟩ := hlast
  -- a text with a digit at both ends loses nothing to the trim
  have htrim : trimChars cs = cs := by
    refine trimChars_eq_self ?_ ?_
    · rw [hfirst]
      rintro c ⟨⟩
      exact isTrimmed_digit first
    · rw [hend]
      rintro c ⟨⟩
      exact isTrimmed_digit last
  rw [parsePosDate, String.toList_ofList, htrim, hoffset]
  cases matchDateTime cs with
  | some parts => rfl
  | none =>
      cases matchDate cs with
      | some parts => rfl
      | none => rfl

/-- The instant of a text without an offset is computed from the parts the text shows. -/
theorem parsePosDate_naive {text : String} (h : text ∈ w.naiveTexts) :
    parsePosDate newDate (.text text) timezone = some (fromClock w timezone) := by
  unfold WallClock.naiveTexts at h
  split at h
  case isFalse => exact absurd h List.not_mem_nil
  case isTrue hyear =>
    obtain ⟨cs, hcs, rfl⟩ := List.mem_map.mp h
    rw [List.mem_append, List.mem_append] at hcs
    rcases hcs with (hcs | hcs) | hcs
    · -- with seconds
      obtain ⟨sep, hsep, rfl⟩ := List.mem_map.mp hcs
      replace hsep : sep = ' ' ∨ sep = 'T' := by simpa using hsep
      have hoffset : hasOffset (w.secondText sep) = false :=
        hasOffset_time (w.dayText ++ sep :: twoDigits w.hour) w.minute w.second (by decide)
      have hmatch : matchDateTime (w.secondText sep) = some (w.date.year, w.date.month, w.date.day,
          w.hour, w.minute, w.second) := by
        rw [WallClock.secondText, matchDateTime_minuteText hyear hsep,
          secondsGroup_twoDigits w.second_mem]
      rw [parsePosDate_of_noOffset newDate timezone ⟨_, rfl⟩ ⟨_, rfl⟩ hoffset]
      simp only [hmatch, fromClock]
    · -- without seconds
      split at hcs
      case isFalse => exact absurd hcs List.not_mem_nil
      case isTrue hsecond =>
        obtain ⟨sep, hsep, rfl⟩ := List.mem_map.mp hcs
        replace hsep : sep = ' ' ∨ sep = 'T' := by simpa using hsep
        have hsign : ¬ (sep = '+' ∨ sep = '-') := by
          rcases hsep with rfl | rfl <;> decide
        have hoffset : hasOffset (w.minuteText sep) = false :=
          hasOffset_time w.dayText w.hour w.minute hsign
        have hmatch : matchDateTime (w.minuteText sep) = some (w.date.year, w.date.month,
            w.date.day, w.hour, w.minute, 0) := by
          rw [← List.append_nil (w.minuteText sep), matchDateTime_minuteText hyear hsep]
          rfl
        rw [parsePosDate_of_noOffset newDate timezone ⟨_, rfl⟩ ⟨_, rfl⟩ hoffset]
        simp only [hmatch, fromClock, hsecond]
    · -- the date alone
      split at hcs
      case isFalse => exact absurd hcs List.not_mem_nil
      case isTrue hmidnight =>
        obtain rfl := List.mem_singleton.mp hcs
        have hoffset : hasOffset w.dayText = false :=
          hasOffset_date (fourDigits w.date.year ++ '-' :: twoDigits w.date.month) w.date.day
        obtain ⟨hhour, hminute, hsecond⟩ := hmidnight
        have hmatch : matchDateTime w.dayText = none := rfl
        rw [parsePosDate_of_noOffset newDate timezone ⟨_, rfl⟩ ⟨_, rfl⟩ hoffset]
        simp only [hmatch, matchDate_dayText hyear, fromClock, hhour, hminute, hsecond]

end Texts

/-! ## What is kept -/

/-- A text without an offset, for a local time that names one instant of a zone, is read as an
instant at which the clocks show the same and which is on the same trading day, exactly when the
offset is known. -/
theorem parsePosDate_keeps_clock_iff (newDate : String → Option Time) {timezone : Zone}
    {w : WallClock} {t : ℤ} (ht : OccursOnce timezone w t) {text : String}
    (htext : text ∈ w.naiveTexts) :
    ∃ p, parsePosDate newDate (.text text) timezone = some p ∧
      ((wallClock timezone p = w ∧ tenantDayKey timezone p = w.dayKey) ↔
        OffsetKnown timezone w t) := by
  have hyear : 0 ≤ w.date.year := by
    by_contra hneg
    rw [WallClock.naiveTexts, if_neg fun h => hneg h.1] at htext
    exact List.not_mem_nil htext
  refine ⟨fromClock w timezone, parsePosDate_naive newDate timezone htext, ?_⟩
  -- a clock that shows the local time is on its day
  rw [← wallClock_fromClock_iff ht hyear]
  exact ⟨fun h => h.1, fun h => ⟨h, tenantDayKey_eq h⟩⟩

/-- Half past eleven at night in Nairobi. -/
theorem parsePosDate_keeps_clock_iff_nairobi :
    let w : WallClock := ⟨⟨2026, 7, 15, by decide, by decide⟩, 23, 30, 0, by decide, by decide,
      by decide⟩
    ∃ p, parsePosDate (fun _ => none) (.text "2026-07-15 23:30:00") nairobi = some p ∧
      wallClock nairobi p = w ∧ tenantDayKey nairobi p = w.dayKey := by
  intro w
  have hoffset : ∀ t, wholeOffset nairobi t = 10800000 := fun _ => rfl
  have honce : OccursOnce nairobi w (w.marker - 10800000) := by
    have hwhole : SECOND_MS ∣ w.marker - 10800000 := by decide +kernel
    refine ⟨hwhole, ?_, fun t' ht' hshown => ?_⟩
    · rw [wallClock_eq_iff hwhole, hoffset, sub_add_cancel]
    · rw [wallClock_eq_iff ht', hoffset] at hshown
      rw [← hshown, add_sub_cancel_right]
  have hknown : OffsetKnown nairobi w (w.marker - 10800000) :=
    ⟨by decide, by decide +kernel, rfl⟩
  have htext : "2026-07-15 23:30:00" ∈ w.naiveTexts := by decide +kernel
  obtain ⟨p, hparse, hiff⟩ := parsePosDate_keeps_clock_iff (fun _ => none) honce htext
  exact ⟨p, hparse, hiff.mpr hknown⟩

/-- A zone two hours ahead of UTC that puts its clocks an hour forward as the 27th of March 2026
begins in UTC. -/
def springForward : Zone where
  offset t := if t < 1774569600000 then 2 * HOUR_MS else 3 * HOUR_MS
  west t := by split <;> decide
  east t := by split <;> decide

/-- The clocks of the zone go from two to three. Half past midnight before that names one instant,
but a clock of UTC shows it after the change, so an offset of three hours is read where there are
two, and the sale ends up an hour early and on the day before. -/
theorem parsePosDate_loses_hour :
    let w : WallClock := ⟨⟨2026, 3, 27, by decide, by decide⟩, 0, 30, 0, by decide, by decide,
      by decide⟩
    OccursOnce springForward w (w.marker - 7200000) ∧ "2026-03-27 00:30:00" ∈ w.naiveTexts ∧
    parsePosDate (fun _ => none) (.text "2026-03-27 00:30:00") springForward
      = some (w.marker - 10800000) ∧
    wallClock springForward (w.marker - 10800000) ≠ w ∧
    tenantDayKey springForward (w.marker - 10800000) = w.dayKey - DAY_MS := by
  intro w
  have hmarker : w.marker = 1774571400000 := by decide +kernel
  -- two hours before the change and three hours after it
  have hbefore : ∀ t : ℤ, t < 1774569600000 → wholeOffset springForward t = 7200000 := by
    intro t ht
    have hread : springForward.offset t = 2 * HOUR_MS := if_pos ht
    rw [wholeOffset, hread]
    rfl
  have hafter : ∀ t : ℤ, ¬ t < 1774569600000 → wholeOffset springForward t = 10800000 := by
    intro t ht
    have hread : springForward.offset t = 3 * HOUR_MS := if_neg ht
    rw [wholeOffset, hread]
    rfl
  refine ⟨⟨?_, ?_, ?_⟩, ?_, ?_, ?_, ?_⟩
  · decide +kernel
  · decide +kernel
  · intro t' ht' hshown
    rw [wallClock_eq_iff ht'] at hshown
    by_cases hearly : t' < 1774569600000
    · rw [hbefore t' hearly] at hshown
      omega
    · -- after the change the clocks show three and later
      rw [hafter t' hearly] at hshown
      omega
  all_goals decide +kernel

end Restock.Pos
