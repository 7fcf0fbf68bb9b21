import Restock.Forecast.Clock

/-!
# Trading days

A sale belongs to the calendar day of the tenant's zone, and that day is stored as the
UTC midnight that carries its date. A day key `YYYY-MM-DD` is modelled by that midnight, so
that the order of keys is the order of their texts.

* `Zone`, `tenantDayKey` — a time zone, and the trading day of an instant in it;
* `dayKeyRanges` — day keys grouped into runs of consecutive days;
* `processedWindowFor`, `dayNeedsRefetch` — the padded UTC windows of a pull by sale date;
* `mem_processedWindowFor` — a window padded by 14 hours holds the whole of its days;
* `le_of_not_dayNeedsRefetch` — a day that needs no pull lies inside the sync window.
-/

namespace Restock.Sales

open Forecast (DAY_MS dayKeyOf dayKeyOf_le)

/-- The milliseconds of an hour. -/
def HOUR_MS : ℤ := 3600000

theorem hourMs_pos : 0 < HOUR_MS := by decide

/-- A time zone: how far its wall clock is ahead of UTC at every instant. -/
structure Zone where
  /-- Local time minus UTC, at an instant. -/
  offset : Time → Time
  /-- No zone is more than 12 hours behind. -/
  west : ∀ t, -(12 * HOUR_MS) ≤ offset t
  /-- No zone is more than 14 hours ahead. -/
  east : ∀ t, offset t ≤ 14 * HOUR_MS

/-- The zone whose wall clock is always `hours` ahead of UTC. -/
def Zone.fixed (hours : ℤ) (h : -12 ≤ hours ∧ hours ≤ 14) : Zone where
  offset _ := hours * HOUR_MS
  west _ := by linarith [mul_le_mul_of_nonneg_right h.1 hourMs_pos.le]
  east _ := mul_le_mul_of_nonneg_right h.2 hourMs_pos.le

/-- The zone of a shop in Nairobi. -/
def nairobi : Zone := Zone.fixed 3 (by decide)

/-- The tenant-local calendar day of an instant. -/
def tenantDayKey (timezone : Zone) (date : Time) : Time :=
  dayKeyOf (date + timezone.offset date)

/-- An instant lies on its trading day, as far as its zone is ahead of UTC. -/
theorem tenantDayKey_le (timezone : Zone) (date : Time) :
    tenantDayKey timezone date - 14 * HOUR_MS ≤ date ∧
      date < tenantDayKey timezone date + DAY_MS + 12 * HOUR_MS := by
  have hday := dayKeyOf_le (date + timezone.offset date)
  have hwest := timezone.west date
  have heast := timezone.east date
  unfold tenantDayKey
  constructor
  · linarith [hday.1]
  · linarith [hday.2]

/-! ## Runs of consecutive days -/

/-- A run of consecutive days. -/
structure DayKeyRange where
  fromDay : Time
  toDay : Time
  /-- A run does not end before it begins. -/
  le : fromDay ≤ toDay
  deriving DecidableEq, Repr

namespace DayKeyRange

/-- The run of one day. -/
def single (day : Time) : DayKeyRange :=
  ⟨day, day, le_refl day⟩

/-- The run with one more day at its end. -/
def extend (range : DayKeyRange) (day : Time) (h : day - range.toDay = DAY_MS) :
    DayKeyRange :=
  { range with toDay := day, le := range.le.trans (by linarith [Forecast.dayMs_pos]) }

/-- The day is one of the run. -/
def Holds (range : DayKeyRange) (day : Time) : Prop :=
  range.fromDay ≤ day ∧ day ≤ range.toDay

end DayKeyRange

/-- One day of the loop of `dayKeyRanges`: the last run goes on, or a new one begins. -/
def extendRanges (ranges : List DayKeyRange) (day : Time) : List DayKeyRange :=
  match ranges.getLast? with
  | some last =>
      if h : day - last.toDay = DAY_MS then ranges.dropLast ++ [last.extend day h]
      else ranges ++ [.single day]
  | none => ranges ++ [.single day]

/-- Sorted day keys grouped into runs of consecutive days. -/
def dayKeyRanges (dayKeys : List Time) : List DayKeyRange :=
  (dayKeys.eraseDups.insertionSort (· ≤ ·)).foldl extendRanges []

/-- The day of a step is in one of the runs, and no day drops out of them. -/
theorem holds_extendRanges {ranges : List DayKeyRange} {day d : Time}
    (h : d = day ∨ ∃ range ∈ ranges, range.Holds d) :
    ∃ range ∈ extendRanges ranges day, range.Holds d := by
  have hnew : (DayKeyRange.single day).Holds day := ⟨le_refl _, le_refl _⟩
  unfold extendRanges
  cases hlast : ranges.getLast? with
  | none =>
      rw [List.getLast?_eq_none_iff] at hlast
      subst hlast
      rcases h with rfl | ⟨range, hrange, _⟩
      · exact ⟨_, List.mem_singleton_self _, hnew⟩
      · exact absurd hrange List.not_mem_nil
  | some last =>
      dsimp only
      split
      case isFalse =>
          rcases h with rfl | ⟨range, hrange, hd⟩
          · exact ⟨_, by simp, hnew⟩
          · exact ⟨range, by simp [hrange], hd⟩
      case isTrue hgap =>
          have hsplit : ranges.dropLast ++ [last] = ranges :=
            List.dropLast_append_getLast? last hlast
          -- the last run grows at its end, so it keeps the days it held
          rcases h with rfl | ⟨range, hrange, hd⟩
          · exact ⟨last.extend d hgap, by simp, (last.extend d hgap).le, le_refl d⟩
          · rw [← hsplit, List.mem_append, List.mem_singleton] at hrange
            rcases hrange with hrange | rfl
            · exact ⟨range, by simp [hrange], hd⟩
            · refine ⟨range.extend day hgap, by simp, hd.1, ?_⟩
              have hgrow : range.toDay ≤ day := by linarith [Forecast.dayMs_pos]
              exact hd.2.trans hgrow

/-- Every day is in one of the runs it was grouped into. -/
theorem exists_holds_dayKeyRanges {dayKeys : List Time} {day : Time} (h : day ∈ dayKeys) :
    ∃ range ∈ dayKeyRanges dayKeys, range.Holds day := by
  have hloop : ∀ (days : List Time) (ranges : List DayKeyRange),
      (day ∈ days ∨ ∃ range ∈ ranges, range.Holds day) →
        ∃ range ∈ days.foldl extendRanges ranges, range.Holds day := by
    intro days
    induction days with
    | nil => rintro ranges (hmem | hheld) <;> simp_all
    | cons d days ih =>
        rintro ranges (hmem | hheld)
        · rcases List.mem_cons.mp hmem with rfl | hmem
          · exact ih _ (Or.inr (holds_extendRanges (Or.inl rfl)))
          · exact ih _ (Or.inl hmem)
        · exact ih _ (Or.inr (holds_extendRanges (Or.inr hheld)))
  refine hloop _ [] (Or.inl ?_)
  rw [List.mem_insertionSort, List.mem_eraseDups]
  exact h

/-! ## Pulls by sale date -/

/-- Wider than any timezone offset, so a UTC window padded by it always covers a whole
tenant day without knowing the tenant's zone. -/
def PAD_MS : ℤ := 14 * HOUR_MS

/-- Whether a tenant day may hold sales that a pull of what was updated since `windowStart`
did not return. -/
def dayNeedsRefetch (dayKey windowStart : Time) : Bool :=
  dayKey - PAD_MS < windowStart

/-- The UTC instants to fetch so that a range of tenant days is complete. -/
def processedWindowFor (range : DayKeyRange) : Time × Time :=
  (range.fromDay - PAD_MS, range.toDay + DAY_MS + PAD_MS)

/-- The window of a run holds every instant of its days. -/
theorem mem_processedWindowFor {timezone : Zone} {range : DayKeyRange} {date : Time}
    (h : range.Holds (tenantDayKey timezone date)) :
    (processedWindowFor range).1 ≤ date ∧ date < (processedWindowFor range).2 := by
  have hday := tenantDayKey_le timezone date
  have hhour := hourMs_pos
  unfold processedWindowFor PAD_MS
  constructor
  · linarith [h.1, hday.1]
  · linarith [h.2, hday.2]

/-- A sale on a day that needs no refetch was made since the start of the window. -/
theorem le_of_not_dayNeedsRefetch {timezone : Zone} {date windowStart : Time}
    (h : dayNeedsRefetch (tenantDayKey timezone date) windowStart = false) :
    windowStart ≤ date := by
  have hpad : windowStart ≤ tenantDayKey timezone date - PAD_MS := by
    simpa [dayNeedsRefetch] using h
  exact hpad.trans (tenantDayKey_le timezone date).1

end Restock.Sales
