import Mathlib.Data.List.Sort
import Restock.Audit.Config
import Restock.Series.Runs

/-!
# Availability inferred from zero-runs

`availability/inferred.py` reads stockouts off the days without sales. A zero-run of a series is an
episode when chance would hardly make one, by the trailing rate at its start, unless most of the
location's active catalogue is at zero too: then the day is one of closure. The tag of a closure is
the day's share, and the test of a run is the mean of its days' shares.

* `trailingLambda`, `ratedFrame` — the daily rates;
* `activeRows`, `crossShare`, `closureDays` — the shares of the active catalogue at zero;
* `tierOf`, `episodesOf`, `flaggedFrame` — the zero-runs that are stockouts, and their days;
* `inStockDays` — the weeks and the episodes.

A day is the number of days since 1970-01-01. A rate that is undefined (NaN) is absent.
-/

namespace Restock.Audit

open Series (runs)

/-! ## The daily frame -/

/-- A row of the daily frame. -/
structure DailyRow where
  series : SeriesKey
  date : ℤ
  /-- Nothing for what is not a number. -/
  units : Option ℚ
  deriving DecidableEq, Repr

/-- A row of the daily frame with the columns that are added first. -/
structure RatedRow where
  series : SeriesKey
  date : ℤ
  units : ℚ
  /-- `_day_idx`: the row's place in its series. -/
  dayIdx : ℕ
  lam : Option ℚ
  deriving DecidableEq, Repr

/-- `_LAMBDA_WINDOW_DAYS`. -/
def lambdaWindowDays : ℕ := 13 * 7

/-- `_MIN_HISTORY_DAYS`. -/
def minHistoryDays : ℕ := 28

/-- `_trailing_lambda`: the mean rate of the days before a day, within the window; undefined on the
first day. -/
def trailingLambda (units : List ℚ) (t : ℕ) : Option ℚ :=
  let lo := t - lambdaWindowDays
  if t = 0 then none
  else some (((units.take t).drop lo).sum / (t - lo : ℕ))

/-- The series of a frame, in order. -/
def seriesOf (daily : List DailyRow) : List SeriesKey :=
  (daily.map DailyRow.series).eraseDups.insertionSort fun a b =>
    a.sku < b.sku ∨ (a.sku = b.sku ∧ a.location ≤ b.location)

/-- The rows of a series by date, with their rates. -/
def ratedRows (daily : List DailyRow) (series : SeriesKey) : List RatedRow :=
  let rows := (daily.filter fun r => r.series = series).insertionSort fun a b => a.date ≤ b.date
  let units := rows.map fun r => r.units.getD 0
  rows.mapIdx fun t r =>
    { series
      date := r.date
      units := r.units.getD 0
      dayIdx := t
      lam := trailingLambda units t }

/-- The frame sorted by series and date. -/
def ratedFrame (daily : List DailyRow) : List RatedRow :=
  (seriesOf daily).flatMap (ratedRows daily)

/-! ## The active catalogue -/

/-- The row lies between the first and the last sale of its series, and its rate is at least
`_ACTIVE_MIN_LAMBDA`. -/
def isActive (rows : List RatedRow) (r : RatedRow) : Bool :=
  let saleDates := (rows.filter fun r => 0 < r.units).map RatedRow.date
  saleDates.min?.any (· ≤ r.date) && saleDates.max?.any (r.date ≤ ·) &&
    r.lam.any fun lam => 3 / 10 ≤ lam

/-- The active rows of the frame. -/
def activeRows (daily : List DailyRow) : List RatedRow :=
  (seriesOf daily).flatMap fun series =>
    let rows := ratedRows daily series
    rows.filter (isActive rows)

/-- `cross_share`: the share of the active rows of a location at zero on a day; zero when none is
active. -/
def crossShare (active : List RatedRow) (location : String) (date : ℤ) : ℚ :=
  let there := active.filter fun r => r.series.location = location ∧ r.date = date
  if there = [] then 0
  else (there.filter fun r => r.units = 0).length / there.length

section Code

variable (py : Py) (config : Config)

/-- The share of a day is above the closure threshold. -/
def isClosure (active : List RatedRow) (location : String) (date : ℤ) : Bool :=
  config.availability.crossSectionalClosureThreshold < crossShare active location date

/-- `self.closure_days_`. -/
def closureDays (daily : List DailyRow) : List (String × ℤ) :=
  let active := activeRows daily
  (((ratedFrame daily).filter fun r => isClosure config active r.series.location r.date).map
    fun r => (r.series.location, r.date)).eraseDups

/-! ## Zero-runs -/

/-- The confidence that a zero-run is a stockout. -/
inductive Tier
  | low
  | medium
  | high
  deriving DecidableEq, Repr

/-- `_TIER_RANK`. -/
def Tier.rank : Tier → ℕ
  | low => 1
  | medium => 2
  | high => 3

/-- An episode of `StockoutSchema`. -/
structure Episode where
  series : SeriesKey
  startDate : ℤ
  endDate : ℤ
  days : ℕ
  confidence : Tier
  /-- The expected number of false runs. -/
  pValue : ℚ
  singleRunP : ℚ
  crossSectionalShare : ℚ
  deriving DecidableEq, Repr

/-- The expected number of chance zero-runs of a length over the days of a series. -/
def expectedRuns (lam0 : ℚ) (n k : ℕ) : ℚ :=
  let pZero := py.exp (-lam0)
  n * (1 - pZero) * pZero ^ k

/-- The mean of the shares of the days of a run. -/
def runShare (active : List RatedRow) (rows : List RatedRow) (i j : ℕ) : ℚ :=
  let days := (rows.take j).drop i
  (days.map fun r => crossShare active r.series.location r.date).sum / days.length

/-- The tier of a run that chance would hardly make; nothing when it is a closure. -/
def tierOf (lam0 expected share : ℚ) : Option Tier :=
  let acfg := config.availability
  if acfg.crossSectionalClosureThreshold < share then none
  else if share < acfg.crossSectionalAmbiguousThreshold then
    if 3 ≤ lam0 ∧ expected < acfg.zeroRunPvalue / 10 then some .high else some .medium
  else some .low

/-- What the loop makes of a zero-run of a series: an episode or nothing. A run needs enough
history and a rate that is defined and not too low, and chance must hardly make it. -/
def episodeOf (active rows : List RatedRow) (run : ℕ × ℕ) : Option Episode := do
  let acfg := config.availability
  let (i, j) := run
  let first ← rows[i]?
  let last ← rows[j - 1]?
  let lam0 ← first.lam
  let expected := expectedRuns py lam0 rows.length (j - i)
  let share := runShare active rows i j
  if minHistoryDays ≤ i ∧ acfg.minVelocityPerDay ≤ lam0 ∧ expected < acfg.zeroRunPvalue then
    let confidence ← tierOf config lam0 expected share
    return {
      series := first.series
      startDate := first.date
      endDate := last.date
      days := j - i
      confidence
      pValue := expected
      singleRunP := py.exp (-lam0 * (j - i : ℕ))
      crossSectionalShare := share }
  else none

/-- The zero-runs of a series. -/
def zeroRuns (rows : List RatedRow) : List (ℕ × ℕ) :=
  runs (fun r => r.units = 0) rows

/-- The episodes of a series. -/
def episodesOf (active rows : List RatedRow) : List Episode :=
  (zeroRuns rows).filterMap (episodeOf py config active rows)

/-- `stockout_tier[pos[i:j]] = conf`. -/
def setTier (tiers : List (Option Tier)) (run : ℕ × ℕ) (tier : Tier) : List (Option Tier) :=
  tiers.mapIdx fun t old => if run.1 ≤ t ∧ t < run.2 then some tier else old

/-- The tiers of the days of a series. -/
def stockoutTier (active rows : List RatedRow) : List (Option Tier) :=
  (zeroRuns rows).foldl (fun tiers run =>
    match episodeOf py config active rows run with
    | some episode => setTier tiers run episode.confidence
    | none => tiers) (rows.map fun _ => none)

/-- The rows of a series with their tiers. -/
def flaggedRows (active rows : List RatedRow) : List (RatedRow × Option Tier) :=
  rows.zip (stockoutTier py config active rows)

/-! ## Weeks -/

/-- `_WEEKDAYS`, of a name in lower case, or Monday. -/
def weekdayOf (name : String) : ℤ :=
  match py.lower name with
  | "monday" => 0
  | "tuesday" => 1
  | "wednesday" => 2
  | "thursday" => 3
  | "friday" => 4
  | "saturday" => 5
  | "sunday" => 6
  | _ => 0

/-- The first day of the week of a day; 1970-01-01 was a Thursday. -/
def weekStartOf (date : ℤ) : ℤ :=
  date - ((date + 3) % 7 - weekdayOf py config.time.weekStart) % 7

/-- `(7.0 - _out_days).clip(0.0, 7.0)`. -/
def stockedDays (outDays : ℕ) : ℚ :=
  max 0 (min 7 (7 - outDays))

/-- What a week says of the availability of a series. -/
inductive WeekConfidence
  | tier (tier : Tier)
  | notAssessable
  | none
  deriving DecidableEq, Repr

/-- A row of the weekly frame. -/
structure AvailabilityWeek where
  series : SeriesKey
  weekStart : ℤ
  inStockDays : ℚ
  confidence : WeekConfidence
  deriving DecidableEq, Repr

/-- `_RANK_TIER` of the highest tier of some days. -/
def bestTier (tiers : List Tier) : Option Tier :=
  tiers.find? fun tier => tiers.all fun other => other.rank ≤ tier.rank

/-- A week of a series, of its rows with their tiers. -/
def availabilityWeek (series : SeriesKey) (weekStart : ℤ) (rows : List (RatedRow × Option Tier)) :
    AvailabilityWeek :=
  let out := rows.filterMap Prod.snd
  { series
    weekStart
    inStockDays := stockedDays out.length
    confidence :=
      match bestTier out with
      | some tier => .tier tier
      | none =>
          if (rows.map fun r => r.1.dayIdx).min?.any (· < minHistoryDays) ||
              !((rows.head?.bind fun r => r.1.lam).any
                fun lam => config.availability.minVelocityPerDay ≤ lam) then .notAssessable
          else .none }

/-- The weeks of a series. -/
def weeksOf (series : SeriesKey) (rows : List (RatedRow × Option Tier)) :
    List AvailabilityWeek :=
  (rows.map fun r => weekStartOf py config r.1.date).eraseDups.map fun week =>
    availabilityWeek config series week (rows.filter fun r => weekStartOf py config r.1.date = week)

/-- `InferredAvailability.in_stock_days`: the weeks and the episodes of a frame. -/
def inStockDays (daily : List DailyRow) : List AvailabilityWeek × List Episode :=
  let active := activeRows daily
  ((seriesOf daily).flatMap fun series =>
      weeksOf py config series (flaggedRows py config active (ratedRows daily series)),
    (seriesOf daily).flatMap fun series =>
      episodesOf py config active (ratedRows daily series))

end Code

end Restock.Audit
