import Restock.Forecast.Clock
import Restock.Series.Sorted
import Restock.Series.Tally

/-!
# Demand rates and their evidence

The rates of `packages/forecast/src/baseline.ts`, and the modules around them: the bulk-day cleaner
of `big-buyer.ts`, the class floors of `rate-floor.ts`, the stated seasons of `seasonality.ts` and
the honesty word of `confidence-word.ts`. A list of dates that is absent is the empty list: every
function here asks only for its length or walks it.

* `dampedWindow`, `blockedDaysInWindow`, `effectiveWindowDays` — the sales of a window, and what they
  are divided by;
* `weightedDailyRateAdjusted`, `weightedDailyRateCensored`, `weightedDailyRateMedianCensored` —
  the rates;
* `debulkSeries` — the cleaned series and the days it capped;
* `applyAbcRateFloor`, `blendedSeasonalMultiplier` — the class floor and the season of a horizon;
* `confidenceWord` — how sure the number is.
-/

namespace Restock.Forecast

open Series

/-- `SalesPoint`: one row of sales of one product. -/
structure SalesPoint where
  date : Time
  quantity : ℚ
  revenueKes : ℚ := 0
  deriving DecidableEq, Repr

/-- `BaselineMethod`. -/
inductive BaselineMethod
  | mean
  | median
  deriving DecidableEq, Repr

/-- The days and weight of each rate window. -/
def RATE_WINDOWS : List (ℤ × ℚ) :=
  [(30, 1 / 2), (90, 3 / 10), (365, 1 / 5)]

/-- A sum of what each window gives, by its weight. -/
def weigh (windows : List (ℤ × ℚ)) (rate : ℤ → ℚ) : ℚ :=
  (windows.map fun w => rate w.1 * w.2).sum

/-- The units of some rows. -/
def sumQty (rows : List SalesPoint) : ℚ :=
  (rows.map SalesPoint.quantity).sum

/-- The day keys of dates, each once. -/
def dayKeySet (dates : List Time) : Finset ℤ :=
  (dates.map dayKeyOf).toFinset

/-- A date in `[since, asOf)`. -/
def inWindow (since asOf d : Time) : Bool :=
  since ≤ d ∧ d < asOf

/-! ## Windows -/

/-- A day that sold more than this multiple of the typical sale day is capped at it. -/
def SPIKE_CAP_MULTIPLE : ℚ := 2

/-- Below this many sale days nothing is capped. -/
def MIN_SALE_DAYS_FOR_CAP : ℕ := 5

/-- The units of each day of a window, without the excluded days. -/
def dayTotals (history : List SalesPoint) (since asOf : Time) (excluded : Finset ℤ) :
    List (ℤ × ℚ) :=
  tally ((history.filter fun p =>
    inWindow since asOf p.date ∧ dayKeyOf p.date ∉ excluded).map fun p =>
      (dayKeyOf p.date, p.quantity))

/-- `{ units, saleDays }`. -/
structure DampedWindow where
  units : ℚ
  saleDays : ℕ
  deriving DecidableEq, Repr

/-- The spike-damped units of some day totals. -/
def damp (totals : List ℚ) : DampedWindow :=
  let sold := totals.filter (0 < ·)
  let cap := SPIKE_CAP_MULTIPLE * median sold
  { units := (totals.map fun qty =>
      if MIN_SALE_DAYS_FOR_CAP ≤ sold.length then min qty cap else qty).sum
    saleDays := sold.length }

/-- One window's sales, bucketed by day and spike-damped. -/
def dampedWindow (history : List SalesPoint) (since asOf : Time) (excluded : Finset ℤ) :
    DampedWindow :=
  damp ((dayTotals history since asOf excluded).map Prod.snd)

/-- Count of day-keys in the set falling inside `[since, asOf)`. -/
def countDayKeysInWindow (keys : Finset ℤ) (since asOf : Time) : ℤ :=
  (keys.filter fun k => inWindow since asOf k).card

/-- Count of censored day-keys falling inside `[since, asOf)`. -/
def censoredDaysInWindow (stockoutDates : List Time) (since asOf : Time) : ℤ :=
  (stockoutDates.filter fun d => inWindow since asOf d).length

/-- Distinct count of blocked day-keys inside `[since, asOf)`. -/
def blockedDaysInWindow (stockoutDates excludedDates : List Time) (since asOf : Time) : ℤ :=
  if excludedDates = [] then censoredDaysInWindow stockoutDates since asOf
  else countDayKeysInWindow (dayKeySet stockoutDates ∪ dayKeySet excludedDates) since asOf

/-- The rows in date order. -/
def sortByDate (rows : List SalesPoint) : List SalesPoint :=
  rows.insertionSort fun a b => a.date ≤ b.date

/-- What two neighbouring sale dates add to the gap days. -/
def gapBetween (minGap : ℤ) (excluded : Finset ℤ) (step : Time × Time) : ℤ :=
  let between := jsRound (daysBetween step.1 step.2)
  if minGap < between then
    between - 1 - (excluded.filter fun k => step.1 < k ∧ k < step.2).card
  else 0

/-- Count calendar days inside a window consumed by stockout gaps: runs of more than
`minGap` days without a sale record, for a product that sells half a unit a day. -/
def gapDaysInWindow (history : List SalesPoint) (since asOf : Time) (minGap : ℤ)
    (excludedDates : List Time) : ℤ :=
  let sorted := sortByDate (history.filter fun p => inWindow since asOf p.date)
  if sorted.length < 2 then 0
  else
    let windowDays := jsRound (daysBetween since asOf)
    -- `totalQty / windowDays < 0.5`, which for zero days asks whether the total is negative
    if sumQty sorted < windowDays / 2 then 0
    else
      let gap := ((steps (sorted.map SalesPoint.date)).map
        (gapBetween minGap (dayKeySet excludedDates))).sum
      min gap (windowDays - 1)

/-- Gap-inferred stockout days in the slice of `[since, asOf)` the snapshots do not reach. -/
def uncoveredGapDays (history : List SalesPoint) (since asOf : Time)
    (snapshotsSince : Option Time) (excludedDates : List Time) : ℤ :=
  match snapshotsSince with
  | none => 0
  | some snapshotsSince =>
      if snapshotsSince ≤ since then 0
      else gapDaysInWindow history since (min snapshotsSince asOf) 7 excludedDates

/-- Public view of the gap inference. -/
def inferredStockoutGapDays (history : List SalesPoint) (since asOf : Time) : ℤ :=
  gapDaysInWindow history since asOf 7 []

/-- The signal quality of a window: `{ inStockDays, saleDays }`. -/
structure WindowSignal where
  inStockDays : ℤ
  saleDays : ℕ
  deriving DecidableEq, Repr

/-- Denominator for a windowed rate: the days of the window less those out of stock, but
never below a floor that is lower when the window sold consistently. -/
def effectiveWindowDays (windowDays stockoutDays : ℤ) (signal : Option WindowSignal) : ℤ :=
  let consistent := signal.any fun s =>
    0 < s.inStockDays ∧ 2 ≤ s.saleDays ∧ 3 / 5 ≤ (s.saleDays : ℚ) / s.inStockDays
  let floor := if consistent then min 3 windowDays else min 7 windowDays
  max (windowDays - stockoutDays) floor

/-! ## Rates -/

/-- The recency-weighted rate with inferred stockout gaps out of each denominator. -/
def weightedDailyRateAdjusted (history : List SalesPoint) (asOf : Time)
    (excludedDates : List Time) : ℚ :=
  if history = [] then 0
  else weigh RATE_WINDOWS fun days =>
    let since := daysBefore asOf days
    let excluded := dayKeySet excludedDates
    let effectiveDays := max 1
      (days - gapDaysInWindow history since asOf 7 excludedDates
        - countDayKeysInWindow excluded since asOf)
    (dampedWindow history since asOf excluded).units / effectiveDays

/-- The recency-weighted rate with the days snapshots prove empty out of each denominator. -/
def weightedDailyRateCensored (history : List SalesPoint) (stockoutDates : List Time)
    (asOf : Time) (excludedDates : List Time) (snapshotsSince : Option Time) : ℚ :=
  if history = [] then 0
  else if stockoutDates = [] ∧ snapshotsSince = none then
    weightedDailyRateAdjusted history asOf excludedDates
  else weigh RATE_WINDOWS fun days =>
    let since := daysBefore asOf days
    let window := dampedWindow history since asOf (dayKeySet excludedDates)
    let blocked := blockedDaysInWindow stockoutDates excludedDates since asOf
      + uncoveredGapDays history since asOf snapshotsSince excludedDates
    window.units / effectiveWindowDays days blocked
      (some { inStockDays := days - blocked, saleDays := window.saleDays })

/-- The days of a bucket of the median baseline. -/
def MEDIAN_BUCKET_DAYS : ℤ := 7

/-- The days and weight of each window of the median baseline. -/
def MEDIAN_WINDOWS : List (ℤ × ℚ) :=
  [(56, 1 / 2), (182, 3 / 10), (364, 1 / 5)]

/-- The days strictly between two sale days that count as a gap. -/
def gapKeys (step : Time × Time) : List Time :=
  let left := dayKeyOf step.1
  let right := dayKeyOf step.2
  if right - left ≤ 7 * DAY_MS then [] else dayKeys (left + DAY_MS) right

/-- The days of a window inferred to be out of stock: gaps between the rows before
`inferenceEnd`, for a product that sold half a unit a day up to then. -/
def inferredGapKeys (rows : List SalesPoint) (start inferenceEnd : Time) : List Time :=
  let unknown := sortByDate (rows.filter fun p => dayKeyOf p.date < inferenceEnd)
  let unknownDays := daysBetween start inferenceEnd
  if 2 ≤ unknown.length ∧ 0 < unknownDays ∧ 1 / 2 ≤ sumQty unknown / unknownDays then
    (steps (unknown.map SalesPoint.date)).flatMap gapKeys
  else []

/-- A bucket of the median baseline: its eligible days and their units. -/
def weekOf (byDay : List (ℤ × ℚ)) (blocked : Finset ℤ) (bucketStart bucketEnd : Time) : ℕ × ℚ :=
  let eligible := (dayKeys bucketStart bucketEnd).filter fun k => k ∉ blocked
  (eligible.length, (eligible.map (totalIn byDay)).sum)

/-- The buckets from `asOf` back to `start`, the last one possibly short. -/
def weeksOf (byDay : List (ℤ × ℚ)) (blocked : Finset ℤ) (start asOf : Time) : List (ℕ × ℚ) :=
  let bucket := MEDIAN_BUCKET_DAYS * DAY_MS
  (List.range ((asOf - start + (bucket - 1)) / bucket).toNat).map fun i : ℕ =>
    weekOf byDay blocked (max start (asOf - i * bucket - bucket)) (asOf - i * bucket)

/-- The days of a window of the median baseline that are out of its exposure. A day that
sold units is exposed, unless it is excluded. -/
def medianBlocked (rows : List SalesPoint) (byDay : List (ℤ × ℚ)) (start inferenceEnd : Time)
    (excluded stockouts : Finset ℤ) : Finset ℤ :=
  (excluded ∪ stockouts ∪ (inferredGapKeys rows start inferenceEnd).toFinset).filter fun k =>
    ¬ (k ∉ excluded ∧ ∃ e ∈ byDay, e.1 = k ∧ 0 < e.2)

/-- The rate of one window of the median baseline. -/
def medianRate (valid : List SalesPoint) (start asOf inferenceEnd : Time)
    (excluded stockouts : Finset ℤ) : ℚ :=
  let rows := valid.filter fun p => start ≤ dayKeyOf p.date
  let byDay := tally (rows.map fun p => (dayKeyOf p.date, p.quantity))
  let blocked := medianBlocked rows byDay start inferenceEnd excluded stockouts
  let buckets := weeksOf byDay blocked start asOf
  let exposure : ℕ := (buckets.map Prod.fst).sum
  let weeks := (buckets.filter fun b => 3 ≤ b.1).map fun b => max 0 (b.2 / (b.1 : ℚ))
  let window := dampedWindow valid start asOf excluded
  let span := max 1 ((asOf - start) / DAY_MS)
  let mean := max 0 window.units / effectiveWindowDays span (span - exposure)
    (some { inStockDays := exposure, saleDays := window.saleDays })
  if 4 ≤ weeks.length ∧ (0 < median weeks ∨ window.units ≤ 0) then median weeks else mean

/-- Weekly-median baseline over completed days and actual eligible exposure, with the
exposure mean where there is too little evidence. -/
def weightedDailyRateMedianCensored (history : List SalesPoint) (stockoutDates : List Time)
    (asOf : Time) (excludedDates : List Time) (snapshotsSince : Option Time) : ℚ :=
  let last := dayKeyOf asOf
  let valid := history.filter fun p => p.date < asOf ∧ dayKeyOf p.date < last
  if valid = [] then 0
  else
    let first := (valid.map fun p => dayKeyOf p.date).foldl min last
    weigh MEDIAN_WINDOWS fun days =>
      let start := max first (daysBefore last days)
      let inferenceEnd := match snapshotsSince with
        | some snapshotsSince => min last (dayKeyOf snapshotsSince)
        | none => if stockoutDates = [] then last else start
      medianRate valid start last inferenceEnd (dayKeySet excludedDates) (dayKeySet stockoutDates)

/-! ## Inventory -/

/-- Cover returned when the run rate is about zero: a sentinel, not a day count. -/
def NO_STOCKOUT_DAYS : ℤ := 999

/-- How many days the stock lasts. -/
def daysOfStockRemaining (currentStock dailyRate : ℚ) : ℤ :=
  if dailyRate ≤ 1 / 10000 then NO_STOCKOUT_DAYS else ⌊currentStock / dailyRate⌋

/-- Safety stock via King's formula, floored at zero. -/
def kingsSafetyStock (js : Js) (z leadTimeAvg leadTimeStd demandAvg demandStd : ℚ) : ℚ :=
  let variance := max 0 leadTimeAvg * demandStd ^ 2 + demandAvg ^ 2 * leadTimeStd ^ 2
  max 0 (z * js.sqrt variance)

/-- The stock level at which to order again. -/
def reorderPoint (demandAvg leadTimeAvg safetyStock : ℚ) : ℚ :=
  demandAvg * leadTimeAvg + safetyStock

/-- Population standard deviation. -/
def standardDeviation (js : Js) (values : List ℚ) : ℚ :=
  if values = [] then 0
  else
    let mean := values.sum / values.length
    js.sqrt ((values.map fun v => (v - mean) ^ 2).sum / values.length)

/-- `Urgency`. -/
inductive Urgency
  | critical
  | high
  | medium
  | low
  deriving DecidableEq, Repr

/-- Sells at least about one unit in two weeks. -/
def CRITICAL_MIN_RATE : ℚ := 1 / 14

/-- Days of cover to urgency, gated by the daily rate. -/
def urgencyFromDays (days : ℤ) (dailyRate : ℚ) : Urgency :=
  if days < 7 then if CRITICAL_MIN_RATE ≤ dailyRate then .critical else .high
  else if days < 14 then .high
  else if days < 30 then .medium
  else .low

/-- `Partial<Record<"A" | "B" | "C", number | null>>`. -/
structure ServiceZ where
  A : Option ℚ := none
  B : Option ℚ := none
  C : Option ℚ := none
  deriving DecidableEq, Repr

/-- z for a product's ABC class: tenant overrides win over the defaults, and unknown
classes take the C service level. -/
def zForServiceLevel (abc : Option String) (overrides : ServiceZ) : ℚ :=
  if abc = some "A" then overrides.A.getD (233 / 100)
  else if abc = some "B" then overrides.B.getD (165 / 100)
  else overrides.C.getD (128 / 100)

/-! ## Bulk days -/

def BULK_MULT : ℚ := 5
def BULK_ABS_FLOOR : ℚ := 6
def BULK_CAP_MULT : ℚ := 3

/-- `BulkCap`: a day that was capped. -/
structure BulkCap where
  date : Time
  original : ℚ
  capped : ℚ
  baseline : ℚ
  threshold : ℚ
  multiple : ℚ
  deriving DecidableEq, Repr

/-- `DebulkResult`. -/
structure DebulkResult where
  series : List SalesPoint
  caps : List BulkCap
  deriving DecidableEq, Repr

/-- The rows that enter detection: on completed days that are not excluded. -/
def bulkEvidence (history : List SalesPoint) (asOf : Option Time) (excluded : Finset ℤ) :
    List SalesPoint :=
  history.filter fun p =>
    (asOf.all fun d => dayKeyOf p.date < dayKeyOf d) ∧ dayKeyOf p.date ∉ excluded

/-- Day totals of what `part` takes of each quantity. -/
def bulkTotals (rows : List SalesPoint) (part : ℚ → ℚ) : List (ℤ × ℚ) :=
  tally (rows.map fun p => (dayKeyOf p.date, part p.quantity))

/-- The cap of a day with a total above the threshold. -/
def bulkCap (baseline : ℚ) (day : ℤ × ℚ) : BulkCap :=
  let threshold := max BULK_ABS_FLOOR (BULK_MULT * baseline)
  let target := max (BULK_ABS_FLOOR - 1) (jsRound (BULK_CAP_MULT * baseline))
  { date := day.1
    original := day.2
    capped := min day.2 target
    baseline
    threshold
    multiple := jsRound (day.2 / baseline * 10) / 10 }

/-- The days to cap, in the order in which they appear. -/
def bulkCaps (rows : List SalesPoint) : List BulkCap :=
  let days := bulkTotals rows id
  let baseline := median ((days.map Prod.snd).filter (0 < ·))
  if 0 < baseline then
    (days.filter fun day => max BULK_ABS_FLOOR (BULK_MULT * baseline) < day.2).map
      (bulkCap baseline)
  else []

/-- The factor on the positive rows of a capped day. -/
def bulkFactor (rows : List SalesPoint) (cap : BulkCap) : ℚ :=
  let negative := totalIn (bulkTotals rows fun q => if 0 < q then 0 else q) cap.date
  let positive := totalIn (bulkTotals rows fun q => if 0 < q then q else 0) cap.date
  (cap.capped - negative) / positive

/-- Flag days far above the median positive day, and cap their units. -/
def debulkSeries (history : List SalesPoint) (asOf : Option Time) (excludedDates : List Time) :
    DebulkResult :=
  let rows := bulkEvidence history asOf (dayKeySet excludedDates)
  let caps := bulkCaps rows
  { series := history.map fun point =>
      match caps.find? fun cap => cap.date = dayKeyOf point.date with
      | some cap =>
          if 0 < point.quantity then
            { point with quantity := point.quantity * bulkFactor rows cap }
          else point
      | none => point
    caps := caps.insertionSort fun a b => a.date ≤ b.date }

/-! ## Class floors -/

/-- `ABC_RATE_FLOORS`. -/
def abcRateFloor (abc : Option String) : ℚ :=
  if abc = some "A" then 2 / 5 else if abc = some "B" then 1 / 10 else 0

/-- Was the shelf empty for most of the days the snapshots prove anything about? -/
def shelfWasMostlyEmpty (stockoutDates : List Time) (snapshotsSince : Option Time)
    (windowStart today : Time) : Bool :=
  match snapshotsSince with
  | none => false
  | some snapshotsSince =>
      let start := max (dayKeyOf windowStart) (dayKeyOf snapshotsSince)
      let stop := dayKeyOf today
      let provenDays := jsRound (daysBetween start stop)
      let empty := (dayKeySet stockoutDates).filter fun k => inWindow start stop k
      0 < provenDays ∧ provenDays < empty.card * 2

/-- The floor that applies to a product right now, zero when none does. -/
def abcFloorFor (abc : Option String) (hadRecentSales shelfMostlyEmpty : Bool) : ℚ :=
  if hadRecentSales ∧ shelfMostlyEmpty then abcRateFloor abc else 0

/-- Lift a rate towards its class floor, never past what the product has shown. -/
def applyAbcRateFloor (rate : ℚ) (abc : Option String) (hadRecentSales shelfMostlyEmpty : Bool)
    (demonstratedRate : Option ℚ) : ℚ :=
  let floor := abcFloorFor abc hadRecentSales shelfMostlyEmpty
  if floor ≤ rate then rate else max rate (min floor (demonstratedRate.getD floor))

/-- The fastest a product has been seen to sell: units over the span from its first sale to
its last. -/
def demonstratedDailyRate (history : List SalesPoint) : Option ℚ :=
  let sold := history.filter fun p => 0 < p.quantity
  let dates := sold.map SalesPoint.date
  match dates.min?, dates.max? with
  | some first, some last => some (sumQty sold / max 1 (jsRound (daysBetween first last)))
  | _, _ => none

/-! ## Stated seasons -/

def SEASONAL_HORIZON_DAYS : ℕ := 30
def SEASONAL_MIN : ℚ := 1 / 4
def SEASONAL_MAX : ℚ := 4

/-- Keep a multiplier inside its bounds. -/
def clampSeason (value : ℚ) : ℚ :=
  min SEASONAL_MAX (max SEASONAL_MIN value)

/-- Clamp a stated multiplier, or nothing when there is nothing usable to state. -/
def boundedMultiplier (value : Option ℚ) : Option ℚ :=
  match value with
  | none => none
  | some value => if value ≤ 0 then none else some (clampSeason value)

/-- `MonthlyExpectation`. -/
structure MonthlyExpectation where
  month : String
  multiplier : ℚ
  deriving DecidableEq, Repr

/-- The bounded multiplier stated last for a month. -/
def statedFor (expectations : List MonthlyExpectation) (month : String) : Option ℚ :=
  (expectations.filterMap fun e => if e.month = month then boundedMultiplier (some e.multiplier)
    else none).getLast?

/-- One multiplier for the horizon: the mean over its days of what their months run at. -/
def blendedSeasonalMultiplier (expectations : List MonthlyExpectation) (today : Time) : ℚ :=
  if expectations.all fun e => boundedMultiplier (some e.multiplier) = none then 1
  else
    let total := ((List.range SEASONAL_HORIZON_DAYS).map fun i : ℕ =>
      (statedFor expectations (monthKeyOf (today + i * DAY_MS))).getD 1).sum
    clampSeason (total / SEASONAL_HORIZON_DAYS)

/-- Plain words for a season, or nothing when the month is normal. -/
def seasonalLabel (multiplier : ℚ) : Option String :=
  if |multiplier - 1| < 5 / 1000 then none
  else
    let pct := jsRound ((multiplier - 1) * 100)
    some (if 0 < pct then s!"Busier season you told us about, +{pct}%"
      else s!"Quieter season you told us about, {pct}%")

/-! ## The honesty word -/

/-- `ConfidenceWord`. -/
inductive ConfidenceWord
  | sure
  | fairlySure
  | guessing
  deriving DecidableEq, Repr

/-- `ConfidenceSignals`. -/
structure ConfidenceSignals where
  historyDays : ℚ
  cv : ℚ
  stockoutGapShare : ℚ
  promoContaminated : Bool
  coldStart : Bool
  deriving DecidableEq, Repr

/-- The rank of a word, from the least certain up. -/
def ConfidenceWord.rank : ConfidenceWord → ℕ
  | .guessing => 0
  | .fairlySure => 1
  | .sure => 2

/-- The less certain of two words. -/
def leastConfident (a b : ConfidenceWord) : ConfidenceWord :=
  if a.rank ≤ b.rank then a else b

/-- How sure a number with these signals is. -/
def confidenceWord (s : ConfidenceSignals) : ConfidenceWord :=
  if s.coldStart ∨ s.historyDays < 21 then .guessing
  else if 1 ≤ s.cv ∨ 2 / 5 ≤ s.stockoutGapShare then .guessing
  else if 90 ≤ s.historyDays ∧ s.cv ≤ 1 / 2 ∧ s.stockoutGapShare ≤ 1 / 10 ∧
      ¬ s.promoContaminated then .sure
  else .fairlySure

end Restock.Forecast
