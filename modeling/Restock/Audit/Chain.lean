import Restock.Audit.Availability
import Restock.Audit.Transactions
import Restock.Series.Groups

/-!
# The cleaning chain

The steps of `clean/steps.py` from the eighth, and `run_chain` of `clean/pipeline.py`. The lines are
summed per series and week, with a daily spine for the inference of stockouts beside them, and the
weeks between a series' first and last are filled. Later steps tag weeks of promotions, correct the
units of weeks that were partly out of stock, cap spikes and lift the cap where the level has
shifted. None of those changes a cell or its raw units.

* `PanelRow` — a row of the panel, where a column that is not there yet has its default;
* `aggregateWeekly`, `dailySpine`, `fillZeroWeeks`, `promoRetro`, `withAvailability`,
  `correctAvailability`, `minCoverage`, `winsorize`, `levelShift` — the steps;
* `AvailabilitySource`, `inferred` — where the stocked days come from;
* `runChain` — the chain.
-/

namespace Restock.Audit

open Series (median)

/-- A row of the panel. -/
structure PanelRow where
  series : SeriesKey
  /-- The day of the week's Monday. -/
  weekStart : ℤ
  unitsRaw : ℚ
  priceMedian : Option ℚ := none
  bulkFlag : Bool := false
  filledZeroFlag : Bool := false
  promoFlag : Bool := false
  inStockDays : ℚ := 7
  stockoutFlag : Bool := false
  /-- Nothing for `none`. -/
  stockoutConfidence : Option Tier := none
  unitsCorrected : ℚ := 0
  usable : Bool := true
  unitsPrecap : ℚ := 0
  winsorizeCappedFlag : Bool := false
  levelShiftFlag : Bool := false
  deriving DecidableEq, Repr

/-- The cell of the panel that a row is. -/
def PanelRow.cell (r : PanelRow) : SeriesKey × ℤ :=
  (r.series, r.weekStart)

/-- The cell of the panel that a line is counted in. -/
def TxLine.cell (l : TxLine) : SeriesKey × ℤ :=
  (l.series, l.week)

/-- The order of cells: by SKU, location and week. -/
def cellLe (a b : SeriesKey × ℤ) : Prop :=
  a.1.sku < b.1.sku ∨
    (a.1.sku = b.1.sku ∧ (a.1.location < b.1.location ∨
      (a.1.location = b.1.location ∧ a.2 ≤ b.2)))

instance : DecidableRel cellLe := fun a b =>
  inferInstanceAs (Decidable (a.1.sku < b.1.sku ∨
    (a.1.sku = b.1.sku ∧ (a.1.location < b.1.location ∨
      (a.1.location = b.1.location ∧ a.2 ≤ b.2)))))

/-! ## Aggregation -/

section Aggregate

variable (lines : List FlaggedLine)

/-- The cells that have a line, in order. -/
def cellsOf : List (SeriesKey × ℤ) :=
  (lines.map fun l => l.line.cell).eraseDups.insertionSort cellLe

/-- The row of a cell. A total driven negative by returns is floored at zero. -/
def weeklyRow (cell : SeriesKey × ℤ) : PanelRow :=
  let own := lines.filter fun l => l.line.cell = cell
  let units := (own.map fun l => l.line.qty).sum
  let prices := own.filterMap fun l => if 0 < l.line.qty then l.line.unitPrice else none
  { series := cell.1
    weekStart := cell.2
    unitsRaw := if units < 0 then 0 else units
    priceMedian := if prices = [] then none else some (median prices)
    bulkFlag := own.any FlaggedLine.bulk }

/-- The weekly frame of `step_08_aggregate`. -/
def aggregateWeekly : List PanelRow :=
  (cellsOf lines).map (weeklyRow lines)

/-- Every day from one to another. -/
def daysBetween (first last : ℤ) : List ℤ :=
  (List.range (last - first + 1).toNat).map fun k : ℕ => first + (k : ℤ)

/-- The days of a series, from its first line to its last, floored at zero. -/
def spineOf (series : SeriesKey) : List DailyRow :=
  let own := lines.filter fun l => l.line.series = series
  let days := own.map fun l => dayOf l.line.date
  match days.min?, days.max? with
  | some first, some last =>
      (daysBetween first last).map fun day =>
        { series
          date := day
          units := some (max 0
            ((own.filter fun l => dayOf l.line.date = day).map fun l => l.line.qty).sum) }
  | _, _ => []

/-- The daily frame of `step_08_aggregate`. -/
def dailySpine : List DailyRow :=
  ((cellsOf lines).map Prod.fst).eraseDups.flatMap (spineOf lines)

end Aggregate

/-! ## Weeks without a line -/

/-- Every seventh day from one to another. -/
def weeksBetween (first last : ℤ) : List ℤ :=
  (List.range ((last - first) / 7 + 1).toNat).map fun k : ℕ => first + 7 * (k : ℤ)

/-- The weeks of a series, with those between its first and its last filled. -/
def filledWeeks (own : List PanelRow) (series : SeriesKey) : List PanelRow :=
  match (own.map PanelRow.weekStart).min?, (own.map PanelRow.weekStart).max? with
  | some first, some last =>
      (weeksBetween first last).map fun week =>
        (own.find? fun r => r.weekStart = week).getD
          { series, weekStart := week, unitsRaw := 0, filledZeroFlag := true }
  | _, _ => []

/-- `step_09_fill_zero_weeks`. -/
def fillZeroWeeks (weekly : List PanelRow) : List PanelRow :=
  (weekly.map PanelRow.series).eraseDups.flatMap fun series =>
    filledWeeks (weekly.filter fun r => r.series = series) series

/-! ## Where the stocked days come from -/

/-- An `AvailabilitySource` has one row per series and week. -/
structure AvailabilitySource where
  inStockDays : List DailyRow → Config → List AvailabilityWeek × List Episode
  oneRow : ∀ daily config,
    ((inStockDays daily config).1.map fun w => (w.series, w.weekStart)).Nodup

/-- The weeks of a series bear its name. -/
theorem series_of_mem_weeksOf {py : Py} {config : Config} {series : SeriesKey}
    {rows : List (RatedRow × Option Tier)} {week : AvailabilityWeek}
    (h : week ∈ weeksOf py config series rows) : week.series = series := by
  obtain ⟨_, _, rfl⟩ := List.mem_map.mp h
  rfl

/-- The series of a frame are distinct. -/
theorem nodup_seriesOf (daily : List DailyRow) : (seriesOf daily).Nodup :=
  (List.perm_insertionSort _ _).nodup_iff.mpr (Series.nodup_eraseDups _)

/-- `InferredAvailability`. -/
def inferred (py : Py) : AvailabilitySource where
  inStockDays daily config := inStockDays py config daily
  oneRow daily config := by
    rw [inStockDays, List.map_flatMap]
    refine List.nodup_flatMap.mpr ⟨fun series _ => ?_, ?_⟩
    · -- a series has each of its weeks once
      rw [weeksOf, List.map_map]
      exact (Series.nodup_eraseDups _).map fun _ _ h => (Prod.mk.inj h).2
    · refine (nodup_seriesOf daily).imp fun hne => ?_
      refine List.disjoint_left.mpr fun key ha hb => ?_
      obtain ⟨wa, hwa, rfl⟩ := List.mem_map.mp ha
      obtain ⟨wb, hwb, heq⟩ := List.mem_map.mp hb
      rw [series_of_mem_weeksOf hwa, series_of_mem_weeksOf hwb] at heq
      exact hne (Prod.mk.inj heq).1.symm

/-! ## Steps -/

/-- A step that treats every series of a sorted frame by itself. -/
def perSeries (step : List PanelRow → List PanelRow) (rows : List PanelRow) : List PanelRow :=
  (rows.map PanelRow.series).eraseDups.flatMap fun series =>
    step (rows.filter fun r => r.series = series)

/-- `sort_values` by SKU, location and week. -/
def sortRows (rows : List PanelRow) : List PanelRow :=
  rows.insertionSort fun a b => cellLe a.cell b.cell

section Code

variable (config : Config)

/-- `trailing_median` at a position: nothing without a value before it in the window. -/
def trailingMedian (values : List (Option ℚ)) (window t : ℕ) : Option ℚ :=
  let past := ((values.take t).drop (t - window)).reduceOption
  if past = [] then none else some (median past)

/-- `step_10_promo_retro`, on a series. -/
def promoRetro (rows : List PanelRow) : List PanelRow :=
  let prices := rows.map PanelRow.priceMedian
  rows.mapIdx fun t r =>
    { r with
      promoFlag :=
        match r.priceMedian, trailingMedian prices config.baseline.windowWeeks.toNat t with
        | some price, some trail =>
            price ≤ (1 - config.events.priceDropThresholdPct / 100) * trail
        | _, _ => false }

/-- `step_11_12_availability`: the stocked days of the week, seven when there are none, and the
highest confidence of the episodes that overlap it. -/
def withAvailability (weeks : List AvailabilityWeek) (episodes : List Episode) (r : PanelRow) :
    PanelRow :=
  let own := (weeks.find? fun w => w.series = r.series ∧ w.weekStart = r.weekStart).map
    AvailabilityWeek.inStockDays
  let tier := bestTier <| episodes.filterMap fun e =>
    if e.series = r.series ∧ mondayOf e.startDate ≤ r.weekStart ∧
      r.weekStart ≤ mondayOf e.endDate then some e.confidence else none
  { r with
    inStockDays := max 0 (min 7 (own.getD 7))
    stockoutFlag := tier.isSome
    stockoutConfidence := tier }

/-- `step_13_availability_correction`: without a stocked day the scaled units are infinite, and the
cap stands. -/
def correctAvailability (r : PanelRow) : PanelRow :=
  let capped := config.availability.correctionCapMultiple * r.unitsRaw
  { r with
    unitsCorrected :=
      if r.inStockDays < 7 then
        if 0 < r.inStockDays then
          min (r.unitsRaw * 7 / max r.inStockDays (1 / 10 ^ 12)) capped
        else capped
      else r.unitsRaw }

/-- `step_14_min_coverage`. -/
def minCoverage (r : PanelRow) : PanelRow :=
  { r with usable := config.availability.minInstockDaysPerWeek ≤ r.inStockDays }

/-- A week of a promotion or a bulk order is neither capped nor looked at for the cap. -/
def PanelRow.skip (r : PanelRow) : Bool :=
  r.promoFlag || r.bulkFlag

/-- The cap of a week after those of a series before it that are already capped. -/
def winsorizeCap (before : List PanelRow) : Option ℚ :=
  let window := config.baseline.windowWeeks.toNat
  let past := ((before.drop (before.length - window)).filter fun r => !r.skip).map
    PanelRow.unitsCorrected
  if past = [] ∨ median past ≤ 0 then none
  else some (config.baseline.winsorizeMultiple * median past)

/-- One turn of the loop of `trailing_winsorize`. -/
def winsorizeRow (before : List PanelRow) (r : PanelRow) : PanelRow :=
  let row := { r with unitsPrecap := r.unitsCorrected, winsorizeCappedFlag := false }
  if r.skip then row
  else
    match winsorizeCap config before with
    | some cap =>
        if cap < r.unitsCorrected then
          { row with unitsCorrected := cap, winsorizeCappedFlag := true }
        else row
    | none => row

/-- `step_15_winsorize`, on a series. -/
def winsorize (rows : List PanelRow) : List PanelRow :=
  rows.foldl (fun before r => before ++ [winsorizeRow config before r]) []

/-- The loop of `step_16_level_shift` that looks for enough capped weeks in a row, from a position
on. -/
def shiftFrom (consecutive : ℤ) : ℤ → ℤ → List PanelRow → Option ℤ
  | _, _, [] => none
  | i, run, r :: rows =>
      let run := if r.winsorizeCappedFlag then run + 1 else 0
      if consecutive ≤ run then some (i - consecutive + 1)
      else shiftFrom consecutive (i + 1) run rows

/-- The cap of a week is lifted. -/
def uncap (r : PanelRow) : PanelRow :=
  { r with
    unitsCorrected := if r.winsorizeCappedFlag then r.unitsPrecap else r.unitsCorrected
    winsorizeCappedFlag := false
    levelShiftFlag := true }

/-- `step_16_level_shift`, on a series. A position beyond the series throws
(`levelShiftThrows`). -/
def levelShift (rows : List PanelRow) : List PanelRow :=
  match shiftFrom config.baseline.levelShiftConsecutiveWeeks 0 0 rows with
  | some shift =>
      rows.mapIdx fun t r => if shift ≤ t then uncap r else { r with levelShiftFlag := false }
  | none => rows.map fun r => { r with levelShiftFlag := false }

/-- A series in which `step_16_level_shift` throws. -/
def levelShiftThrows (rows : List PanelRow) : Bool :=
  (shiftFrom config.baseline.levelShiftConsecutiveWeeks 0 0 rows).any fun shift =>
    (rows.length : ℤ) ≤ shift

/-! ## The chain -/

/-- `CleanResult`, without the audit log. -/
structure CleanResult where
  panel : List PanelRow
  daily : List DailyRow
  episodes : List Episode
  excluded : List ExcludedLine
  deriving DecidableEq, Repr

variable (py : Py) (source : AvailabilitySource)

/-- The steps 10 to 15 on a filled frame. -/
def correctPanel (daily : List DailyRow) (filled : List PanelRow) : List PanelRow :=
  let promos := perSeries (promoRetro config) (sortRows filled)
  let (weeks, episodes) := source.inStockDays daily config
  let covered := promos.map fun r =>
    minCoverage config (correctAvailability config (withAvailability weeks episodes r))
  perSeries (winsorize config) (sortRows covered)

/-- `run_chain`: nothing when a step throws. -/
def runChain (frame : TxFrame) (skuMapping : List (String × String))
    (bundleMap : List (String × List (String × ℚ))) : Option CleanResult := do
  let tx ← runTxSteps py config frame skuMapping bundleMap
  let daily := dailySpine tx.lines
  let filled := fillZeroWeeks (aggregateWeekly tx.lines)
  -- a window of less than a week is refused
  if filled ≠ [] ∧ config.baseline.windowWeeks < 1 then none
  else
    let capped := sortRows (correctPanel config source daily filled)
    if (capped.map PanelRow.series).eraseDups.any fun series =>
        levelShiftThrows config (capped.filter fun r => r.series = series) then none
    else
      return {
        panel := sortRows (perSeries (levelShift config) capped)
        daily
        episodes := (source.inStockDays daily config).2
        excluded := tx.excluded }

end Code

end Restock.Audit
