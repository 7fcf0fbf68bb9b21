import Mathlib.Algebra.BigOperators.Ring.List
import Mathlib.Data.List.ReduceOption
import Restock.Audit.StockPosition
import Restock.Forecast.Clock

/-!
# Lost sales

`findings/lost_sales.py` values the stockouts that are likely enough. It does so along three ways:
by SKU, by the months that the days of an episode fall into, and in total. What is missing is
handled along each way on its own: a SKU without a price counts units only, one without a baseline
nothing, and a low-tier episode neither. The upper ends of the months and of the totals, but not
those of the SKUs, carry an allowance for what cannot be assessed.

* `notAssessableValueShare` — the allowance;
* `MoneyRow`, `mergedRows` — an episode with its rate and its price;
* `skuRow`, `monthShares`, `monthRow` — the two tables;
* `lostSales` — the code;
* `Reconciles`, `lostSales_reconciles` — the tables and the totals tell the same.
-/

namespace Restock.Audit

open Forecast (isoMonth)

/-- A row of an episode table. -/
structure EpisodeRow where
  series : SeriesKey
  /-- Nanoseconds since 1970-01-01. -/
  startDate : ℤ
  endDate : ℤ
  days : ℤ
  confidence : String
  deriving DecidableEq, Repr

/-- `_MONEY_TIERS`. -/
def moneyTiers : List String := ["high", "medium"]

/-- An episode with the rate of its baseline and the price of its series. -/
structure MoneyRow extends EpisodeRow where
  baselineDaily : ℚ
  /-- Nothing for NaN. -/
  price : Option ℚ
  deriving DecidableEq, Repr

/-- A row of `by_sku`. -/
structure BySkuRow where
  series : SeriesKey
  stockoutDays : ℤ
  episodes : ℕ
  lostUnitsLow : ℚ
  lostUnitsHigh : ℚ
  lostRevenueLow : Option ℚ
  lostRevenueHigh : Option ℚ
  confidence : String
  deriving DecidableEq, Repr

/-- What an episode adds to a month. -/
structure MonthShare where
  month : String
  uLow : ℚ
  uHm : ℚ
  rLow : Option ℚ
  rHm : Option ℚ
  deriving DecidableEq, Repr

/-- A row of `by_month`. -/
structure ByMonthRow where
  month : String
  lostUnitsLow : ℚ
  lostUnitsHigh : ℚ
  lostRevenueLow : ℚ
  lostRevenueHigh : ℚ
  deriving DecidableEq, Repr

/-- `total`. -/
structure LostTotal where
  unitsLow : ℚ
  unitsHigh : ℚ
  revenueLow : ℚ
  revenueHigh : ℚ
  notAssessableValueShare : ℚ
  episodes : ℕ
  lowConfidenceEpisodes : ℕ
  deriving DecidableEq, Repr

/-- What `lost_sales` returns. -/
structure LostSales where
  bySku : List BySkuRow
  byMonth : List ByMonthRow
  total : LostTotal
  deriving DecidableEq, Repr

/-! ## The code -/

/-- `_median_price`, of a series. -/
def medianPrice (panel : List PanelRow) (series : SeriesKey) : Option ℚ :=
  columnMedian ((panel.filter fun r => r.series = series).map PanelRow.priceMedian)

/-- `_trailing_52w`. -/
def trailing52w (panel : List PanelRow) : List PanelRow :=
  match (panel.map PanelRow.weekStart).max? with
  | none => []
  | some maxWeek => panel.filter fun r => maxWeek - 7 * 51 ≤ r.weekStart

/-- `rev`. -/
def weekRevenue (r : PanelRow) : ℚ :=
  (r.priceMedian.map (r.unitsRaw * ·)).getD 0

/-- The series is of the `na_keys`, or none of the `known` ones. -/
def isNotAssessable (minVel : ℚ) (baseline : List BaselineRow) (series : SeriesKey) : Bool :=
  let own := baseline.filter fun r => r.series = series
  own.any (fun r => r.baselineDaily.all (· < minVel)) || own.isEmpty

/-- `not_assessable_value_share`. -/
def notAssessableValueShare (config : Config) (baseline : List BaselineRow)
    (panel : List PanelRow) : ℚ :=
  let recent := trailing52w panel
  let rev := (panelSeries recent).map fun series =>
    (series, ((recent.filter fun r => r.series = series).map weekRevenue).sum)
  let total := (rev.map Prod.snd).sum
  if recent = [] then 0
  else if total ≤ 0 then 0
  else
    let naRev := ((rev.filter fun e =>
      isNotAssessable config.availability.minVelocityPerDay baseline e.1).map Prod.snd).sum
    naRev / total

/-- The rows of an episode after the two merges: one for each row of the baseline with its series,
and at least one. -/
def mergedRows (baseline : List BaselineRow) (panel : List PanelRow) (e : EpisodeRow) :
    List MoneyRow :=
  let rates := (baseline.filter fun r => r.series = e.series).map BaselineRow.baselineDaily
  (if rates = [] then [none] else rates).map fun rate =>
    { e with baselineDaily := rate.getD 0, price := medianPrice panel e.series }

/-- `lost_units_ep`. -/
def MoneyRow.lostUnits (r : MoneyRow) : ℚ :=
  r.baselineDaily * r.days

/-- `lost_units_ep_low`. -/
def MoneyRow.lostUnitsLow (r : MoneyRow) : ℚ :=
  if r.confidence = "high" then r.lostUnits else 0

/-- The row of a series in `by_sku`. -/
def skuRow (hm : List MoneyRow) (series : SeriesKey) : BySkuRow :=
  let own := hm.filter fun r => r.series = series
  let price := own.findSome? MoneyRow.price
  let unitsLow := (own.map MoneyRow.lostUnitsLow).sum
  let unitsHigh := (own.map MoneyRow.lostUnits).sum
  { series
    stockoutDays := (own.map fun r => r.days).sum
    episodes := own.length
    lostUnitsLow := unitsLow
    lostUnitsHigh := unitsHigh
    lostRevenueLow := price.map (unitsLow * ·)
    lostRevenueHigh := price.map (unitsHigh * ·)
    confidence := if own.any fun r => r.confidence = "high" then "high" else "medium" }

/-- `by_sku`. The order of equal values is that of the series. -/
def bySku (hm : List MoneyRow) : List BySkuRow :=
  let series := (hm.map fun r => r.series).eraseDups.insertionSort seriesLe
  (series.map (skuRow hm)).insertionSort fun a b =>
    valueLe a.lostRevenueHigh b.lostRevenueHigh = true

/-- A day in nanoseconds. -/
def NS_PER_DAY : ℤ := 86400000000000

/-- `pd.date_range` by days; empty when the end is before the start. -/
def dateRange (start stop : ℤ) : List ℤ :=
  (List.range ((stop - start) / NS_PER_DAY + 1).toNat).map fun k : ℕ => start + k * NS_PER_DAY

/-- The months of the days of a span, with how many there are of each. -/
def monthCounts (span : List ℤ) : List (String × ℕ) :=
  let months := span.map fun instant => isoMonth (instant / 1000000)
  (months.eraseDups.map fun month => (month, months.count month)).insertionSort
    fun a b => b.2 ≤ a.2

/-- What an episode adds to the months that it spans: the recorded days are spread evenly. -/
def monthShares (r : MoneyRow) : List MonthShare :=
  let span := dateRange r.startDate r.endDate
  let factor : ℚ := r.days / span.length
  (monthCounts span).map fun (month, n) =>
    let units := r.baselineDaily * n * factor
    let rev := r.price.map (units * ·)
    { month
      uLow := if r.confidence = "high" then units else 0
      uHm := units
      rLow := if r.confidence = "high" then rev else some 0
      rHm := rev }

/-- The row of a month in `by_month`. -/
def monthRow (share : ℚ) (rows : List MonthShare) (month : String) : ByMonthRow :=
  let own := rows.filter fun r => r.month = month
  { month
    lostUnitsLow := (own.map MonthShare.uLow).sum
    lostUnitsHigh := (own.map MonthShare.uHm).sum * (1 + share)
    lostRevenueLow := columnSum (own.map MonthShare.rLow)
    lostRevenueHigh := columnSum (own.map MonthShare.rHm) * (1 + share) }

/-- `by_month`. -/
def byMonth (share : ℚ) (rows : List MonthShare) : List ByMonthRow :=
  ((rows.map MonthShare.month).eraseDups.insertionSort (· ≤ ·)).map (monthRow share rows)

/-- `lost_sales`; nothing when it throws, for a frame without months has no column to group by. -/
def lostSales (py : Py) (config : Config) (episodes : Option (List EpisodeRow))
    (baseline : List BaselineRow) (panel : List PanelRow) : Option LostSales :=
  let eps := (episodes.getD []).map fun e => { e with confidence := py.lower e.confidence }
  let share := notAssessableValueShare config baseline panel
  let nLow := eps.countP fun e => e.confidence = "low"
  let hm := eps.filter fun e => e.confidence ∈ moneyTiers
  if hm = [] then
    some
      { bySku := []
        byMonth := []
        total :=
          { unitsLow := 0, unitsHigh := 0, revenueLow := 0, revenueHigh := 0
            notAssessableValueShare := share, episodes := 0, lowConfidenceEpisodes := nLow } }
  else
    let hm := hm.flatMap (mergedRows baseline panel)
    let skus := bySku hm
    let rows := hm.flatMap monthShares
    if rows = [] then none
    else
      some
        { bySku := skus
          byMonth := byMonth share rows
          total :=
            { unitsLow := (skus.map BySkuRow.lostUnitsLow).sum
              unitsHigh := (skus.map BySkuRow.lostUnitsHigh).sum * (1 + share)
              revenueLow := columnSum (skus.map BySkuRow.lostRevenueLow)
              revenueHigh := columnSum (skus.map BySkuRow.lostRevenueHigh) * (1 + share)
              notAssessableValueShare := share
              episodes := hm.length
              lowConfidenceEpisodes := nLow } }

/-- What the tables and the totals are to tell: a share of the value, a band in every row, and the
same sums along every way. -/
structure Reconciles (result : LostSales) : Prop where
  share : 0 ≤ result.total.notAssessableValueShare ∧ result.total.notAssessableValueShare ≤ 1
  sku_units : ∀ row ∈ result.bySku, row.lostUnitsLow ≤ row.lostUnitsHigh
  sku_revenue : ∀ row ∈ result.bySku, ∀ low ∈ row.lostRevenueLow, ∀ high ∈ row.lostRevenueHigh,
    low ≤ high
  month_units : ∀ row ∈ result.byMonth, row.lostUnitsLow ≤ row.lostUnitsHigh
  month_revenue : ∀ row ∈ result.byMonth, row.lostRevenueLow ≤ row.lostRevenueHigh
  total_units : result.total.unitsLow ≤ result.total.unitsHigh
  total_revenue : result.total.revenueLow ≤ result.total.revenueHigh
  months_unitsLow : (result.byMonth.map ByMonthRow.lostUnitsLow).sum = result.total.unitsLow
  months_unitsHigh : (result.byMonth.map ByMonthRow.lostUnitsHigh).sum = result.total.unitsHigh
  months_revenueLow : (result.byMonth.map ByMonthRow.lostRevenueLow).sum = result.total.revenueLow
  months_revenueHigh :
    (result.byMonth.map ByMonthRow.lostRevenueHigh).sum = result.total.revenueHigh
  skus_unitsLow : result.total.unitsLow = (result.bySku.map BySkuRow.lostUnitsLow).sum
  skus_unitsHigh : result.total.unitsHigh = (1 + result.total.notAssessableValueShare) *
    (result.bySku.map BySkuRow.lostUnitsHigh).sum
  skus_revenueLow : result.total.revenueLow =
    columnSum (result.bySku.map BySkuRow.lostRevenueLow)
  skus_revenueHigh : result.total.revenueHigh = (1 + result.total.notAssessableValueShare) *
    columnSum (result.bySku.map BySkuRow.lostRevenueHigh)

/-! ## Sums of columns -/

/-- What is absent adds nothing to a column. -/
theorem columnSum_eq_sum_getD (values : List (Option ℚ)) :
    columnSum values = (values.map fun v => v.getD 0).sum := by
  induction values with
  | nil => rfl
  | cons v values ih =>
      rw [columnSum] at ih ⊢
      cases v with
      | none =>
          rw [List.reduceOption_cons_of_none, ih, List.map_cons, List.sum_cons, Option.getD_none,
            zero_add]
      | some v =>
          rw [List.reduceOption_cons_of_some, List.sum_cons, ih, List.map_cons, List.sum_cons,
            Option.getD_some]

/-- A value without a price counts for nothing. -/
theorem getD_map_mul (price : Option ℚ) (units : ℚ) :
    (price.map (units * ·)).getD 0 = units * price.getD 0 := by
  cases price with
  | none => exact (mul_zero units).symm
  | some price => rfl

section Skus

variable {hm : List MoneyRow}

/-- `by_sku` falls into the rows of its series. -/
theorem sum_bySku (g : BySkuRow → ℚ) (u : MoneyRow → ℚ)
    (h : ∀ series, g (skuRow hm series) =
      ((hm.filter fun r => r.series = series).map u).sum) :
    ((bySku hm).map g).sum = (hm.map u).sum := by
  have hnodup : ((hm.map fun r => r.series).eraseDups.insertionSort seriesLe).Nodup :=
    (List.perm_insertionSort _ _).nodup_iff.mpr (Series.nodup_eraseDups _)
  rw [bySku, ((List.perm_insertionSort _ _).map g).sum_eq, List.map_map,
    ← Series.sum_parts (fun r : MoneyRow => r.series) u hnodup]
  · exact congrArg List.sum (List.map_congr_left fun series _ => h series)
  · intro r hr
    rw [List.mem_insertionSort, List.mem_eraseDups]
    exact List.mem_map_of_mem hr

/-- The first price of rows that have the same one. -/
theorem findSome?_price {own : List MoneyRow} {price : Option ℚ} (hne : own ≠ [])
    (hprice : ∀ r ∈ own, r.price = price) : own.findSome? MoneyRow.price = price := by
  induction own with
  | nil => exact absurd rfl hne
  | cons r own ih =>
      have hhead := hprice r List.mem_cons_self
      cases hp : price with
      | some p => rw [List.findSome?_cons, hhead, hp]
      | none =>
          rw [List.findSome?_cons, hhead, hp]
          rcases eq_or_ne own [] with rfl | hown
          · rfl
          · exact (ih hown fun r hr => hprice r (List.mem_cons_of_mem _ hr)).trans hp

/-- The revenue of a SKU is that of its episodes, when they have one price. -/
theorem revenue_eq_sum {own : List MoneyRow} {price : Option ℚ}
    (hprice : ∀ r ∈ own, r.price = price) (u : MoneyRow → ℚ) :
    ((own.findSome? MoneyRow.price).map ((own.map u).sum * ·)).getD 0 =
      (own.map fun r => u r * r.price.getD 0).sum := by
  rcases eq_or_ne own [] with rfl | hne
  · rfl
  · rw [getD_map_mul, findSome?_price hne hprice, ← List.sum_map_mul_right]
    exact congrArg List.sum (List.map_congr_left fun r hr => by rw [hprice r hr])

end Skus

section Months

/-- `by_month` falls into the rows of its months. -/
theorem sum_byMonth {share : ℚ} {rows : List MonthShare} (g : ByMonthRow → ℚ) (u : MonthShare → ℚ)
    (h : ∀ month, g (monthRow share rows month) =
      ((rows.filter fun r => r.month = month).map u).sum) :
    ((byMonth share rows).map g).sum = (rows.map u).sum := by
  have hnodup : ((rows.map MonthShare.month).eraseDups.insertionSort (· ≤ ·)).Nodup :=
    (List.perm_insertionSort _ _).nodup_iff.mpr (Series.nodup_eraseDups _)
  rw [byMonth, List.map_map, ← Series.sum_parts MonthShare.month u hnodup]
  · exact congrArg List.sum (List.map_congr_left fun month _ => h month)
  · intro r hr
    rw [List.mem_insertionSort, List.mem_eraseDups]
    exact List.mem_map_of_mem hr

/-- Every day of a span is in one month. -/
theorem sum_monthCounts (span : List ℤ) :
    ((monthCounts span).map fun e => (e.2 : ℚ)).sum = span.length := by
  rw [monthCounts]
  set months := span.map fun instant => isoMonth (instant / 1000000) with hmonths
  rw [((List.perm_insertionSort _ _).map _).sum_eq, List.map_map]
  have hparts := Series.sum_parts id (fun _ => (1 : ℚ)) (Series.nodup_eraseDups months)
    fun month hmonth => List.mem_eraseDups.mpr hmonth
  have hlength : (months.map fun _ => (1 : ℚ)).sum = span.length := by
    rw [List.map_const', List.sum_replicate, nsmul_one, hmonths, List.length_map]
  rw [← hlength, ← hparts]
  refine congrArg List.sum (List.map_congr_left fun month _ => ?_)
  rw [List.map_const', List.sum_replicate, nsmul_one, Function.comp_apply,
    List.count_eq_length_filter]
  rfl

/-- An episode that ends no earlier than it starts has a day. -/
theorem dateRange_ne_nil {start stop : ℤ} (h : start ≤ stop) : dateRange start stop ≠ [] := by
  have hpos : 0 ≤ (stop - start) / NS_PER_DAY :=
    Int.ediv_nonneg (sub_nonneg.mpr h) (by decide)
  rw [dateRange, Ne, List.map_eq_nil_iff, List.range_eq_nil]
  omega

/-- The shares of an episode's months are its recorded days. -/
theorem sum_shares {r : MoneyRow} (h : r.startDate ≤ r.endDate) (c : ℚ) :
    ((monthCounts (dateRange r.startDate r.endDate)).map fun e => c * e.2 *
      (r.days / (dateRange r.startDate r.endDate).length)).sum = c * r.days := by
  have hlength : ((dateRange r.startDate r.endDate).length : ℚ) ≠ 0 :=
    Nat.cast_ne_zero.mpr (mt List.length_eq_zero_iff.mp (dateRange_ne_nil h))
  rw [List.sum_map_mul_right, List.sum_map_mul_left, sum_monthCounts]
  field_simp

variable {r : MoneyRow}

/-- The units of an episode are those of its months. -/
theorem sum_uHm (h : r.startDate ≤ r.endDate) :
    ((monthShares r).map MonthShare.uHm).sum = r.lostUnits := by
  rw [monthShares, List.map_map]
  exact sum_shares h r.baselineDaily

theorem sum_uLow (h : r.startDate ≤ r.endDate) :
    ((monthShares r).map MonthShare.uLow).sum = r.lostUnitsLow := by
  rw [MoneyRow.lostUnitsLow, ← sum_uHm h, monthShares, List.map_map, List.map_map]
  split
  case isTrue =>
      exact congrArg List.sum (List.map_congr_left fun e _ => rfl)
  case isFalse =>
      refine List.sum_eq_zero fun x hx => ?_
      obtain ⟨e, -, rfl⟩ := List.mem_map.mp hx
      rfl

/-- The revenue of a month is that of its units. -/
theorem revenue_of_mem {m : MonthShare} (h : m ∈ monthShares r) :
    m.rHm.getD 0 = m.uHm * r.price.getD 0 ∧ m.rLow.getD 0 = m.uLow * r.price.getD 0 := by
  rw [monthShares] at h
  obtain ⟨e, -, rfl⟩ := List.mem_map.mp h
  dsimp only
  refine ⟨getD_map_mul _ _, ?_⟩
  split
  · exact getD_map_mul _ _
  · rw [Option.getD_some, zero_mul]

/-- The revenue of an episode is that of its months. -/
theorem sum_revenue (u : MonthShare → ℚ) (v : MonthShare → Option ℚ)
    (h : ∀ m ∈ monthShares r, (v m).getD 0 = u m * r.price.getD 0) :
    ((monthShares r).map fun m => (v m).getD 0).sum =
      ((monthShares r).map u).sum * r.price.getD 0 := by
  rw [← List.sum_map_mul_right]
  exact congrArg List.sum (List.map_congr_left h)

end Months

/-! ## What is never negative -/

section Signs

variable {baseline : List BaselineRow} {panel : List PanelRow}

/-- A panel without negative units or prices. -/
def PanelNonneg (panel : List PanelRow) : Prop :=
  ∀ r ∈ panel, 0 ≤ r.unitsRaw ∧ ∀ price ∈ r.priceMedian, 0 ≤ price

theorem medianPrice_nonneg (h : PanelNonneg panel) (series : SeriesKey) :
    0 ≤ (medianPrice panel series).getD 0 := by
  rw [medianPrice, columnMedian]
  split
  · exact le_refl 0
  · refine Series.median_nonneg fun price hprice => ?_
    obtain ⟨r, hr, heq⟩ := List.mem_map.mp (List.reduceOption_mem_iff.mp hprice)
    exact (h r (List.mem_filter.mp hr).1).2 price heq

theorem weekRevenue_nonneg (h : PanelNonneg panel) {r : PanelRow} (hr : r ∈ panel) :
    0 ≤ weekRevenue r := by
  obtain ⟨hunits, hprice⟩ := h r hr
  rw [weekRevenue, getD_map_mul]
  cases hp : r.priceMedian with
  | none => exact (mul_zero r.unitsRaw).ge
  | some price => exact mul_nonneg hunits (hprice price hp)

/-- The rows of the last year are rows of the panel. -/
theorem mem_of_mem_trailing52w {r : PanelRow} (h : r ∈ trailing52w panel) : r ∈ panel := by
  rw [trailing52w] at h
  split at h
  · cases h
  · exact (List.mem_filter.mp h).1

/-- The share is a share: some of the revenues are no more than all. -/
theorem notAssessableValueShare_mem (config : Config) (baseline : List BaselineRow)
    (h : PanelNonneg panel) :
    0 ≤ notAssessableValueShare config baseline panel ∧
      notAssessableValueShare config baseline panel ≤ 1 := by
  dsimp only [notAssessableValueShare]
  set rev := (panelSeries (trailing52w panel)).map fun series =>
    (series, (((trailing52w panel).filter fun r => r.series = series).map weekRevenue).sum)
    with hrev
  split
  case isTrue => exact ⟨le_refl 0, zero_le_one⟩
  case isFalse =>
      split
      case isTrue => exact ⟨le_refl 0, zero_le_one⟩
      case isFalse htotal =>
          have hpos : 0 < (rev.map Prod.snd).sum := not_le.mp htotal
          have hnonneg : ∀ v ∈ rev.map Prod.snd, 0 ≤ v := by
            intro v hv
            obtain ⟨e, he, rfl⟩ := List.mem_map.mp hv
            obtain ⟨series, -, rfl⟩ := List.mem_map.mp he
            refine List.sum_nonneg fun v hv => ?_
            obtain ⟨r, hr, rfl⟩ := List.mem_map.mp hv
            exact weekRevenue_nonneg h (mem_of_mem_trailing52w (List.mem_filter.mp hr).1)
          have hsub := (List.filter_sublist (p := fun e : SeriesKey × ℚ =>
            isNotAssessable config.availability.minVelocityPerDay baseline e.1)
              (l := rev)).map Prod.snd
          constructor
          · exact div_nonneg (List.sum_nonneg fun v hv => hnonneg v (hsub.subset hv)) hpos.le
          · exact (div_le_one hpos).mpr (hsub.sum_le_sum hnonneg)

/-- An episode that ends no earlier than it starts, with a rate and days that are not negative, at
the price of its series. -/
structure MoneyRow.Sound (panel : List PanelRow) (r : MoneyRow) : Prop where
  span : r.startDate ≤ r.endDate
  days : 0 ≤ r.days
  rate : 0 ≤ r.baselineDaily
  price : r.price = medianPrice panel r.series

/-- Episodes keep their dates through the merges, and there is at least one row of each. -/
theorem sound_of_mem_mergedRows {e : EpisodeRow} {r : MoneyRow}
    (hrates : ∀ r ∈ baseline, ∀ rate ∈ r.baselineDaily, 0 ≤ rate)
    (he : e.startDate ≤ e.endDate ∧ 0 ≤ e.days) (h : r ∈ mergedRows baseline panel e) :
    r.Sound panel := by
  dsimp only [mergedRows] at h
  obtain ⟨rate, hrate, rfl⟩ := List.mem_map.mp h
  refine ⟨he.1, he.2, ?_, rfl⟩
  dsimp only
  cases rate with
  | none => exact le_refl 0
  | some rate =>
      split at hrate
      · cases List.mem_singleton.mp hrate
      · obtain ⟨row, hrow, heq⟩ := List.mem_map.mp hrate
        exact hrates row (List.mem_filter.mp hrow).1 rate heq

theorem mergedRows_ne_nil (baseline : List BaselineRow) (panel : List PanelRow) (e : EpisodeRow) :
    mergedRows baseline panel e ≠ [] := by
  dsimp only [mergedRows]
  split
  · exact List.cons_ne_nil _ _
  case isFalse h => exact fun hnil => h (List.map_eq_nil_iff.mp hnil)

variable {r : MoneyRow}

theorem MoneyRow.Sound.lostUnits_nonneg (h : r.Sound panel) : 0 ≤ r.lostUnits :=
  mul_nonneg h.rate (Int.cast_nonneg h.days)

theorem MoneyRow.Sound.lostUnitsLow_le (h : r.Sound panel) : r.lostUnitsLow ≤ r.lostUnits := by
  rw [MoneyRow.lostUnitsLow]
  split
  · exact le_refl _
  · exact h.lostUnits_nonneg

theorem MoneyRow.Sound.price_nonneg (h : r.Sound panel) (hpanel : PanelNonneg panel) :
    0 ≤ r.price.getD 0 := by
  rw [h.price]
  exact medianPrice_nonneg hpanel r.series

/-- What an episode adds to a month is a band. -/
theorem MoneyRow.Sound.month_band (h : r.Sound panel) {m : MonthShare} (hm : m ∈ monthShares r) :
    0 ≤ m.uHm ∧ m.uLow ≤ m.uHm := by
  rw [monthShares] at hm
  obtain ⟨e, -, rfl⟩ := List.mem_map.mp hm
  dsimp only
  have hunits : 0 ≤ r.baselineDaily * e.2 *
      (r.days / (dateRange r.startDate r.endDate).length) :=
    mul_nonneg (mul_nonneg h.rate (Nat.cast_nonneg _))
      (div_nonneg (Int.cast_nonneg h.days) (Nat.cast_nonneg _))
  refine ⟨hunits, ?_⟩
  split
  · exact le_refl _
  · exact hunits

/-- An episode that ends no earlier than it starts adds to a month. -/
theorem MoneyRow.Sound.monthShares_ne_nil (h : r.Sound panel) : monthShares r ≠ [] := by
  dsimp only [monthShares]
  rw [Ne, List.map_eq_nil_iff, monthCounts]
  intro hnil
  have hlength := congrArg List.length hnil
  rw [List.length_insertionSort, List.length_map, List.length_nil,
    List.length_eq_zero_iff] at hlength
  obtain ⟨instant, hinstant⟩ := List.exists_mem_of_ne_nil _ (dateRange_ne_nil h.span)
  exact List.not_mem_nil (hlength ▸ List.mem_eraseDups.mpr (List.mem_map_of_mem hinstant))

end Signs

/-! ## The three ways -/

section Reconcile

variable {panel : List PanelRow} {hm : List MoneyRow}

/-- Bands add up to a band. -/
theorem sum_band {α : Type} {xs : List α} {low high : α → ℚ}
    (h : ∀ x ∈ xs, 0 ≤ high x ∧ low x ≤ high x) :
    0 ≤ (xs.map high).sum ∧ (xs.map low).sum ≤ (xs.map high).sum := by
  refine ⟨List.sum_nonneg fun v hv => ?_, List.sum_le_sum fun x hx => (h x hx).2⟩
  obtain ⟨x, hx, rfl⟩ := List.mem_map.mp hv
  exact (h x hx).1

/-- A band with an allowance is a band. -/
theorem le_mul_share {low high share : ℚ} (h : 0 ≤ high ∧ low ≤ high) (hshare : 0 ≤ share) :
    low ≤ high * (1 + share) :=
  h.2.trans (le_mul_of_one_le_right h.1 (le_add_of_nonneg_right hshare))

/-- The revenues of `by_sku` are those of the episodes. -/
theorem columnSum_bySku (hsound : ∀ r ∈ hm, r.Sound panel) (v : BySkuRow → Option ℚ)
    (u : MoneyRow → ℚ)
    (h : ∀ series, v (skuRow hm series) =
      ((hm.filter fun r => r.series = series).findSome? MoneyRow.price).map
        (((hm.filter fun r => r.series = series).map u).sum * ·)) :
    columnSum ((bySku hm).map v) = (hm.map fun r => u r * r.price.getD 0).sum := by
  rw [columnSum_eq_sum_getD, List.map_map]
  refine sum_bySku _ _ fun series => ?_
  rw [Function.comp_apply, h]
  have hprice : ∀ r ∈ hm.filter fun r => r.series = series,
      r.price = medianPrice panel series := by
    intro r hr
    obtain ⟨hr, hseries⟩ := List.mem_filter.mp hr
    rw [(hsound r hr).price, of_decide_eq_true hseries]
  exact revenue_eq_sum hprice u

/-- What the episodes add to the months, episode by episode. -/
theorem sum_monthShares (u : MonthShare → ℚ) (v : MoneyRow → ℚ)
    (h : ∀ r ∈ hm, ((monthShares r).map u).sum = v r) :
    ((hm.flatMap monthShares).map u).sum = (hm.map v).sum := by
  rw [List.map_flatMap, List.flatMap_def, List.sum_flatten, List.map_map]
  exact congrArg List.sum (List.map_congr_left h)

/-- The band of the units of a SKU. -/
theorem skuRow_units (hsound : ∀ r ∈ hm, r.Sound panel) (series : SeriesKey) :
    0 ≤ (skuRow hm series).lostUnitsHigh ∧
      (skuRow hm series).lostUnitsLow ≤ (skuRow hm series).lostUnitsHigh :=
  sum_band fun r hr =>
    have hr := hsound r (List.mem_filter.mp hr).1
    ⟨hr.lostUnits_nonneg, hr.lostUnitsLow_le⟩

/-- The band of the revenue of a SKU, if it has a price. -/
theorem skuRow_revenue (hsound : ∀ r ∈ hm, r.Sound panel) (hpanel : PanelNonneg panel)
    (series : SeriesKey) : ∀ low ∈ (skuRow hm series).lostRevenueLow,
      ∀ high ∈ (skuRow hm series).lostRevenueHigh, low ≤ high := by
  intro low hlow high hhigh
  have hunits := (skuRow_units hsound series).2
  dsimp only [skuRow] at hlow hhigh hunits
  obtain ⟨price, hprice, rfl⟩ := Option.map_eq_some_iff.mp hlow
  obtain ⟨price', hprice', rfl⟩ := Option.map_eq_some_iff.mp hhigh
  cases Option.some.inj (hprice.symm.trans hprice')
  obtain ⟨r, hr, hfound⟩ := List.exists_of_findSome?_eq_some hprice
  have hnonneg := (hsound r (List.mem_filter.mp hr).1).price_nonneg hpanel
  rw [hfound, Option.getD_some] at hnonneg
  exact mul_le_mul_of_nonneg_right hunits hnonneg

/-- The bands of a month. -/
theorem monthRow_bands (hsound : ∀ r ∈ hm, r.Sound panel) (hpanel : PanelNonneg panel) {share : ℚ}
    (hshare : 0 ≤ share) (month : String) :
    (monthRow share (hm.flatMap monthShares) month).lostUnitsLow ≤
        (monthRow share (hm.flatMap monthShares) month).lostUnitsHigh ∧
      (monthRow share (hm.flatMap monthShares) month).lostRevenueLow ≤
        (monthRow share (hm.flatMap monthShares) month).lostRevenueHigh := by
  dsimp only [monthRow]
  have hmem : ∀ m ∈ (hm.flatMap monthShares).filter fun m => m.month = month,
      ∃ r, r.Sound panel ∧ m ∈ monthShares r := by
    intro m hm
    obtain ⟨r, hr, hmr⟩ := List.mem_flatMap.mp (List.mem_filter.mp hm).1
    exact ⟨r, hsound r hr, hmr⟩
  constructor
  · refine le_mul_share (sum_band fun m hm => ?_) hshare
    obtain ⟨r, hr, hmr⟩ := hmem m hm
    exact hr.month_band hmr
  · rw [columnSum_eq_sum_getD, columnSum_eq_sum_getD, List.map_map, List.map_map]
    refine le_mul_share (sum_band fun m hm => ?_) hshare
    obtain ⟨r, hr, hmr⟩ := hmem m hm
    obtain ⟨hunits, hband⟩ := hr.month_band hmr
    obtain ⟨hhigh, hlow⟩ := revenue_of_mem hmr
    have hprice := hr.price_nonneg hpanel
    rw [Function.comp_apply, Function.comp_apply, hhigh, hlow]
    exact ⟨mul_nonneg hunits hprice, mul_le_mul_of_nonneg_right hband hprice⟩

/-- The columns of `by_month` are those of the episodes. -/
theorem sum_columns_byMonth (hsound : ∀ r ∈ hm, r.Sound panel) (share : ℚ) :
    ((byMonth share (hm.flatMap monthShares)).map ByMonthRow.lostUnitsLow).sum =
        (hm.map MoneyRow.lostUnitsLow).sum ∧
      ((byMonth share (hm.flatMap monthShares)).map ByMonthRow.lostUnitsHigh).sum =
        (hm.map MoneyRow.lostUnits).sum * (1 + share) ∧
      ((byMonth share (hm.flatMap monthShares)).map ByMonthRow.lostRevenueLow).sum =
        (hm.map fun r => r.lostUnitsLow * r.price.getD 0).sum ∧
      ((byMonth share (hm.flatMap monthShares)).map ByMonthRow.lostRevenueHigh).sum =
        (hm.map fun r => r.lostUnits * r.price.getD 0).sum * (1 + share) := by
  refine ⟨?_, ?_, ?_, ?_⟩
  · rw [sum_byMonth _ MonthShare.uLow fun _ => rfl]
    exact sum_monthShares _ _ fun r hr => sum_uLow (hsound r hr).span
  · rw [sum_byMonth _ (fun m => m.uHm * (1 + share)) fun month => ?_, List.sum_map_mul_right]
    · rw [sum_monthShares _ _ fun r hr => sum_uHm (hsound r hr).span]
    · rw [List.sum_map_mul_right]
      rfl
  · rw [sum_byMonth _ (fun m => m.rLow.getD 0) fun month => ?_]
    · refine sum_monthShares _ _ fun r hr => ?_
      rw [sum_revenue MonthShare.uLow MonthShare.rLow fun m hm => (revenue_of_mem hm).2,
        sum_uLow (hsound r hr).span]
    · dsimp only [monthRow]
      rw [columnSum_eq_sum_getD, List.map_map]
      rfl
  · rw [sum_byMonth _ (fun m => m.rHm.getD 0 * (1 + share)) fun month => ?_,
      List.sum_map_mul_right]
    · refine congrArg (· * (1 + share)) (sum_monthShares _ _ fun r hr => ?_)
      rw [sum_revenue MonthShare.uHm MonthShare.rHm fun m hm => (revenue_of_mem hm).1,
        sum_uHm (hsound r hr).span]
    · dsimp only [monthRow]
      rw [List.sum_map_mul_right, columnSum_eq_sum_getD, List.map_map]
      rfl

end Reconcile

section Code

variable {py : Py} {config : Config} {episodes : Option (List EpisodeRow)}
  {baseline : List BaselineRow} {panel : List PanelRow}

/-- **The figures of lost sales reconcile.** For every episode table whose episodes end no earlier
than they start and last no less than zero days, every baseline without negative rates and every
panel without negative units or prices, the share is a share, every row and total is a band, the
columns of the months sum to the totals, and so do those of the SKUs, with the allowance at the
upper end, whatever SKUs lack a price or a baseline. -/
theorem lostSales_reconciles
    (hepisodes : ∀ e ∈ episodes.getD [], e.startDate ≤ e.endDate ∧ 0 ≤ e.days)
    (hrates : ∀ r ∈ baseline, ∀ rate ∈ r.baselineDaily, 0 ≤ rate)
    (hpanel : PanelNonneg panel) :
    ∃ result, lostSales py config episodes baseline panel = some result ∧ Reconciles result := by
  dsimp only [lostSales]
  set eps := ((episodes.getD []).map fun e => { e with confidence := py.lower e.confidence }).filter
    fun e => e.confidence ∈ moneyTiers with heps
  have hshare := notAssessableValueShare_mem config baseline hpanel
  set share := notAssessableValueShare config baseline panel
  by_cases hnil : eps = []
  · rw [if_pos hnil]
    refine ⟨_, rfl, ?_⟩
    constructor <;> simp [columnSum, hshare]
  · rw [if_neg hnil]
    set hm := eps.flatMap (mergedRows baseline panel) with hhm
    have hsound : ∀ r ∈ hm, r.Sound panel := by
      intro r hr
      obtain ⟨e, he, hr⟩ := List.mem_flatMap.mp hr
      obtain ⟨e', he', rfl⟩ := List.mem_map.mp (List.mem_filter.mp he).1
      exact sound_of_mem_mergedRows (e := { e' with confidence := py.lower e'.confidence }) hrates
        (hepisodes e' he') hr
    have hrows : hm.flatMap monthShares ≠ [] := by
      obtain ⟨e, he⟩ := List.exists_mem_of_ne_nil _ hnil
      obtain ⟨r, hr⟩ := List.exists_mem_of_ne_nil _ (mergedRows_ne_nil baseline panel e)
      have hr : r ∈ hm := List.mem_flatMap.mpr ⟨e, he, hr⟩
      obtain ⟨m, hmr⟩ := List.exists_mem_of_ne_nil _ (hsound r hr).monthShares_ne_nil
      exact List.ne_nil_of_mem (List.mem_flatMap.mpr ⟨r, hr, hmr⟩)
    rw [if_neg hrows]
    refine ⟨_, rfl, ?_⟩
    -- all three ways come to the sums over the episodes
    have hunitsLow : ((bySku hm).map BySkuRow.lostUnitsLow).sum =
        (hm.map MoneyRow.lostUnitsLow).sum := sum_bySku _ _ fun _ => rfl
    have hunitsHigh : ((bySku hm).map BySkuRow.lostUnitsHigh).sum =
        (hm.map MoneyRow.lostUnits).sum := sum_bySku _ _ fun _ => rfl
    have hrevenueLow := columnSum_bySku hsound BySkuRow.lostRevenueLow MoneyRow.lostUnitsLow
      fun _ => rfl
    have hrevenueHigh := columnSum_bySku hsound BySkuRow.lostRevenueHigh MoneyRow.lostUnits
      fun _ => rfl
    obtain ⟨hmonthsLow, hmonthsHigh, hmonthsRevLow, hmonthsRevHigh⟩ :=
      sum_columns_byMonth hsound share
    have hsku : ∀ row ∈ bySku hm, ∃ series, row = skuRow hm series := by
      intro row hrow
      rw [bySku, List.mem_insertionSort] at hrow
      obtain ⟨series, -, rfl⟩ := List.mem_map.mp hrow
      exact ⟨series, rfl⟩
    have hmonth : ∀ row ∈ byMonth share (hm.flatMap monthShares),
        ∃ month, row = monthRow share (hm.flatMap monthShares) month := by
      intro row hrow
      obtain ⟨month, -, rfl⟩ := List.mem_map.mp hrow
      exact ⟨month, rfl⟩
    constructor <;> dsimp only
    case share => exact hshare
    case sku_units =>
      intro row hrow
      obtain ⟨series, rfl⟩ := hsku row hrow
      exact (skuRow_units hsound series).2
    case sku_revenue =>
      intro row hrow
      obtain ⟨series, rfl⟩ := hsku row hrow
      exact skuRow_revenue hsound hpanel series
    case month_units =>
      intro row hrow
      obtain ⟨month, rfl⟩ := hmonth row hrow
      exact (monthRow_bands hsound hpanel hshare.1 month).1
    case month_revenue =>
      intro row hrow
      obtain ⟨month, rfl⟩ := hmonth row hrow
      exact (monthRow_bands hsound hpanel hshare.1 month).2
    case total_units =>
      rw [hunitsLow, hunitsHigh]
      exact le_mul_share (sum_band fun r hr =>
        ⟨(hsound r hr).lostUnits_nonneg, (hsound r hr).lostUnitsLow_le⟩) hshare.1
    case total_revenue =>
      rw [hrevenueLow, hrevenueHigh]
      refine le_mul_share (sum_band fun r hr => ?_) hshare.1
      have hprice := (hsound r hr).price_nonneg hpanel
      exact ⟨mul_nonneg (hsound r hr).lostUnits_nonneg hprice,
        mul_le_mul_of_nonneg_right (hsound r hr).lostUnitsLow_le hprice⟩
    case months_unitsLow => rw [hmonthsLow, hunitsLow]
    case months_unitsHigh => rw [hmonthsHigh, hunitsHigh]
    case months_revenueLow => rw [hmonthsRevLow, hrevenueLow]
    case months_revenueHigh => rw [hmonthsRevHigh, hrevenueHigh]
    case skus_unitsHigh => rw [mul_comm]
    case skus_revenueHigh => rw [mul_comm]

end Code

/-! ## Spans that end before they start -/

/-- An episode, from one hour to another. -/
private def outOfStock (sku : String) (start stop days : ℤ) (confidence : String) : EpisodeRow where
  series := { sku, location := "ALL" }
  startDate := start * 3600000000000
  endDate := stop * 3600000000000
  days
  confidence

/-- A row of a baseline. -/
private def rateOf (sku : String) (daily : ℚ) : BaselineRow where
  series := { sku, location := "ALL" }
  baselineWeekly := some (7 * daily)
  baselineDaily := some daily
  usableWeeks := 13
  method := .own
  confidence := .high

/-- A week of a panel. -/
private def pricedWeek (sku : String) (units price : ℚ) : PanelRow where
  series := { sku, location := "ALL" }
  weekStart := 4
  unitsRaw := units
  priceMedian := some price

/-- Two episodes over the end of a month, one of a SKU without a price or a baseline. -/
theorem lostSales_reconciles_twoMonths :
    ∃ result, lostSales .decimal {}
        (some [outOfStock "TEE" (24 * 29) (24 * 33) 5 "High", outOfStock "NEW" 0 30 2 "medium"])
        [rateOf "TEE" 2, rateOf "SLOW" (1 / 2)] [pricedWeek "TEE" 25 10, pricedWeek "SLOW" 5 10] =
      some result ∧ Reconciles result := by
  refine lostSales_reconciles ?_ ?_ ?_
  · intro e he
    simp only [Option.getD_some, List.mem_cons, List.not_mem_nil, or_false] at he
    rcases he with rfl | rfl <;> decide
  · intro r hr rate hrate
    simp only [List.mem_cons, List.not_mem_nil, or_false] at hr
    rcases hr with rfl | rfl <;> cases Option.mem_def.mp hrate <;> norm_num
  · intro r hr
    simp only [List.mem_cons, List.not_mem_nil, or_false] at hr
    rcases hr with rfl | rfl
    all_goals
      refine ⟨by norm_num [pricedWeek], fun price hprice => ?_⟩
      cases Option.mem_def.mp hprice
      norm_num

/-- Figures that fail a test do not reconcile, when all that do pass it. -/
private theorem exists_not_reconciles {figures : Option LostSales} (test : LostSales → Bool)
    (hfails : figures.map test = some false) (htest : ∀ result, Reconciles result → test result) :
    ∃ result, figures = some result ∧ ¬ Reconciles result := by
  obtain ⟨result, hresult, hfalse⟩ := Option.map_eq_some_iff.mp hfails
  exact ⟨result, hresult, fun h => Bool.noConfusion (hfalse.symm.trans (htest result h))⟩

/-- With an episode that ends before it starts, the months miss units of the total; with a number of
days below zero, the upper end is below the lower one; and with a week of units below zero, the
share is. -/
theorem lostSales_unsound :
    (∃ result, lostSales .decimal {}
        (some [outOfStock "TEE" 24 0 1 "high", outOfStock "TEE" 48 72 2 "high"])
        [rateOf "TEE" 2] [pricedWeek "TEE" 25 10] = some result ∧ ¬ Reconciles result) ∧
      (∃ result, lostSales .decimal {} (some [outOfStock "TEE" 0 24 (-2) "medium"])
        [rateOf "TEE" 2] [pricedWeek "TEE" 25 10] = some result ∧ ¬ Reconciles result) ∧
      ∃ result, lostSales .decimal {} (some [outOfStock "TEE" 0 24 2 "high"])
        [rateOf "TEE" 2] [pricedWeek "TEE" 25 10, pricedWeek "NEW" (-5) 10] = some result ∧
        ¬ Reconciles result := by
  refine ⟨?_, ?_, ?_⟩
  · refine exists_not_reconciles (fun result => decide
      ((result.byMonth.map ByMonthRow.lostUnitsLow).sum = result.total.unitsLow)) ?_
      fun _ h => decide_eq_true h.months_unitsLow
    decide +kernel
  · refine exists_not_reconciles (fun result => decide
      (result.total.unitsLow ≤ result.total.unitsHigh)) ?_ fun _ h => decide_eq_true h.total_units
    decide +kernel
  · refine exists_not_reconciles (fun result => decide
      (0 ≤ result.total.notAssessableValueShare)) ?_ fun _ h => decide_eq_true h.share.1
    decide +kernel

end Restock.Audit
