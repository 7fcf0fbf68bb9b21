import Restock.Audit.Segments

/-!
# The position of the stock

`baseline/baseline.py` gives every series of a panel a normal week, with a ladder of fallbacks for
series that are too young, that have stopped selling, or that have too few usable weeks.
`findings/stock_position.py` puts every row of a stock file into a bucket by its weeks of cover, and
a dormant one into the bucket of the dead. Beside it, it lists the dead stock by the age of the last
sale. The two are told by different tables: the bucket by the lifecycle and the baseline's method,
the list by the panel itself.

* `computeBaseline`, `stockPosition` — the code;
* `bucket_eq_dead_iff`, `isSome_deadRow_iff` — when a row is dead, on either side;
* `DeadStockAgrees`, `deadStockAgrees_iff` — that the two agree, and when they do.
-/

namespace Restock.Audit

open Series (median)

/-- `method`. -/
inductive BaselineMethod
  | launch
  | dormant
  | own
  | clusterAnalog
  deriving DecidableEq, Repr

/-- `confidence`. -/
inductive BaselineConfidence
  | notAssessable
  | high
  | low
  deriving DecidableEq, Repr

/-- A row of `BaselineSchema`. -/
structure BaselineRow where
  series : SeriesKey
  /-- Nothing for NaN. -/
  baselineWeekly : Option ℚ
  baselineDaily : Option ℚ
  usableWeeks : ℕ
  method : BaselineMethod
  confidence : BaselineConfidence
  deriving DecidableEq, Repr

/-- `LAUNCH_MIN_WEEKS`. -/
def launchMinWeeks : ℤ := 4

/-- `median()` of a column: of the values that are there. -/
def columnMedian (values : List (Option ℚ)) : Option ℚ :=
  if values.reduceOption = [] then none else some (median values.reduceOption)

/-- The last week in which a series sold. -/
def lastSaleWeek (own : List PanelRow) : Option ℤ :=
  ((own.filter fun r => 0 < r.unitsRaw).map PanelRow.weekStart).max?

/-- The first week of a series. -/
def firstWeek (own : List PanelRow) : Option ℤ :=
  (own.map PanelRow.weekStart).min?

section Code

variable (config : Config) (scfg : SegmentsCfg)

/-- `(as_of - last_sale).days >= dormancy_days`, or no sale at all. -/
def isDormant (asOf : ℤ) (own : List PanelRow) : Bool :=
  !(lastSaleWeek own).any fun last => asOf - last < 7 * scfg.dormancyWeeks

/-- The statistic of the winsorized values; nothing without a value. -/
def weeklyStatistic (values : List ℚ) : Option ℚ :=
  let winsorized := values.map (min · (config.baseline.winsorizeMultiple * median values))
  if values = [] then none
  else if config.baseline.statistic = "mean" then some (meanOf winsorized)
  else some (median winsorized)

/-- The first pass for a series, of its rows up to a week. -/
def baselineRecord (asOf : ℤ) (panel : List PanelRow) (series : SeriesKey) : BaselineRow :=
  let own := panel.filter fun r => r.series = series
  let usable := own.filter fun r => asOf - 7 * config.baseline.windowWeeks < r.weekStart ∧
    r.usable = true ∧ r.promoFlag = false ∧ r.bulkFlag = false
  let values := usable.map PanelRow.unitsCorrected
  let record (weekly : Option ℚ) (method : BaselineMethod) (confidence : BaselineConfidence) :
      BaselineRow :=
    { series, baselineWeekly := weekly, baselineDaily := none, usableWeeks := values.length
      method, confidence }
  if (firstWeek own).any fun first => (asOf - first) / 7 + 1 < launchMinWeeks then
    record none .launch .notAssessable
  else if isDormant scfg asOf own then record none .dormant .notAssessable
  else if config.baseline.minUsableWeeks ≤ values.length then
    record (weeklyStatistic config values) .own
      (if config.baseline.windowWeeks ≤ values.length then .high else .low)
  else record none .clusterAnalog .low

/-- The median of the baselines of the series of one category, or else of all that have one of their
own. -/
def analogOf (categoryMap : List (String × String)) (own : List BaselineRow) (sku : String) :
    Option ℚ :=
  let peers : List BaselineRow :=
    match categoryMap.lookup sku with
    | some category => own.filter fun r => categoryMap.lookup r.series.sku = some category
    | none => []
  (columnMedian (peers.map BaselineRow.baselineWeekly)).or
    (columnMedian (own.map BaselineRow.baselineWeekly))

/-- `compute_baseline`; without a category map there are no peers, and without a week to look back
from it is the panel's last one. -/
def computeBaseline (categoryMap : List (String × String)) (asOf : Option ℤ)
    (panel : List PanelRow) : List BaselineRow :=
  match asOf.or (panel.map PanelRow.weekStart).max? with
  | none => []
  | some asOf =>
      let seen := panel.filter fun r => r.weekStart ≤ asOf
      let records := (panelSeries seen).map (baselineRecord config scfg asOf seen)
      let own := records.filter fun r => r.method = .own
      records.map fun r =>
        let weekly :=
          if r.method = .clusterAnalog then analogOf categoryMap own r.series.sku
          else r.baselineWeekly
        { r with baselineWeekly := weekly, baselineDaily := weekly.map (· / 7) }

variable {config scfg}

/-- A series whose method is dormant has not sold for as long as the configuration says. -/
theorem isDormant_of_method {asOf : ℤ} {panel : List PanelRow} {series : SeriesKey}
    (h : (baselineRecord config scfg asOf panel series).method = .dormant) :
    isDormant scfg asOf (panel.filter fun r => r.series = series) = true := by
  rw [baselineRecord] at h
  dsimp only at h
  split at h
  · cases h
  · split at h
    case isTrue hdormant => exact hdormant
    case isFalse =>
        split at h
        · cases h
        · cases h

/-- The rows of the baseline of a panel, up to its last week: the series are the panel's, with the
method of the first pass. -/
theorem exists_record_of_mem {categoryMap : List (String × String)} {panel : List PanelRow}
    {asOf : ℤ} (hasOf : (panel.map PanelRow.weekStart).max? = some asOf) {row : BaselineRow}
    (h : row ∈ computeBaseline config scfg categoryMap none panel) :
    row.series ∈ panelSeries panel ∧
      row.method = (baselineRecord config scfg asOf panel row.series).method := by
  have hseen : (panel.filter fun r => r.weekStart ≤ asOf) = panel :=
    List.filter_eq_self.mpr fun r hr =>
      decide_eq_true ((List.max?_eq_some_iff.mp hasOf).2 _ (List.mem_map_of_mem hr))
  rw [computeBaseline, Option.none_or, hasOf] at h
  dsimp only at h
  rw [hseen] at h
  obtain ⟨record, hrecord, rfl⟩ := List.mem_map.mp h
  obtain ⟨series, hmem, rfl⟩ := List.mem_map.mp hrecord
  have hseries : (baselineRecord config scfg asOf panel series).series = series := by
    rw [baselineRecord]
    dsimp only
    split
    · rfl
    · split
      · rfl
      · split <;> rfl
  dsimp only
  rw [hseries]
  exact ⟨hmem, rfl⟩

end Code

/-- `FindingsCfg`, as far as the stock is concerned. -/
structure FindingsCfg where
  deadStockWeeks : List ℤ := [8, 13, 26]
  overstockCoverWeeks : List ℚ := [12, 26]
  runoutCoverWeeks : ℚ := 2
  deriving DecidableEq, Repr

/-- A row of `StockSchema`. -/
structure StockRow where
  series : SeriesKey
  qtyOnHand : ℚ
  /-- Nothing for NaN, and where the column is missing. -/
  unitCost : Option ℚ := none
  deriving DecidableEq, Repr

/-- `BUCKET_ORDER`. -/
inductive CoverBucket
  | severeOverstock
  | overstock
  | healthy
  | thin
  | imminentRunout
  | dead
  | notAssessable
  deriving DecidableEq, Repr

def bucketOrder : List CoverBucket :=
  [.severeOverstock, .overstock, .healthy, .thin, .imminentRunout, .dead, .notAssessable]

/-- `HEALTHY_MIN_WEEKS`. -/
def healthyMinWeeks : ℚ := 4

/-- `THIN_MIN_WEEKS`. -/
def thinMinWeeks : ℚ := 1

/-- A row of the cover table. -/
structure CoverRow where
  series : SeriesKey
  qtyOnHand : ℚ
  unitCost : Option ℚ
  stockValue : Option ℚ
  baselineWeekly : Option ℚ
  weeksOfCover : Option ℚ
  bucket : CoverBucket
  abc : Option AbcClass
  lifecycle : Option Lifecycle
  deriving DecidableEq, Repr

/-- A row of the table of buckets. -/
structure BucketRow where
  bucket : CoverBucket
  nSkus : ℕ
  units : ℚ
  value : ℚ
  deriving DecidableEq, Repr

/-- A row of the dead stock. -/
structure DeadRow where
  series : SeriesKey
  qtyOnHand : ℚ
  unitCost : Option ℚ
  weeksSinceSale : ℚ
  bucket : String
  value : Option ℚ
  deriving DecidableEq, Repr

/-- `capital`. -/
structure Capital where
  totalStockValue : ℚ
  overstockValue : ℚ
  deadStockValue : ℚ
  deadStockUnits : ℚ
  deadValueByBucket : List (String × ℚ)
  deadUnitsByBucket : List (String × ℚ)
  uncostedUnits : ℚ
  deriving DecidableEq, Repr

/-- What `stock_position` returns. -/
structure StockPosition where
  cover : List CoverRow
  coverBuckets : List BucketRow
  deadStock : List DeadRow
  runouts : List CoverRow
  capital : Capital
  deriving DecidableEq, Repr

/-- `sum()` of a column: of the values that are there. -/
def columnSum (values : List (Option ℚ)) : ℚ :=
  values.reduceOption.sum

/-- `_bucket`. -/
def bucketOf (lo hi : ℚ) (lifecycle : Option Lifecycle) (method : Option BaselineMethod) (qty : ℚ)
    (cover : Option ℚ) : CoverBucket :=
  if lifecycle = some .dormant ∨ method = some .dormant then
    if 0 < qty then .dead else .notAssessable
  else
    match cover with
    | none => .notAssessable
    | some cover =>
        if hi < cover then .severeOverstock
        else if lo ≤ cover then .overstock
        else if healthyMinWeeks ≤ cover then .healthy
        else if thinMinWeeks ≤ cover then .thin
        else .imminentRunout

/-- A row of stock with its baseline, its segment and its bucket. -/
def coverRow (lo hi : ℚ) (baseline : List BaselineRow) (segments : List SegmentRow)
    (stock : StockRow) : CoverRow :=
  let own := baseline.find? fun r => r.series = stock.series
  let segment := segments.find? fun r => r.series = stock.series
  let weekly := own.bind BaselineRow.baselineWeekly
  let cover := weekly.bind fun weekly =>
    if 0 < weekly then some (stock.qtyOnHand / weekly) else none
  { series := stock.series
    qtyOnHand := stock.qtyOnHand
    unitCost := stock.unitCost
    stockValue := stock.unitCost.map (stock.qtyOnHand * ·)
    baselineWeekly := weekly
    weeksOfCover := cover
    bucket := bucketOf lo hi (segment.map SegmentRow.lifecycle) (own.map BaselineRow.method)
      stock.qtyOnHand cover
    abc := segment.map SegmentRow.abc
    lifecycle := segment.map SegmentRow.lifecycle }

/-- `_dead_bucket_labels`. -/
def deadBucketLabels (w₀ w₁ w₂ : ℤ) : String × String × String :=
  (toString w₀ ++ "-" ++ toString (w₁ - 1) ++ "w", toString w₁ ++ "-" ++ toString (w₂ - 1) ++ "w",
    toString w₂ ++ "w+")

/-- A row of the cover table as dead stock: its series is in the panel, something is on hand, and
the last sale, or the first week where there was none, is long ago. -/
def deadRow (w₀ w₁ w₂ : ℤ) (panel : List PanelRow) (c : CoverRow) : Option DeadRow :=
  let own := panel.filter fun r => r.series = c.series
  let labels := deadBucketLabels w₀ w₁ w₂
  match (panel.map PanelRow.weekStart).max?, firstWeek own with
  | some maxWeek, some first =>
      let since := ((maxWeek - (lastSaleWeek own).getD first : ℤ) : ℚ) / 7
      if 0 < c.qtyOnHand ∧ (w₀ : ℚ) ≤ since then
        some
          { series := c.series
            qtyOnHand := c.qtyOnHand
            unitCost := c.unitCost
            weeksSinceSale := since
            bucket :=
              if since < w₁ then labels.1 else if since < w₂ then labels.2.1 else labels.2.2
            value := c.unitCost.map (c.qtyOnHand * ·) }
      else none
  | _, _ => none

/-- Descending, with what is absent at the end. -/
def valueLe : Option ℚ → Option ℚ → Bool
  | some a, some b => b ≤ a
  | none, some _ => false
  | _, none => true

/-- The table of buckets. -/
def bucketRows (cover : List CoverRow) : List BucketRow :=
  bucketOrder.map fun bucket =>
    let own := cover.filter fun c => c.bucket = bucket
    { bucket
      nSkus := own.length
      units := (own.map CoverRow.qtyOnHand).sum
      value := columnSum (own.map CoverRow.stockValue) }

/-- The capital that the stock ties up. -/
def capitalOf (labels : String × String × String) (cover : List CoverRow) (dead : List DeadRow) :
    Capital :=
  let texts := [labels.1, labels.2.1, labels.2.2]
  let inBucket (label : String) := dead.filter fun d => d.bucket = label
  { totalStockValue := columnSum (cover.map CoverRow.stockValue)
    overstockValue := columnSum <| (cover.filter fun c =>
      c.bucket = .overstock ∨ c.bucket = .severeOverstock).map CoverRow.stockValue
    deadStockValue := columnSum (dead.map DeadRow.value)
    deadStockUnits := (dead.map DeadRow.qtyOnHand).sum
    deadValueByBucket := texts.map fun label =>
      (label, columnSum ((inBucket label).map DeadRow.value))
    deadUnitsByBucket := texts.map fun label =>
      (label, ((inBucket label).map DeadRow.qtyOnHand).sum)
    uncostedUnits := ((cover.filter fun c => c.unitCost = none ∧ 0 < c.qtyOnHand).map
      CoverRow.qtyOnHand).sum }

/-- `stock_position`: nothing when it throws, for thresholds that are too few. The order of equal
values in a sorted table is that of the stock. -/
def stockPosition (fcfg : FindingsCfg) (stock : List StockRow) (baseline : List BaselineRow)
    (panel : List PanelRow) (segments : List SegmentRow) : Option StockPosition :=
  match fcfg.overstockCoverWeeks, fcfg.deadStockWeeks with
  | lo :: hi :: _, w₀ :: w₁ :: w₂ :: _ =>
      let cover := stock.map (coverRow lo hi baseline segments)
      let dead := (cover.filterMap (deadRow w₀ w₁ w₂ panel)).insertionSort fun a b =>
        valueLe a.value b.value = true
      some
        { cover
          coverBuckets := bucketRows cover
          deadStock := dead
          runouts := (cover.filter fun c => c.abc = some .A ∧
            c.weeksOfCover.any fun weeks => weeks < fcfg.runoutCoverWeeks).insertionSort
              fun a b => a.weeksOfCover.getD 0 ≤ b.weeksOfCover.getD 0
          capital := capitalOf (deadBucketLabels w₀ w₁ w₂) cover dead }
  | _, _ => none

/-! ## When a row is dead -/

theorem bucketOf_eq_dead_iff {lo hi qty : ℚ} {lifecycle : Option Lifecycle}
    {method : Option BaselineMethod} {cover : Option ℚ} :
    bucketOf lo hi lifecycle method qty cover = .dead ↔
      (lifecycle = some .dormant ∨ method = some .dormant) ∧ 0 < qty := by
  unfold bucketOf
  by_cases hdormant : lifecycle = some .dormant ∨ method = some .dormant
  · rw [if_pos hdormant]
    by_cases hqty : 0 < qty <;> simp [hdormant, hqty]
  · rw [if_neg hdormant]
    refine iff_of_false ?_ fun h => hdormant h.1
    cases cover with
    | none => simp
    | some cover =>
        dsimp only
        split
        · simp
        · split
          · simp
          · split
            · simp
            · split <;> simp

/-- A series of the panel has a first week. -/
theorem firstWeek_eq_some_iff {own : List PanelRow} {first : ℤ} :
    firstWeek own = some first ↔
      (∃ r ∈ own, r.weekStart = first) ∧ ∀ r ∈ own, first ≤ r.weekStart := by
  rw [firstWeek, List.min?_eq_some_iff]
  simp only [List.mem_map, forall_exists_index, and_imp, forall_apply_eq_imp_iff₂]

/-- The last week in which a series sold is one in which it did. -/
theorem exists_of_lastSaleWeek {own : List PanelRow} {last : ℤ} (h : lastSaleWeek own = some last) :
    ∃ r ∈ own, 0 < r.unitsRaw ∧ r.weekStart = last := by
  obtain ⟨r, hr, heq⟩ := List.mem_map.mp (List.max?_eq_some_iff.mp h).1
  obtain ⟨hmem, hsold⟩ := List.mem_filter.mp hr
  exact ⟨r, hmem, of_decide_eq_true hsold, heq⟩

theorem lastSaleWeek_eq_none_iff {own : List PanelRow} :
    lastSaleWeek own = none ↔ ∀ r ∈ own, r.unitsRaw ≤ 0 := by
  rw [lastSaleWeek, List.max?_eq_none_iff, List.map_eq_nil_iff, List.filter_eq_nil_iff]
  simp only [decide_eq_true_eq, not_lt]

/-- A series of the panel that never sold, and all of whose weeks are less than some weeks before
the panel's last one. -/
def NewAndUnsold (weeks : ℤ) (panel : List PanelRow) (series : SeriesKey) : Prop :=
  (∃ r ∈ panel, r.series = series) ∧ (∀ r ∈ panel, r.series = series → r.unitsRaw ≤ 0) ∧
    ∀ last ∈ panel, ∀ r ∈ panel, r.series = series → last.weekStart - r.weekStart < 7 * weeks

/-- A series is dormant by its lifecycle when the age that counts for the dead stock is long enough,
or when it is new and never sold. -/
theorem isDormant_iff {scfg : SegmentsCfg} {panel : List PanelRow} {series : SeriesKey}
    {asOf first : ℤ} (hasOf : (panel.map PanelRow.weekStart).max? = some asOf)
    (hfirst : firstWeek (panel.filter fun r => r.series = series) = some first) :
    isDormant scfg asOf (panel.filter fun r => r.series = series) = true ↔
      7 * scfg.dormancyWeeks ≤
          asOf - (lastSaleWeek (panel.filter fun r => r.series = series)).getD first ∨
        NewAndUnsold scfg.dormancyWeeks panel series := by
  set own := panel.filter fun r => r.series = series with hown
  have hmem : ∀ r, r ∈ own ↔ r ∈ panel ∧ r.series = series := by
    intro r
    rw [hown, List.mem_filter, decide_eq_true_iff]
  obtain ⟨⟨r₀, hr₀, hweek₀⟩, hleast⟩ := firstWeek_eq_some_iff.mp hfirst
  rw [List.max?_eq_some_iff] at hasOf
  have hlatest : ∀ r ∈ panel, r.weekStart ≤ asOf := fun r hr =>
    hasOf.2 _ (List.mem_map_of_mem hr)
  obtain ⟨latest, hlatestMem, hlatestWeek⟩ := List.mem_map.mp hasOf.1
  rw [isDormant]
  cases hlast : lastSaleWeek own with
  | some last =>
      -- a series that sold is dormant by the age of its last sale
      obtain ⟨r, hr, hsold, -⟩ := exists_of_lastSaleWeek hlast
      have hnot : ¬ NewAndUnsold scfg.dormancyWeeks panel series := fun h =>
        absurd (h.2.1 r ((hmem r).mp hr).1 ((hmem r).mp hr).2) (not_le.mpr hsold)
      rw [or_iff_left hnot]
      simp
  | none =>
      rw [Option.getD_none]
      refine iff_of_true rfl (or_iff_not_imp_left.mpr fun hyoung => ⟨?_, ?_, ?_⟩)
      · exact ⟨r₀, (hmem r₀).mp hr₀⟩
      · exact fun r hr hs => lastSaleWeek_eq_none_iff.mp hlast r ((hmem r).mpr ⟨hr, hs⟩)
      · intro last hlastMem r hr hs
        have h₁ := hlatest last hlastMem
        have h₂ := hleast r ((hmem r).mpr ⟨hr, hs⟩)
        omega

/-- A new series that never sold has no age that is long enough. -/
theorem NewAndUnsold.age_lt {weeks : ℤ} {panel : List PanelRow} {series : SeriesKey}
    (h : NewAndUnsold weeks panel series) {asOf first : ℤ}
    (hasOf : (panel.map PanelRow.weekStart).max? = some asOf)
    (hfirst : firstWeek (panel.filter fun r => r.series = series) = some first) :
    asOf - (lastSaleWeek (panel.filter fun r => r.series = series)).getD first < 7 * weeks := by
  obtain ⟨-, hunsold, hyoung⟩ := h
  obtain ⟨⟨r₀, hr₀, rfl⟩, -⟩ := firstWeek_eq_some_iff.mp hfirst
  obtain ⟨last, hlast, rfl⟩ := List.mem_map.mp (List.max?_eq_some_iff.mp hasOf).1
  rw [List.mem_filter, decide_eq_true_iff] at hr₀
  have hnone : lastSaleWeek (panel.filter fun r => r.series = series) = none := by
    refine lastSaleWeek_eq_none_iff.mpr fun r hr => ?_
    rw [List.mem_filter, decide_eq_true_iff] at hr
    exact hunsold r hr.1 hr.2
  rw [hnone, Option.getD_none]
  exact hyoung last hlast r₀ hr₀.1 hr₀.2

/-- A row of the cover table is dead stock when something is on hand and its series is in the panel
with an age that is long enough. -/
theorem isSome_deadRow_iff {w₀ w₁ w₂ : ℤ} {panel : List PanelRow} {c : CoverRow} :
    (deadRow w₀ w₁ w₂ panel c).isSome = true ↔ 0 < c.qtyOnHand ∧ ∃ asOf first,
      (panel.map PanelRow.weekStart).max? = some asOf ∧
      firstWeek (panel.filter fun r => r.series = c.series) = some first ∧
      7 * w₀ ≤ asOf - (lastSaleWeek (panel.filter fun r => r.series = c.series)).getD first := by
  have hage : ∀ days : ℤ, (w₀ : ℚ) ≤ (days : ℚ) / 7 ↔ 7 * w₀ ≤ days := by
    intro days
    rw [le_div_iff₀ (by norm_num), mul_comm]
    exact_mod_cast Iff.rfl
  dsimp only [deadRow]
  cases hmax : (panel.map PanelRow.weekStart).max? with
  | none => simp
  | some asOf =>
      cases hfirst : firstWeek (panel.filter fun r => r.series = c.series) with
      | none => simp
      | some first =>
          dsimp only
          split
          case isTrue h => exact iff_of_true rfl ⟨h.1, asOf, first, rfl, rfl, (hage _).mp h.2⟩
          case isFalse h =>
              refine iff_of_false Bool.noConfusion ?_
              rintro ⟨hqty, _, _, heq, heq', hdays⟩
              rw [← Option.some.inj heq, ← Option.some.inj heq'] at hdays
              exact h ⟨hqty, (hage _).mpr hdays⟩

section Agree

variable {sqrt : ℚ → ℚ} {config : Config} {scfg : SegmentsCfg} {priceLookup : List (String × ℚ)}
  {categoryMap : List (String × String)} {panel : List PanelRow} {segments : List SegmentRow}

/-- A series of the panel has a segment, with its lifecycle, and no other series has. -/
theorem find?_segments (h : computeSegments sqrt scfg priceLookup panel = some segments)
    {asOf : ℤ} (hasOf : (panel.map PanelRow.weekStart).max? = some asOf) (series : SeriesKey) :
    (segments.find? fun r => r.series = series).map SegmentRow.lifecycle =
      if series ∈ panelSeries panel then
        some (lifecycleOf scfg asOf (panel.filter fun r => r.series = series))
      else none := by
  rw [computeSegments, hasOf] at h
  split at h
  case h_2 => cases h
  case h_1 heq =>
      cases Option.some.inj heq
      rw [← Option.some.inj h, List.map_map, Series.find?_map_key _ SegmentRow.series fun _ => rfl]
      split <;> rfl

/-- The last week of a panel that has segments. -/
theorem exists_asOf (h : computeSegments sqrt scfg priceLookup panel = some segments) :
    ∃ asOf, (panel.map PanelRow.weekStart).max? = some asOf := by
  rw [computeSegments] at h
  split at h
  case h_1 hmax => exact ⟨_, hmax⟩
  case h_2 => cases h

theorem mem_panelSeries {series : SeriesKey} :
    series ∈ panelSeries panel ↔ ∃ r ∈ panel, r.series = series := by
  rw [panelSeries, List.mem_insertionSort, List.mem_eraseDups, List.mem_map]

/-- A series that has not sold for long is dormant. -/
theorem lifecycleOf_eq_dormant_iff {asOf : ℤ} {own : List PanelRow} :
    lifecycleOf scfg asOf own = .dormant ↔ isDormant scfg asOf own = true := by
  have hunfold : lifecycleOf scfg asOf own =
      if isDormant scfg asOf own = true then .dormant
      else if (firstWeek own).any fun first => (asOf - first) / 7 + 1 < newWeeks then .new
      else .active := rfl
  rw [hunfold]
  split
  case isTrue h => exact iff_of_true rfl h
  case isFalse h =>
      refine iff_of_false ?_ h
      split <;> exact fun heq => Lifecycle.noConfusion heq

/-- A row of stock is in the bucket of the dead when something is on hand and its series is a
dormant one of the panel: the baseline's method adds nothing to the lifecycle. -/
theorem bucket_eq_dead_iff (h : computeSegments sqrt scfg priceLookup panel = some segments)
    {asOf : ℤ} (hasOf : (panel.map PanelRow.weekStart).max? = some asOf) (lo hi : ℚ)
    (stock : StockRow) :
    (coverRow lo hi (computeBaseline config scfg categoryMap none panel) segments stock).bucket =
        .dead ↔
      0 < stock.qtyOnHand ∧ (∃ r ∈ panel, r.series = stock.series) ∧
        isDormant scfg asOf (panel.filter fun r => r.series = stock.series) = true := by
  rw [coverRow]
  dsimp only
  rw [bucketOf_eq_dead_iff, and_comm, find?_segments h hasOf, ← mem_panelSeries]
  refine and_congr_right fun _ => ?_
  by_cases hmem : stock.series ∈ panelSeries panel
  · rw [if_pos hmem, Option.some.injEq, lifecycleOf_eq_dormant_iff, and_iff_right hmem]
    refine or_iff_left_of_imp fun hmethod => ?_
    obtain ⟨row, hfind, hmethod⟩ := Option.map_eq_some_iff.mp hmethod
    have hseries := List.find?_some hfind
    rw [decide_eq_true_iff] at hseries
    obtain ⟨-, hrecord⟩ := exists_record_of_mem hasOf (List.mem_of_find?_eq_some hfind)
    rw [hseries] at hrecord
    exact isDormant_of_method (hrecord.symm.trans hmethod)
  · rw [if_neg hmem]
    refine iff_of_false ?_ fun h => hmem h.1
    rintro (hnone | hmethod)
    · cases hnone
    · obtain ⟨row, hfind, -⟩ := Option.map_eq_some_iff.mp hmethod
      have hseries := List.find?_some hfind
      rw [decide_eq_true_iff] at hseries
      obtain ⟨hrow, -⟩ := exists_record_of_mem hasOf (List.mem_of_find?_eq_some hfind)
      exact hmem (hseries ▸ hrow)

/-- A new series that never sold is no dead stock. -/
theorem NewAndUnsold.deadRow_eq_none {weeks w₁ w₂ : ℤ} {c : CoverRow}
    (h : NewAndUnsold weeks panel c.series) : ¬ (deadRow weeks w₁ w₂ panel c).isSome = true := by
  rw [isSome_deadRow_iff]
  rintro ⟨-, asOf, first, hasOf, hfirst, hage⟩
  exact absurd (h.age_lt hasOf hfirst) (not_lt.mpr hage)

/-- A row of stock is in the bucket of the dead when it is dead stock, or when it is of a new series
that never sold. -/
theorem bucket_eq_dead_iff_deadRow
    (h : computeSegments sqrt scfg priceLookup panel = some segments) (lo hi : ℚ) (w₁ w₂ : ℤ)
    (stock : StockRow) :
    (coverRow lo hi (computeBaseline config scfg categoryMap none panel) segments stock).bucket =
        .dead ↔
      (deadRow scfg.dormancyWeeks w₁ w₂ panel (coverRow lo hi
        (computeBaseline config scfg categoryMap none panel) segments stock)).isSome = true ∨
        0 < stock.qtyOnHand ∧ NewAndUnsold scfg.dormancyWeeks panel stock.series := by
  obtain ⟨asOf, hasOf⟩ := exists_asOf h
  rw [bucket_eq_dead_iff h hasOf, isSome_deadRow_iff]
  dsimp only [coverRow]
  constructor
  · rintro ⟨hqty, ⟨r, hr, hseries⟩, hdormant⟩
    have hne : (panel.filter fun r => r.series = stock.series).map PanelRow.weekStart ≠ [] :=
      List.ne_nil_of_mem
        (List.mem_map_of_mem (List.mem_filter.mpr ⟨hr, decide_eq_true hseries⟩))
    obtain ⟨first, hfirst⟩ := Option.isSome_iff_exists.mp (List.isSome_min?_of_ne_nil hne)
    rcases (isDormant_iff hasOf hfirst).mp hdormant with hage | hnew
    · exact Or.inl ⟨hqty, asOf, first, hasOf, hfirst, hage⟩
    · exact Or.inr ⟨hqty, hnew⟩
  · rintro (⟨hqty, asOf', first, hasOf', hfirst, hage⟩ | ⟨hqty, hnew⟩)
    · obtain ⟨⟨r, hr, -⟩, -⟩ := firstWeek_eq_some_iff.mp hfirst
      obtain ⟨hr, hseries⟩ := List.mem_filter.mp hr
      rw [← Option.some.inj (hasOf.symm.trans hasOf')] at hage
      exact ⟨hqty, ⟨r, hr, of_decide_eq_true hseries⟩,
        (isDormant_iff hasOf hfirst).mpr (Or.inl hage)⟩
    · -- it never sold, so it is dormant however new it is
      refine ⟨hqty, hnew.1, ?_⟩
      have hnone : lastSaleWeek (panel.filter fun r => r.series = stock.series) = none := by
        refine lastSaleWeek_eq_none_iff.mpr fun r hr => ?_
        rw [List.mem_filter, decide_eq_true_iff] at hr
        exact hnew.2.1 r hr.1 hr.2
      rw [isDormant, hnone]
      rfl

/-! ## The two figures -/

/-- The bucket of the dead has the series of the dead stock, and its value. -/
structure DeadStockAgrees (position : StockPosition) : Prop where
  series : ∀ s, (∃ c ∈ position.cover, c.series = s ∧ c.bucket = .dead) ↔
    ∃ d ∈ position.deadStock, d.series = s
  value : ∀ row ∈ position.coverBuckets, row.bucket = .dead →
    row.value = position.capital.deadStockValue

/-- The order of a column does not change its sum. -/
theorem columnSum_perm {xs ys : List (Option ℚ)} (h : xs.Perm ys) :
    columnSum xs = columnSum ys :=
  (h.filterMap id).sum_eq

/-- Dead stock has the value of the row of stock that it is. -/
theorem value_of_deadRow {w₀ w₁ w₂ : ℤ} {c : CoverRow} {d : DeadRow}
    (h : deadRow w₀ w₁ w₂ panel c = some d) :
    d.series = c.series ∧ d.value = c.unitCost.map (c.qtyOnHand * ·) := by
  dsimp only [deadRow] at h
  split at h
  · split at h
    · rw [← Option.some.inj h]
      exact ⟨rfl, rfl⟩
    · cases h
  · cases h

/-- Where the two tables tell the same rows, their values are the same. -/
theorem value_eq_of_agree {w₀ w₁ w₂ : ℤ} {cover : List CoverRow}
    (hvalue : ∀ c ∈ cover, c.stockValue = c.unitCost.map (c.qtyOnHand * ·))
    (hagree : ∀ c ∈ cover, c.bucket = .dead ↔ (deadRow w₀ w₁ w₂ panel c).isSome = true) :
    (cover.filter fun c => c.bucket = .dead).map CoverRow.stockValue =
      (cover.filterMap (deadRow w₀ w₁ w₂ panel)).map DeadRow.value := by
  induction cover with
  | nil => rfl
  | cons c cover ih =>
      have ih := ih (fun c hc => hvalue c (List.mem_cons_of_mem _ hc))
        fun c hc => hagree c (List.mem_cons_of_mem _ hc)
      have hhead := hagree c List.mem_cons_self
      cases hrow : deadRow w₀ w₁ w₂ panel c with
      | none =>
          rw [hrow] at hhead
          have hkeep : ¬ c.bucket = .dead := fun h => Bool.noConfusion (hhead.mp h)
          rw [List.filter_cons_of_neg (by simpa using hkeep), List.filterMap_cons_none hrow, ih]
      | some d =>
          rw [hrow] at hhead
          rw [List.filter_cons_of_pos (by simpa using hhead.mpr rfl),
            List.filterMap_cons_some hrow, List.map_cons, List.map_cons, ih,
            hvalue c List.mem_cons_self, (value_of_deadRow hrow).2]

/-- **The two figures of dead stock agree exactly when nothing on hand is new and unsold.** For
every panel, stock file and configuration whose dormancy is the first age of dead stock, the bucket
of the dead and the list of dead stock have the same series and value exactly when no series with
stock on hand is in the panel without a sale and for less than that time. -/
theorem deadStockAgrees_iff {fcfg : FindingsCfg} {stock : List StockRow}
    {position : StockPosition}
    (hsegments : computeSegments sqrt scfg priceLookup panel = some segments)
    (hweeks : fcfg.deadStockWeeks.head? = some scfg.dormancyWeeks)
    (hposition : stockPosition fcfg stock (computeBaseline config scfg categoryMap none panel)
      panel segments = some position) :
    DeadStockAgrees position ↔
      ∀ r ∈ stock, 0 < r.qtyOnHand → ¬ NewAndUnsold scfg.dormancyWeeks panel r.series := by
  obtain ⟨asOf, hasOf⟩ := exists_asOf hsegments
  rw [stockPosition] at hposition
  split at hposition
  case h_2 => cases hposition
  case h_1 lo hi _ w₀ w₁ w₂ _ _ hdead =>
  rw [hdead, List.head?_cons, Option.some.injEq] at hweeks
  subst hweeks
  rw [← Option.some.inj hposition]
  set toCover := coverRow lo hi (computeBaseline config scfg categoryMap none panel) segments
  have hrow : ∀ r, (toCover r).bucket = .dead ↔ _ :=
    bucket_eq_dead_iff_deadRow hsegments lo hi w₁ w₂
  have hmem : ∀ d, d ∈ ((stock.map toCover).filterMap (deadRow scfg.dormancyWeeks w₁ w₂
      panel)).insertionSort (fun a b => valueLe a.value b.value = true) ↔
        ∃ r ∈ stock, deadRow scfg.dormancyWeeks w₁ w₂ panel (toCover r) = some d := by
    intro d
    rw [List.mem_insertionSort, List.filterMap_map, List.mem_filterMap]
    rfl
  constructor
  · -- a new SKU without a sale counts as dead, and the list of dead stock has no row of its series
    intro hagrees r hr hqty hnew
    obtain ⟨d, hd, hseries⟩ := (hagrees.series r.series).mp
      ⟨toCover r, List.mem_map_of_mem hr, rfl, (hrow r).mpr (Or.inr ⟨hqty, hnew⟩)⟩
    obtain ⟨r', -, hdead⟩ := (hmem d).mp hd
    have hseries' : (toCover r').series = r.series :=
      (value_of_deadRow hdead).1.symm.trans hseries
    refine NewAndUnsold.deadRow_eq_none (c := toCover r') ?_ (Option.isSome_of_eq_some hdead)
    rwa [hseries']
  · -- where there is none, both sides go by the same test, row by row
    intro hold
    have hdead : ∀ r ∈ stock, (toCover r).bucket = .dead ↔
        (deadRow scfg.dormancyWeeks w₁ w₂ panel (toCover r)).isSome = true := fun r hr =>
      (hrow r).trans (or_iff_left fun h => hold r hr h.1 h.2)
    constructor
    case series =>
      intro s
      constructor
      · rintro ⟨c, hc, rfl, hbucket⟩
        obtain ⟨r, hr, rfl⟩ := List.mem_map.mp hc
        obtain ⟨d, hd⟩ := Option.isSome_iff_exists.mp ((hdead r hr).mp hbucket)
        exact ⟨d, (hmem d).mpr ⟨r, hr, hd⟩, (value_of_deadRow hd).1⟩
      · rintro ⟨d, hd, rfl⟩
        obtain ⟨r, hr, hd⟩ := (hmem d).mp hd
        exact ⟨toCover r, List.mem_map_of_mem hr, (value_of_deadRow hd).1.symm,
          (hdead r hr).mpr (Option.isSome_of_eq_some hd)⟩
    case value =>
      intro row hrowMem hbucket
      obtain ⟨bucket, -, rfl⟩ := List.mem_map.mp hrowMem
      dsimp only at hbucket
      subst hbucket
      dsimp only [capitalOf]
      have hvalue : ∀ c ∈ stock.map toCover,
          c.stockValue = c.unitCost.map (c.qtyOnHand * ·) := by
        intro c hc
        obtain ⟨r, -, rfl⟩ := List.mem_map.mp hc
        rfl
      have hagree : ∀ c ∈ stock.map toCover, c.bucket = .dead ↔
          (deadRow scfg.dormancyWeeks w₁ w₂ panel c).isSome = true := by
        intro c hc
        obtain ⟨r, hr, rfl⟩ := List.mem_map.mp hc
        exact hdead r hr
      rw [value_eq_of_agree hvalue hagree]
      exact columnSum_perm ((List.perm_insertionSort _ _).map _).symm

end Agree

/-! ## A series that only came back -/

/-- A week of a series of a panel. -/
private def saleWeek (sku : String) (number : ℤ) (units : ℚ) : PanelRow where
  series := { sku, location := "ALL" }
  weekStart := 4 + 7 * number
  unitsRaw := units
  unitsCorrected := units

/-- A row of a stock file. -/
private def onHand (sku : String) (qty : ℚ) : StockRow where
  series := { sku, location := "ALL" }
  qtyOnHand := qty
  unitCost := some 2

/-- A series that last sold ten weeks ago is dead on both sides. -/
theorem deadStockAgrees_soldLongAgo :
    ∃ segments position,
      computeSegments id {} [] [saleWeek "OLD" 0 5, saleWeek "FAST" 10 5] = some segments ∧
      stockPosition {} [onHand "OLD" 4, onHand "FAST" 3]
        (computeBaseline {} {} [] none [saleWeek "OLD" 0 5, saleWeek "FAST" 10 5])
        [saleWeek "OLD" 0 5, saleWeek "FAST" 10 5] segments = some position ∧
      DeadStockAgrees position := by
  have hsome : (computeSegments id {} [] [saleWeek "OLD" 0 5, saleWeek "FAST" 10 5]).isSome =
      true := by
    decide +kernel
  obtain ⟨segments, hsegments⟩ := Option.isSome_iff_exists.mp hsome
  obtain ⟨position, hposition⟩ : ∃ position,
      stockPosition {} [onHand "OLD" 4, onHand "FAST" 3]
        (computeBaseline {} {} [] none [saleWeek "OLD" 0 5, saleWeek "FAST" 10 5])
        [saleWeek "OLD" 0 5, saleWeek "FAST" 10 5] segments = some position := ⟨_, rfl⟩
  refine ⟨segments, position, hsegments, hposition,
    (deadStockAgrees_iff hsegments rfl hposition).mpr ?_⟩
  intro r hr _ hnew
  -- both have sold
  simp only [List.mem_cons, List.not_mem_nil, or_false] at hr
  rcases hr with rfl | rfl
  · exact absurd (hnew.2.1 (saleWeek "OLD" 0 5) (by simp) rfl) (by norm_num [saleWeek])
  · exact absurd (hnew.2.1 (saleWeek "FAST" 10 5) (by simp) rfl) (by norm_num [saleWeek])

/-- A series whose only line is a return is in the bucket of the dead, and no dead stock. -/
theorem deadStockAgrees_returned :
    ∃ segments position,
      computeSegments id {} [] [saleWeek "RETURNED" 0 0] = some segments ∧
      stockPosition {} [onHand "RETURNED" 5]
        (computeBaseline {} {} [] none [saleWeek "RETURNED" 0 0]) [saleWeek "RETURNED" 0 0]
        segments = some position ∧
      ¬ DeadStockAgrees position := by
  have hdead : ((computeSegments id {} [] [saleWeek "RETURNED" 0 0]).bind fun segments =>
      (stockPosition {} [onHand "RETURNED" 5]
        (computeBaseline {} {} [] none [saleWeek "RETURNED" 0 0]) [saleWeek "RETURNED" 0 0]
        segments).map fun position =>
          (position.cover.map fun c => (c.series, c.bucket), position.deadStock)) =
        some ([({ sku := "RETURNED", location := "ALL" }, .dead)], []) := by
    decide +kernel
  obtain ⟨segments, hsegments, hrest⟩ := Option.bind_eq_some_iff.mp hdead
  obtain ⟨position, hposition, heq⟩ := Option.map_eq_some_iff.mp hrest
  obtain ⟨hcover, hnone⟩ := Prod.mk.inj heq
  refine ⟨segments, position, hsegments, hposition, fun hagrees => ?_⟩
  obtain ⟨c, hc, hkey⟩ := List.mem_map.mp (hcover.symm ▸ List.mem_singleton_self _)
  obtain ⟨d, hd, -⟩ := (hagrees.series _).mp ⟨c, hc, Prod.mk.inj hkey⟩
  rw [hnone] at hd
  cases hd

end Restock.Audit
