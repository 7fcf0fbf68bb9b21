import Restock.Pos.Aggregate

/-!
# The till ingest

An ingest replaces the stored receipts of a window by the ones it is sent, and rebuilds the
sales history of every day they were or are on from all stored receipts, in one transaction
under a lock of the tenant. A repair rebuilds days the same way.

* `ingestPosSales`, `healPosRollup` — the code, and `rebuildDays`, which both end in;
* `dayCounted` — the lines a rebuild counts for a product on a day;
* `posRows_rebuildDays`, `posRows_rebuildDays_of_notMem` — what a rebuild leaves: on its days the
  row of the lines that count, elsewhere what was there.
-/

namespace Restock.Pos

open Sales (Zone SalesTable SalesHistory tenantDayKey HOUR_MS)
open Forecast (DAY_MS)

/-- How many rows a statement inserts. -/
def CHUNK : ℕ := 500

/-- The row of the sales history, dated by the marker of its day. -/
def PlannedSalesHistoryRow.row (r : PlannedSalesHistoryRow) : SalesHistory where
  productId := r.productId
  date := r.dayKey
  quantity := r.quantity
  revenueKes := r.revenueKes
  channel := .pos
  locationId := r.locationId

/-- `{ channel: "pos", date: { in: days } }`. -/
def posOn (days : List Time) (r : SalesHistory) : Bool :=
  r.channel = .pos ∧ r.date ∈ days

section Code

variable (js : Js)

/-- What an ingest or a repair loads before it rolls lines up. -/
def PosDb.rollupMaps (db : PosDb) : RollupMaps where
  skuToProductId := mergeLearnedAliases js (resolvePosSkuMap js db.products.rows)
    (matchedHistory db.sales.lines)
  ignoredSkus := db.ignoreRules.map fun value => normalizeSku js (some value)
  priceByProductId productId := (db.products.find productId).map MatchProduct.priceKes
  warehouseToLocationId := Series.setEntries []
    (db.warehouseMaps.map fun w => (normalizeSku js (some w.1), w.2))

/-- A stored line as a rebuild counts it: its own match, or else what its code comes to. -/
def countedLine (maps : RollupMaps) (timezone : Zone) (wanted : List Time) (sale : PosSale)
    (line : PosSaleLine) : Option StoredPosLine :=
  let key := normalizeSku js (some line.sku)
  if key ∈ maps.ignoredSkus ∨ tenantDayKey timezone sale.date ∉ wanted then none
  else do
    let productId ← line.productId.or (maps.skuToProductId.lookup key)
    let _ ← maps.priceByProductId productId
    return {
      productId
      qty := line.qty
      price := line.price
      subtotal := line.subtotal
      saleDate := sale.date
      warehouse := sale.warehouse }

/-- The lines a rebuild of some days counts: those of physical receipts dated near the days. -/
def linesToRebuild (maps : RollupMaps) (timezone : Zone) (days : List Time) (sales : SaleLedger) :
    List StoredPosLine :=
  let since := days.min?.getD 0 - 36 * HOUR_MS
  let until_ := days.max?.getD 0 + 36 * HOUR_MS
  let raw := sales.rows.filter fun s => s.channel = "physical" ∧ since ≤ s.date ∧ s.date < until_
  raw.flatMap fun s => s.lines.filterMap (countedLine js maps timezone days s)

/-- Whole-day replacement from the complete ledger; with it, how many rows were written. -/
def rebuildDays (maps : RollupMaps) (timezone : Zone) (dayKeys : List Time) (sales : SaleLedger)
    (history : SalesTable) : Option (SalesTable × ℕ) :=
  if dayKeys = [] then some (history, 0)
  else do
    let days := dayKeys.eraseDups
    let rows := aggregateStoredPosLines js maps (tenantDayKey timezone)
      (linesToRebuild js maps timezone days sales)
    let rebuilt ← (history.deleteMany (posOn days)).createManyBy CHUNK
      (rows.map PlannedSalesHistoryRow.row)
    return (rebuilt, rows.length)

/-- What an ingest reports. -/
structure PosIngestResult where
  salesIngested : ℕ := 0
  salesExcluded : ℕ := 0
  linesMatched : ℕ := 0
  linesUnmatched : ℕ := 0
  linesIgnored : ℕ := 0
  salesHistoryRows : ℕ := 0
  unmatchedSkus : ℕ := 0
  sampleUnmatchedSkus : List String := []
  deriving DecidableEq, Repr

/-- How an ingest ends. -/
inductive IngestOutcome
  /-- There is no such tenant. -/
  | unknownTenant
  /-- The window was ingested. -/
  | ingested (result : PosIngestResult)
  /-- The transaction threw and was rolled back. -/
  | threw
  deriving DecidableEq, Repr

/-- The transaction of an ingest: nothing when it throws. -/
def ingestWindow (db : PosDb) (timezone : Zone) (sales : List PosSaleInput) :
    Option (PosIngestResult × PosDb) := do
  let maps := db.rollupMaps js
  let plan ← planPosIngest js maps (tenantDayKey timezone) sales
  let externalIds := (sales.map PosSaleInput.externalId).eraseDups
  let previous := db.sales.rows.filter fun s => s.externalId ∈ externalIds
  let ledger ← (db.sales.deleteMany fun s => s.externalId ∈ externalIds).createMany plan.sales
  let dayKeys :=
    ((previous ++ plan.sales).map fun s => tenantDayKey timezone s.date).eraseDups
  let (salesHistory, rebuilt) ←
    rebuildDays js maps timezone dayKeys ledger db.salesHistory
  return (
    { salesIngested := plan.sales.length
      salesExcluded := plan.salesExcluded
      linesMatched := plan.linesMatched
      linesUnmatched := plan.linesUnmatched
      linesIgnored := plan.linesIgnored
      salesHistoryRows := rebuilt
      unmatchedSkus := plan.unmatched.length
      sampleUnmatchedSkus := (plan.unmatched.take 10).map UnmatchedSku.sku },
    { db with sales := ledger, salesHistory })

/-- Ingest a window of physical sales. -/
def ingestPosSales (db : PosDb) (sales : List PosSaleInput) : IngestOutcome × PosDb :=
  match db.tenant with
  | none => (.unknownTenant, db)
  | some timezone =>
      if sales = [] then (.ingested {}, db)
      else
        match ingestWindow js db timezone sales with
        | none => (.threw, db)
        | some (result, next) => (.ingested result, next)

/-- The rebuild of some days with what the tables hold. -/
def repairDays (db : PosDb) (timezone : Zone) (days : List Time) : Option (PosDb × ℕ) := do
  let (salesHistory, rows) ←
    rebuildDays js (db.rollupMaps js) timezone days db.sales db.salesHistory
  return ({ db with salesHistory }, rows)

/-- The days of a repair: today and the days before it. -/
def trailingDayKeys (timezone : Zone) (trailingDays : ℤ) (now : Time) : List Time :=
  (List.range trailingDays.toNat).map fun i : ℕ => tenantDayKey timezone now - i * DAY_MS

/-- Repair every local day in the recent window: the repaired tables, and how many rows were
written. Nothing when the window is not allowed, there is no tenant, or the repair throws. -/
def healPosRollup (db : PosDb) (trailingDays : ℤ) (now : Time) : Option (PosDb × ℕ) :=
  if trailingDays < 1 ∨ 366 < trailingDays then none
  else do
    let timezone ← db.tenant
    repairDays js db timezone (trailingDayKeys timezone trailingDays now)

end Code

/-! ## The lines a rebuild counts -/

section Counts

variable {js : Js} {maps : RollupMaps} {timezone : Zone} {days : List Time} {sales : SaleLedger}
  {productId : ProductId} {day : Time}

variable (js maps) in
/-- What a line counts for when it counts for a product. -/
def RollupMaps.counted (productId : ProductId) (rung : PosSale × PosSaleLine) : Counted where
  quantity := rung.2.qty
  revenueKes := lineRevenue rung.2.qty (some rung.2.price) (some rung.2.subtotal)
    (maps.priceByProductId productId)
  locationId := maps.warehouseToLocationId.lookup (normalizeSku js rung.1.warehouse)

variable (js maps) in
/-- The product a stored line is for: its own match, or else what its code comes to. -/
def RollupMaps.productOf (line : PosSaleLine) : Option ProductId :=
  line.productId.or (maps.skuToProductId.lookup (normalizeSku js (some line.sku)))

variable (js maps timezone productId day) in
/-- A rebuild counts the line for the product on the day: its receipt is physical and of the
day, its code is not ignored, and it is for the product, which is in the catalogue. -/
def RollupMaps.Counts (rung : PosSale × PosSaleLine) : Prop :=
  rung.1.channel = "physical" ∧ tenantDayKey timezone rung.1.date = day ∧
    normalizeSku js (some rung.2.sku) ∉ maps.ignoredSkus ∧
      maps.productOf js rung.2 = some productId ∧ (maps.priceByProductId productId).isSome

instance (rung : PosSale × PosSaleLine) :
    Decidable (maps.Counts js timezone productId day rung) :=
  inferInstanceAs (Decidable (_ ∧ _))

variable (js maps timezone sales productId day) in
/-- What a rebuild counts for a product on a day. -/
def dayCounted : List Counted :=
  (sales.rungLines.filter fun rung => maps.Counts js timezone productId day rung).map
    (maps.counted js productId)

/-- A receipt of one of the days is dated near the days. -/
theorem near_of_mem {date : Time} (h : tenantDayKey timezone date ∈ days) :
    days.min?.getD 0 - 36 * HOUR_MS ≤ date ∧ date < days.max?.getD 0 + 36 * HOUR_MS := by
  obtain ⟨hearly, hlate⟩ := Sales.tenantDayKey_le timezone date
  have hhour := Sales.hourMs_pos
  have hday : DAY_MS = 24 * HOUR_MS := by decide
  have hmin : days.min?.getD 0 ≤ tenantDayKey timezone date := by
    cases hmin : days.min? with
    | none =>
        rw [List.min?_eq_none_iff.mp hmin] at h
        exact absurd h List.not_mem_nil
    | some m => exact (List.min?_eq_some_iff.mp hmin).2 _ h
  have hmax : tenantDayKey timezone date ≤ days.max?.getD 0 := by
    cases hmax : days.max? with
    | none =>
        rw [List.max?_eq_none_iff.mp hmax] at h
        exact absurd h List.not_mem_nil
    | some m => exact (List.max?_eq_some_iff.mp hmax).2 _ h
  constructor
  · linarith
  · linarith

/-- The lines that are counted, as they are counted. -/
theorem countedLine_eq_some {sale : PosSale} {line : PosSaleLine} {stored : StoredPosLine} :
    countedLine js maps timezone days sale line = some stored ↔
      normalizeSku js (some line.sku) ∉ maps.ignoredSkus ∧ tenantDayKey timezone sale.date ∈ days ∧
        ∃ productId, maps.productOf js line = some productId ∧
          (maps.priceByProductId productId).isSome ∧
            stored =
              { productId
                qty := line.qty
                price := line.price
                subtotal := line.subtotal
                saleDate := sale.date
                warehouse := sale.warehouse } := by
  unfold countedLine RollupMaps.productOf
  dsimp only
  by_cases hskip : normalizeSku js (some line.sku) ∈ maps.ignoredSkus ∨
      tenantDayKey timezone sale.date ∉ days
  · rw [if_pos hskip]
    constructor
    · intro h
      cases h
    · rintro ⟨hkey, hday, _⟩
      exact absurd hskip (by simp [hkey, hday])
  · rw [if_neg hskip]
    rw [not_or, not_not] at hskip
    simp only [Option.bind_eq_bind, Option.bind_eq_some_iff, Option.pure_def,
      Option.isSome_iff_exists, Option.some.injEq]
    constructor
    · rintro ⟨productId, hp, price, hprice, rfl⟩
      exact ⟨hskip.1, hskip.2, productId, hp, ⟨price, hprice⟩, rfl⟩
    · rintro ⟨_, _, productId, hp, ⟨price, hprice⟩, rfl⟩
      exact ⟨productId, hp, price, hprice, rfl⟩

/-- The lines a rebuild counts, line by line. -/
theorem linesToRebuild_eq_filterMap :
    linesToRebuild js maps timezone days sales = sales.rungLines.filterMap fun rung =>
      if rung.1.channel = "physical" then countedLine js maps timezone days rung.1 rung.2
      else none := by
  unfold linesToRebuild SaleLedger.rungLines
  dsimp only
  induction sales.rows with
  | nil => rfl
  | cons s rows ih =>
      rw [List.flatMap_cons, List.filterMap_append, ← ih, List.filterMap_map]
      by_cases hraw : s.channel = "physical" ∧ days.min?.getD 0 - 36 * HOUR_MS ≤ s.date ∧
          s.date < days.max?.getD 0 + 36 * HOUR_MS
      · rw [List.filter_cons_of_pos (by simpa using hraw), List.flatMap_cons]
        congr 1
        refine List.filterMap_congr fun l _ => ?_
        simp [hraw.1]
      · -- a receipt that is not read is not physical, or of none of the days
        rw [List.filter_cons_of_neg (by simpa using hraw)]
        have hnone : s.lines.filterMap
            ((fun rung : PosSale × PosSaleLine => if rung.1.channel = "physical" then
              countedLine js maps timezone days rung.1 rung.2 else none) ∘
                fun l => (s, l)) = [] := by
          refine List.filterMap_eq_nil_iff.mpr fun l _ => ?_
          by_cases hphysical : s.channel = "physical"
          · simp only [Function.comp_apply, if_pos hphysical]
            refine Option.eq_none_iff_forall_ne_some.mpr fun stored hstored => hraw ?_
            exact ⟨hphysical, near_of_mem (countedLine_eq_some.mp hstored).2.1⟩
          · simp only [Function.comp_apply, if_neg hphysical]
        rw [hnone, List.nil_append]

/-- What a rebuild counts for a product on one of its days. -/
theorem valuesAt_linesToRebuild (hday : day ∈ days) :
    Series.valuesAt ((linesToRebuild js maps timezone days sales).map
        (storedEntry js maps (tenantDayKey timezone))) (productId, day)
      = dayCounted js maps timezone sales productId day := by
  have hright : dayCounted js maps timezone sales productId day
      = sales.rungLines.filterMap fun rung =>
          if maps.Counts js timezone productId day rung then some (maps.counted js productId rung)
          else none := by
    rw [dayCounted, ← List.filterMap_eq_map, List.filterMap_filter]
    simp only [decide_eq_true_eq, Function.comp_apply]
  rw [Series.valuesAt_eq_filterMap, linesToRebuild_eq_filterMap, List.filterMap_map,
    List.filterMap_filterMap, hright]
  refine List.filterMap_congr fun rung _ => ?_
  by_cases hcounts : maps.Counts js timezone productId day rung
  · have hline := countedLine_eq_some.mpr ⟨hcounts.2.2.1, hcounts.2.1.symm ▸ hday, productId,
      hcounts.2.2.2.1, hcounts.2.2.2.2, rfl⟩
    rw [if_pos hcounts, if_pos hcounts.1, hline, Option.bind_some, Function.comp_apply, if_pos]
    · rfl
    · exact Prod.ext rfl hcounts.2.1
  · rw [if_neg hcounts]
    refine Option.eq_none_iff_forall_ne_some.mpr fun c hc => hcounts ?_
    obtain ⟨stored, hstored, hc⟩ := Option.bind_eq_some_iff.mp hc
    by_cases hphysical : rung.1.channel = "physical"
    · rw [if_pos hphysical] at hstored
      obtain ⟨hkey, _, p, hp, hprice, rfl⟩ := countedLine_eq_some.mp hstored
      rw [Function.comp_apply] at hc
      split at hc
      case isTrue heq =>
          obtain ⟨rfl, hrung⟩ := Prod.mk.inj heq
          exact ⟨hphysical, hrung, hkey, hp, hprice⟩
      case isFalse => cases hc
    · rw [if_neg hphysical] at hstored
      cases hstored

end Counts

/-! ## What a rebuild leaves -/

section Rebuilt

variable {js : Js} {maps : RollupMaps} {timezone : Zone} {days : List Time} {sales : SaleLedger}
  {history : SalesTable}

/-- The rows of a product and day in the channel `pos`. -/
def posRows (t : SalesTable) (productId : ProductId) (day : Time) : List SalesHistory :=
  t.rows.filter fun r => r.channel = .pos ∧ r.productId = productId ∧ r.date = day

/-- The rows of the other channels. -/
def otherRows (t : SalesTable) : List SalesHistory :=
  t.rows.filter fun r => r.channel ≠ .pos

/-- No two rows of lines clash. -/
theorem pairwise_rows_rollupRows (entries : List ((ProductId × Time) × Counted)) :
    ((rollupRows entries).map PlannedSalesHistoryRow.row).Pairwise fun r r' => ¬ r.Clash r' := by
  rw [List.pairwise_map]
  refine (List.pairwise_map.mp (nodup_keys_rollupRows entries)).imp fun hne hclash => hne ?_
  exact Prod.ext hclash.1 hclash.2.1

/-- The written row of one product and day. -/
theorem filter_rows_rollupRows (entries : List ((ProductId × Time) × Counted))
    (productId : ProductId) (day : Time) :
    ((rollupRows entries).map PlannedSalesHistoryRow.row).filter
        (fun r => r.channel = .pos ∧ r.productId = productId ∧ r.date = day)
      = ((dayRow productId day (Series.valuesAt entries (productId, day))).map
          PlannedSalesHistoryRow.row).toList := by
  rw [Option.toList_map, ← filter_rollupRows, List.filter_map]
  refine congrArg _ (List.filter_congr fun r _ => ?_)
  exact decide_eq_decide.mpr (and_iff_right rfl)

variable (js maps timezone days sales) in
/-- The rows a rebuild writes. -/
def rebuiltRows : List SalesHistory :=
  (aggregateStoredPosLines js maps (tenantDayKey timezone)
    (linesToRebuild js maps timezone days sales)).map PlannedSalesHistoryRow.row

/-- A rebuild writes rows of its days only. -/
theorem mem_rebuiltRows {r : SalesHistory} (h : r ∈ rebuiltRows js maps timezone days sales) :
    r.channel = .pos ∧ r.date ∈ days := by
  obtain ⟨planned, hplanned, rfl⟩ := List.mem_map.mp h
  obtain ⟨entry, hentry, hkey⟩ := List.mem_map.mp (key_mem_of_mem_rollupRows hplanned)
  obtain ⟨line, hline, rfl⟩ := List.mem_map.mp hentry
  rw [linesToRebuild_eq_filterMap, List.mem_filterMap] at hline
  obtain ⟨rung, _, hrung⟩ := hline
  have hday : tenantDayKey timezone line.saleDate = planned.dayKey := congrArg Prod.snd hkey
  refine ⟨rfl, ?_⟩
  change planned.dayKey ∈ days
  rw [← hday]
  split at hrung
  · obtain ⟨_, hmem, _, _, _, rfl⟩ := countedLine_eq_some.mp hrung
    exact hmem
  · cases hrung

/-- A rebuild goes through: it takes the rows of its days away and writes its own. -/
theorem rebuildDays_eq_some (js : Js) (maps : RollupMaps) (timezone : Zone) (days : List Time)
    (sales : SaleLedger) (history : SalesTable) :
    ∃ rebuilt n, rebuildDays js maps timezone days sales history = some (rebuilt, n) ∧
      rebuilt.rows = (history.rows.filter fun r => !posOn days r)
        ++ rebuiltRows js maps timezone days.eraseDups sales := by
  have hmem : ∀ d : Time, d ∈ days.eraseDups ↔ d ∈ days := fun _ => List.mem_eraseDups
  by_cases hdays : days = []
  · subst hdays
    have hnil : rebuiltRows js maps timezone ([] : List Time).eraseDups sales = [] :=
      List.eq_nil_iff_forall_not_mem.mpr fun r hr =>
        absurd ((hmem _).mp (mem_rebuiltRows hr).2) List.not_mem_nil
    refine ⟨history, 0, if_pos rfl, ?_⟩
    rw [hnil, List.append_nil]
    exact (List.filter_eq_self.mpr fun r _ => by simp [posOn]).symm
  · have hnew : ∀ r ∈ (history.deleteMany (posOn days.eraseDups)).rows,
        ∀ r' ∈ rebuiltRows js maps timezone days.eraseDups sales, ¬ r.Clash r' := by
      intro r hr r' hr' hclash
      obtain ⟨hpos, hday⟩ := mem_rebuiltRows hr'
      have hkept := (List.mem_filter.mp hr).2
      simp [posOn, hclash.2.2.1, hpos, hclash.2.1, (hmem _).mp hday] at hkept
    have hpair : (rebuiltRows js maps timezone days.eraseDups sales).Pairwise
        fun r r' => ¬ r.Clash r' := pairwise_rows_rollupRows _
    obtain ⟨rebuilt, hrebuilt, hrows⟩ :=
      Sales.SalesTable.createManyBy_eq_some (by decide : 0 < CHUNK) hpair hnew
    refine ⟨rebuilt, (aggregateStoredPosLines js maps (tenantDayKey timezone)
      (linesToRebuild js maps timezone days.eraseDups sales)).length, ?_, ?_⟩
    · rw [rebuildDays, if_neg hdays]
      simp only [Option.bind_eq_bind]
      rw [← rebuiltRows, hrebuilt]
      rfl
    · rw [hrows, Sales.SalesTable.rows_deleteMany]
      congr 1
      refine List.filter_congr fun r _ => ?_
      simp [posOn, hmem]

/-- So does a repair. -/
theorem repairDays_eq_some (js : Js) (db : PosDb) (timezone : Zone) (days : List Time) :
    ∃ repaired n, repairDays js db timezone days = some (repaired, n) := by
  obtain ⟨rebuilt, n, hrebuilt, _⟩ :=
    rebuildDays_eq_some js (db.rollupMaps js) timezone days db.sales db.salesHistory
  refine ⟨{ db with salesHistory := rebuilt }, n, ?_⟩
  rw [repairDays, hrebuilt]
  rfl

/-- A repair of an allowed window is a repair of its days. -/
theorem healPosRollup_eq_repairDays {db : PosDb} {trailingDays : ℤ} {now : Time}
    (htenant : db.tenant = some timezone) (h : 1 ≤ trailingDays ∧ trailingDays ≤ 366) :
    healPosRollup js db trailingDays now
      = repairDays js db timezone (trailingDayKeys timezone trailingDays now) := by
  have hwindow : ¬ (trailingDays < 1 ∨ 366 < trailingDays) := by
    rw [not_or, not_lt, not_lt]
    exact h
  rw [healPosRollup, if_neg hwindow, htenant]
  rfl

/-- A rebuild of its days in the channel `pos`: each product's row of the lines that count. -/
theorem posRows_rebuildDays {rebuilt : SalesTable} {n : ℕ}
    (h : rebuildDays js maps timezone days sales history = some (rebuilt, n))
    (productId : ProductId) {day : Time} (hday : day ∈ days) :
    posRows rebuilt productId day
      = ((dayRow productId day (dayCounted js maps timezone sales productId day)).map
          PlannedSalesHistoryRow.row).toList := by
  obtain ⟨rebuilt', n', h', hrows⟩ := rebuildDays_eq_some js maps timezone days sales history
  obtain ⟨rfl, rfl⟩ : rebuilt' = rebuilt ∧ n' = n := by simpa [h'] using h
  have hold : (history.rows.filter fun r => !posOn days r).filter
      (fun r => r.channel = .pos ∧ r.productId = productId ∧ r.date = day) = [] := by
    rw [List.filter_filter, List.filter_eq_nil_iff]
    intro r _ hr
    simp only [posOn, Bool.and_eq_true, decide_eq_true_eq, Bool.not_eq_true',
      decide_eq_false_iff_not] at hr
    exact hr.2 ⟨hr.1.1, hr.1.2.2 ▸ hday⟩
  have hmem : day ∈ days.eraseDups := List.mem_eraseDups.mpr hday
  have hnew : (rebuiltRows js maps timezone days.eraseDups sales).filter
      (fun r => r.channel = .pos ∧ r.productId = productId ∧ r.date = day)
        = ((dayRow productId day (dayCounted js maps timezone sales productId day)).map
            PlannedSalesHistoryRow.row).toList := by
    rw [← valuesAt_linesToRebuild hmem]
    exact filter_rows_rollupRows _ productId day
  rw [posRows, hrows, List.filter_append, hold, List.nil_append, hnew]

/-- A rebuild leaves the rows of other days. -/
theorem posRows_rebuildDays_of_notMem {rebuilt : SalesTable} {n : ℕ}
    (h : rebuildDays js maps timezone days sales history = some (rebuilt, n))
    (productId : ProductId) {day : Time} (hday : day ∉ days) :
    posRows rebuilt productId day = posRows history productId day := by
  obtain ⟨rebuilt', n', h', hrows⟩ := rebuildDays_eq_some js maps timezone days sales history
  obtain ⟨rfl, rfl⟩ : rebuilt' = rebuilt ∧ n' = n := by simpa [h'] using h
  have hnew : (rebuiltRows js maps timezone days.eraseDups sales).filter
      (fun r => r.channel = .pos ∧ r.productId = productId ∧ r.date = day) = [] := by
    rw [List.filter_eq_nil_iff]
    intro r hr hsame
    obtain ⟨_, _, rfl⟩ := of_decide_eq_true hsame
    exact hday (List.mem_eraseDups.mp (mem_rebuiltRows hr).2)
  rw [posRows, hrows, List.filter_append, hnew, List.append_nil, List.filter_filter, posRows]
  refine List.filter_congr fun r _ => ?_
  by_cases hsame : r.channel = .pos ∧ r.productId = productId ∧ r.date = day
  · simp [hsame, posOn, hday]
  · simp [hsame]

/-- A rebuild leaves the rows of other channels. -/
theorem otherRows_rebuildDays {rebuilt : SalesTable} {n : ℕ}
    (h : rebuildDays js maps timezone days sales history = some (rebuilt, n)) :
    otherRows rebuilt = otherRows history := by
  obtain ⟨rebuilt', n', h', hrows⟩ := rebuildDays_eq_some js maps timezone days sales history
  obtain ⟨rfl, rfl⟩ : rebuilt' = rebuilt ∧ n' = n := by simpa [h'] using h
  have hnew : (rebuiltRows js maps timezone days.eraseDups sales).filter
      (fun r => r.channel ≠ .pos) = [] := by
    rw [List.filter_eq_nil_iff]
    intro r hr hother
    exact of_decide_eq_true hother (mem_rebuiltRows hr).1
  rw [otherRows, hrows, List.filter_append, hnew, List.append_nil, List.filter_filter, otherRows]
  refine List.filter_congr fun r _ => ?_
  by_cases hpos : r.channel = .pos
  · simp [hpos]
  · simp [posOn, hpos]

end Rebuilt

end Restock.Pos
