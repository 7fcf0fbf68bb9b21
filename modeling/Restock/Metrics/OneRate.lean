import Restock.Forecast.PastDays
import Restock.Forecast.RunGuarantees
import Restock.Plan.BuyList
import Restock.Sales.TradingDay

/-!
# One run rate

The stock screen and the plan both show how fast a product sells: the shared metric set of
`apps/web/lib/metrics` recomputes the rate with inputs of its own, the plan reads back what the last
run stored. Each of the two queries the state of the tenant by itself, and asks for the run rate on
a day of its own. The two ask the same question when the trading day of the tenant is the day of the
run, no past day is excluded for the product, its class forecasts by the run rate, and both load the
same of its past. Then they give the same answer unless the run lifted the rate to the floor of the
class.

* `Shop`, `Shop.load` — the state, and what the read phase of a run loads of it;
* `runShop` — the state a completed run leaves;
* `getCatalogueMetrics` — the metrics of every product;
* `storedRunRate`, `OneRunRate` — the rate a run stored, and that the screen shows it;
* `SameQuestion` — what makes the two ask the same question;
* `LiftedToFloor` — that the rate is below its floor;
* `oneRunRate_iff` — that the rates agree exactly where none is.

The zone of the tenant is the one its name, or the default where it has none, stands for.
-/

namespace Restock.Metrics

open Forecast (ActivePromo BaselineMethod DAY_MS ForecastInput HISTORY_DAYS Js LOOK_BACK_DAYS
  MonthlyContextRow NO_STOCKOUT_DAYS NonePast OwnerPriorFacts PredictionRow ProductForecastInput
  RunFacts RunProduct SaleRow SalesPoint SameStockouts TenantConfig dayKeyOf daysBefore
  daysOfStockRemaining runForecast runRateDaily)
open Plan (PlanPoLine)
open Sales (Zone tenantDayKey)

/-! ## The state of a tenant -/

/-- `NOT_SELLING_STATUSES`. -/
def NOT_SELLING_STATUSES : List String :=
  ["draft", "archived"]

/-- The columns of `Product` that a run and the metrics read. -/
structure CatalogueProduct extends RunProduct where
  costKes : ℚ := 0
  active : Bool := true
  notForSale : Bool := false
  shopifyStatus : String := "active"
  missingFromShopifyAt : Option Time := none
  abcCategory : Option String := none
  deriving DecidableEq, Repr

/-- `BUYABLE_PRODUCT_WHERE`. -/
def CatalogueProduct.buyable (p : CatalogueProduct) : Bool :=
  p.active ∧ ¬ p.notForSale ∧ p.missingFromShopifyAt = none ∧
    p.shopifyStatus ∉ NOT_SELLING_STATUSES

/-- `InventorySnapshot`. -/
structure InventorySnapshot where
  productId : ProductId
  date : Time
  onHand : ℚ
  deriving DecidableEq, Repr

/-- The columns of `Promo` that a run reads. -/
structure Promo extends ActivePromo where
  startDate : Time
  endDate : Time
  deletedAt : Option Time := none
  deriving DecidableEq, Repr

/-- The tables of a tenant. A product has one snapshot a day, taken at its UTC midnight. -/
structure Shop where
  timezone : Zone
  products : List CatalogueProduct := []
  config : TenantConfig := {}
  promos : List Promo := []
  closures : List (LocationId × Time) := []
  locations : List Location := []
  monthlyContext : List MonthlyContextRow := []
  sales : List SaleRow := []
  priorRows : List OwnerPriorFacts := []
  snapshots : List InventorySnapshot := []
  poLines : List PlanPoLine := []
  predictions : List PredictionRow := []
  productIds : (products.map fun p => p.id).Nodup
  snapshotDays : ∀ s ∈ snapshots, DAY_MS ∣ s.date
  oneSnapshot : (snapshots.map fun s => (s.productId, s.date)).Nodup

namespace Shop

variable (now : Time) (shop : Shop)

/-- The date of the first snapshot. -/
def firstSnapshot : Option Time :=
  (shop.snapshots.map InventorySnapshot.date).min?

/-- What the read phase of a run loads. -/
def load : RunFacts :=
  let historySince := daysBefore now HISTORY_DAYS
  { products := (shop.products.filter CatalogueProduct.buyable).map CatalogueProduct.toRunProduct
    config := shop.config
    promos := (shop.promos.filter fun p =>
      p.deletedAt = none ∧ p.startDate ≤ now ∧ now ≤ p.endDate).map Promo.toActivePromo
    pastPromos := (shop.promos.filter fun p =>
      p.deletedAt = none ∧ p.startDate ≤ now ∧ historySince ≤ p.endDate).map fun p =>
        { start := p.startDate, stop := p.endDate, scope := p.scope, scopeValue := p.scopeValue }
    closures := shop.closures.filter fun c => historySince ≤ c.2
    locations := shop.locations
    monthlyContext := shop.monthlyContext.filter fun m => m.expectedMultiplier ≠ none
    sales := shop.sales.filter fun row => historySince ≤ row.date
    priorRows := shop.priorRows.filter fun p => p.revokedAt = none
    emptyShelfDays := (shop.snapshots.filter fun s => historySince ≤ s.date ∧ s.onHand ≤ 0).map
      fun s => (s.productId, s.date)
    firstSnapshot := shop.firstSnapshot
    lastGood := shop.predictions ≠ []
    poLines := (shop.poLines.filter fun line =>
      line.status ∈ [.sent, .partiallyReceived] ∧ line.deleted = false).map
        PlanPoLine.toOutstandingLine }

/-- The class a run writes to a product it ranked, or takes from one it did not. -/
def classify (p : CatalogueProduct) : CatalogueProduct :=
  if p.buyable then { p with abcCategory := ((shop.load now).abcByProduct now).lookup p.id } else p

@[simp] theorem classify_id (p : CatalogueProduct) : (shop.classify now p).id = p.id := by
  unfold classify
  split <;> rfl

end Shop

/-- The state a completed run leaves: its predictions replace those of the run before, and its
classes are written; nothing when the run is held. -/
def runShop (js : Js) (now : Time) (shop : Shop) : Option Shop :=
  (runForecast js now (shop.load now)).map fun rows =>
    { shop with
      products := shop.products.map (shop.classify now)
      predictions := rows
      productIds := by
        rw [List.map_map]
        simpa only [Function.comp_def, Shop.classify_id] using shop.productIds }

/-! ## Metrics -/

/-- `METRIC_WINDOWS`. -/
def METRIC_WINDOWS : List ℤ :=
  [30, 90, 365]

/-- `runRate`. -/
def runRate (history : List SalesPoint) (asOf : Time) (stockoutDates : List Time)
    (snapshotsSince : Option Time) (baselineMethod : BaselineMethod) (bigBuyerDamping : Bool) : ℚ :=
  runRateDaily history asOf stockoutDates [] snapshotsSince baselineMethod bigBuyerDamping

/-- `coverDays`. -/
def coverDays (sellableOnHand dailyRunRate : ℚ) : ℤ :=
  min (daysOfStockRemaining sellableOnHand dailyRunRate) NO_STOCKOUT_DAYS

/-- `revenueForWindow`. -/
def revenueForWindow (history : List SalesPoint) (windowDays : ℤ) (asOf : Time) : ℚ :=
  ((history.filter fun p => asOf - windowDays * DAY_MS ≤ p.date).map SalesPoint.revenueKes).sum

/-- `revenueByWindow`. -/
def revenueByWindow (history : List SalesPoint) (asOf : Time) : List (ℤ × ℚ) :=
  METRIC_WINDOWS.map fun windowDays => (windowDays, revenueForWindow history windowDays asOf)

/-- `moneyAtRest`. -/
def moneyAtRest (costKes sellableOnHand : ℚ) : ℚ :=
  costKes * max 0 sellableOnHand

/-- `ProductMetrics`. -/
structure ProductMetrics where
  productId : ProductId
  sellableOnHand : ℚ
  runRate : ℚ
  coverDays : ℤ
  revenueKes : List (ℤ × ℚ)
  moneyAtRestKes : ℚ
  abc : Option String
  deriving DecidableEq, Repr

namespace Shop

variable (shop : Shop) (asOf : Time)

/-- From when on the metrics load sales and snapshots. -/
def metricsSince : Time :=
  dayKeyOf asOf - (HISTORY_DAYS + 1) * DAY_MS

/-- `historyByProduct.get`. -/
def historyOf (productId : ProductId) : List SalesPoint :=
  (shop.sales.filter fun row => metricsSince asOf ≤ row.date ∧ row.productId = productId).map
    SaleRow.toSalesPoint

/-- `stockoutsByProduct.get`. -/
def stockoutsOf (productId : ProductId) : List Time :=
  (shop.snapshots.filter fun s =>
    metricsSince asOf ≤ s.date ∧ s.onHand ≤ 0 ∧ s.productId = productId).map InventorySnapshot.date

/-- The run rate of a product on the trading day of `asOf`. -/
def runRateOf (productId : ProductId) : ℚ :=
  runRate (shop.historyOf asOf productId) (tenantDayKey shop.timezone asOf)
    (shop.stockoutsOf asOf productId) shop.firstSnapshot
    (if shop.config.baselineMethod = some "median" then .median else .mean)
    (shop.config.bigBuyerDamping ≠ some false)

end Shop

/-- `getCatalogueMetrics`. -/
def getCatalogueMetrics (shop : Shop) (asOf : Time) : List ProductMetrics :=
  shop.products.map fun p =>
    let rate := shop.runRateOf asOf p.id
    { productId := p.id
      sellableOnHand := p.currentStock
      runRate := rate
      coverDays := coverDays p.currentStock rate
      revenueKes := revenueByWindow (shop.historyOf asOf p.id) asOf
      moneyAtRestKes := moneyAtRest p.costKes p.currentStock
      abc := p.abcCategory }

/-! ## What the two ask -/

section Definitions

variable (js : Js) (now asOf : Time) (shop : Shop)

/-- The rate of a prediction: what the plan shows, up to its rounding. -/
def storedRunRate (row : PredictionRow) : ℚ :=
  row.fields.layer1Forecast30d / 30

/-- No demand override applies to a product. -/
def NoOverride (product : RunProduct) : Prop :=
  ((shop.load now).decisionFor js now ((shop.load now).excludedByProduct js now) product).override =
    none

/-- The screen shows the rate that a run stored, for every product without an override. -/
def OneRunRate (shop' : Shop) : Prop :=
  ∀ product ∈ (shop.load now).products, NoOverride js now shop product →
    ∀ m ∈ getCatalogueMetrics shop' asOf, m.productId = product.id →
      ∀ row ∈ shop'.predictions, row.productId = product.id → m.runRate = storedRunRate row

/-- What a run forecasts a product from, when nothing overrides its sales. -/
def layeredInput (product : RunProduct) : ForecastInput :=
  ((shop.load now).inputFor now ((shop.load now).excludedByProduct js now) product none).layered

/-- The product has sold nothing on a completed day that either loads. -/
def Unsold (product : RunProduct) : Prop :=
  ∀ row ∈ shop.sales, row.productId = product.id →
    (Shop.metricsSince asOf ≤ row.date → tenantDayKey shop.timezone asOf ≤ row.date) ∧
      (daysBefore now HISTORY_DAYS ≤ row.date → dayKeyOf now ≤ row.date)

/-- The screen asks about the sales of a product what the run asked. -/
structure Aligned (product : RunProduct) : Prop where
  /-- The trading day of the tenant is the day of the run. -/
  day : tenantDayKey shop.timezone asOf = dayKeyOf now
  /-- No day before it is in a promo of the product or in a full closure. -/
  excluded : NonePast (dayKeyOf now) ((shop.load now).excludedByProduct js now product)
  /-- The class forecasts by the run rate, or the baseline is the median of every class. -/
  demand : (layeredInput js now shop product).demandMethod = some .runRate ∨
    shop.config.baselineMethod = some "median"
  /-- Both load the same sales. -/
  sales : ∀ row ∈ shop.sales, row.productId = product.id →
    (Shop.metricsSince asOf ≤ row.date ↔ daysBefore now HISTORY_DAYS ≤ row.date)
  /-- The run loads every empty shelf of the year. -/
  shelf : ∀ s ∈ shop.snapshots, s.productId = product.id → s.onHand ≤ 0 →
    daysBefore (dayKeyOf now) LOOK_BACK_DAYS ≤ s.date → daysBefore now HISTORY_DAYS ≤ s.date

/-- The two ask the same question about a product, or one that has only one answer. -/
def SameQuestion (product : RunProduct) : Prop :=
  Unsold now asOf shop product ∨ Aligned js now asOf shop product

/-- The rate of the sales of a product is below the floor its class has in force, and below what the
product has shown. -/
def LiftedToFloor (product : RunProduct) : Prop :=
  let input := layeredInput js now shop product
  input.rawHistoryDailyRate now < min (input.abcFloor now)
    ((Forecast.demonstratedDailyRate (input.demandHistory now)).getD (input.abcFloor now))

end Definitions

/-! ## What they are given -/

section Inputs

variable {js : Js} {now asOf : Time} {shop : Shop} {product : RunProduct}

/-- The history a run loads of a product. -/
theorem load_historyOf :
    (shop.load now).historyOf product = (shop.sales.filter fun row =>
      daysBefore now HISTORY_DAYS ≤ row.date ∧ row.productId = product.id).map
        SaleRow.toSalesPoint := by
  rw [RunFacts.historyOf, Shop.load, List.filter_filter]
  congr 1
  refine List.filter_congr fun row _ => ?_
  rw [← Bool.decide_and, decide_eq_decide, and_comm]

/-- The empty shelves a run loads of a product. -/
theorem load_stockoutsOf :
    (shop.load now).stockoutsOf product = (shop.snapshots.filter fun s =>
      daysBefore now HISTORY_DAYS ≤ s.date ∧ s.onHand ≤ 0 ∧ s.productId = product.id).map
        InventorySnapshot.date := by
  rw [RunFacts.stockoutsOf, Shop.load, List.filter_map, List.map_map, List.filter_filter]
  congr 1
  refine List.filter_congr fun s _ => ?_
  rw [Function.comp_apply, ← Bool.decide_and, decide_eq_decide, and_comm, and_assoc]

/-- Where both load the same sales the histories are equal. -/
theorem Aligned.historyOf_eq (h : Aligned js now asOf shop product) :
    shop.historyOf asOf product.id = (shop.load now).historyOf product := by
  rw [load_historyOf, Shop.historyOf]
  congr 1
  exact List.filter_congr fun row hrow => decide_eq_decide.mpr
    (and_congr_left fun hid => h.sales row hrow hid)

/-- The empty shelves of a product are days, each once. -/
theorem nodup_stockouts (test : InventorySnapshot → Prop) [DecidablePred test]
    (htest : ∀ s, test s → s.productId = product.id) :
    ((shop.snapshots.filter test).map InventorySnapshot.date).Nodup := by
  refine List.Nodup.of_map (fun date => (product.id, date)) ?_
  rw [List.map_map]
  have hpairs : (shop.snapshots.filter test).map ((fun date => (product.id, date)) ∘
      InventorySnapshot.date) =
        (shop.snapshots.filter test).map fun s => (s.productId, s.date) := by
    refine List.map_congr_left fun s hs => ?_
    rw [Function.comp_apply, htest s (of_decide_eq_true (List.mem_filter.mp hs).2)]
  rw [hpairs]
  exact shop.oneSnapshot.sublist (List.filter_sublist.map _)

/-- An empty shelf is proved by a snapshot. -/
theorem isSome_firstSnapshot {test : InventorySnapshot → Prop} [DecidablePred test]
    (h : (shop.snapshots.filter test).map InventorySnapshot.date ≠ []) :
    shop.firstSnapshot.isSome = true := by
  have hne : shop.snapshots.map InventorySnapshot.date ≠ [] := by
    intro hnil
    rw [List.map_eq_nil_iff] at hnil
    rw [hnil] at h
    exact h rfl
  rw [Shop.firstSnapshot, Option.isSome_iff_ne_none, Ne, List.min?_eq_none_iff]
  exact hne

/-- Both load the empty shelves of the year. -/
theorem Aligned.sameStockouts (h : Aligned js now asOf shop product) :
    SameStockouts (dayKeyOf now) shop.firstSnapshot (shop.stockoutsOf asOf product.id)
      ((shop.load now).stockoutsOf product) := by
  rw [load_stockoutsOf, Shop.stockoutsOf]
  refine ⟨?_, isSome_firstSnapshot, isSome_firstSnapshot⟩
  rw [List.filter_map, List.filter_map, List.filter_filter, List.filter_filter]
  congr 1
  refine List.filter_congr fun s hs => ?_
  rw [Function.comp_apply, ← Bool.decide_and, ← Bool.decide_and, decide_eq_decide]
  refine and_congr_right fun hrecent => and_congr_left fun hempty => ?_
  -- the screen goes back a day further, which makes up for a zone ahead of or behind UTC
  have hscreen : Shop.metricsSince asOf ≤ daysBefore (dayKeyOf now) LOOK_BACK_DAYS := by
    have hday := (Sales.tenantDayKey_le shop.timezone asOf).2
    have hkey := (Forecast.dayKeyOf_le asOf).1
    obtain ⟨a, ha⟩ := Forecast.dvd_dayKeyOf asOf
    obtain ⟨b, hb⟩ := Forecast.dvd_dayKeyOf now
    rw [h.day, hb] at hday
    rw [ha] at hkey
    rw [Shop.metricsSince, daysBefore, ha, hb]
    simp only [DAY_MS, Sales.HOUR_MS, LOOK_BACK_DAYS, HISTORY_DAYS] at hday hkey ⊢
    have hint : ∀ a b t : ℤ, t < 86400000 * b + 86400000 + 12 * 3600000 → 86400000 * a ≤ t →
        86400000 * a - (365 + 1) * 86400000 ≤ 86400000 * b - 365 * 86400000 := by
      omega
    exact hint a b asOf hday hkey
  exact iff_of_true (hscreen.trans hrecent) (h.shelf s hs hempty.2 hempty.1 hrecent)

end Inputs

/-! ## The two rates -/

section Rates

variable {js : Js} {now asOf : Time} {shop : Shop} {product : RunProduct}

/-- The day of a run is a day key. -/
theorem layeredInput_today : (layeredInput js now shop product).today now = dayKeyOf now := rfl

/-- Two that ask the same question find the same rate in the sales. -/
theorem Aligned.runRateOf_eq (h : Aligned js now asOf shop product) :
    shop.runRateOf asOf product.id =
      (layeredInput js now shop product).rawHistoryDailyRate now := by
  have htoday : DAY_MS ∣ dayKeyOf now := Forecast.dvd_dayKeyOf now
  set method := (layeredInput js now shop product).baselineMethod with hmethod
  set stockouts := (shop.load now).stockoutsOf product with hstockouts
  have hnodup : stockouts.Nodup := by
    rw [hstockouts, load_stockoutsOf]
    exact nodup_stockouts _ fun s hs => hs.2.2
  have hdays : ∀ d ∈ stockouts, DAY_MS ∣ d := by
    rw [hstockouts, load_stockoutsOf]
    intro d hd
    obtain ⟨s, hs, rfl⟩ := List.mem_map.mp hd
    exact shop.snapshotDays s (List.mem_filter.mp hs).1
  have hdemand : ((layeredInput js now shop product).demandMethod.getD .runRate) = .runRate ∨
      method = .median := by
    refine h.demand.imp (fun hrun => by rw [hrun]; rfl) fun hmedian => ?_
    exact if_pos hmedian
  -- the run caps bulk days before it leaves today out
  have hhistory : (layeredInput js now shop product).demandHistory now =
      (if (layeredInput js now shop product).bigBuyerDamping then
        (Forecast.debulkSeries ((shop.load now).historyOf product) (some (dayKeyOf now)) []).series
      else (shop.load now).historyOf product).filter fun p => p.date < dayKeyOf now := by
    rw [← h.excluded.debulkSeries htoday]
    rfl
  have hscreen : shop.runRateOf asOf product.id =
      Forecast.runRateDaily ((layeredInput js now shop product).demandHistory now) (dayKeyOf now)
        (shop.stockoutsOf asOf product.id) [] shop.firstSnapshot method false := by
    rw [hhistory, Shop.runRateOf, runRate, h.day, h.historyOf_eq,
      Forecast.runRateDaily_eq htoday]
    rfl
  rw [hscreen, Forecast.runRateDaily_of_sameStockouts htoday _ _ _ h.sameStockouts,
    ForecastInput.rawHistoryDailyRate, layeredInput_today,
    Forecast.demandRateFor_eq_runRateDaily htoday _ _ _ _ hdemand]
  exact (Forecast.runRateDaily_of_nonePast htoday _ _ _ h.excluded hnodup hdays).symm

/-- A product that sold nothing on a completed day has no rate on the screen. -/
theorem Unsold.runRateOf_eq (h : Unsold now asOf shop product) :
    shop.runRateOf asOf product.id = 0 := by
  have hday : DAY_MS ∣ tenantDayKey shop.timezone asOf := Forecast.dvd_dayKeyOf _
  have hnone : ∀ p ∈ shop.historyOf asOf product.id, tenantDayKey shop.timezone asOf ≤ p.date := by
    intro p hp
    obtain ⟨row, hrow, rfl⟩ := List.mem_map.mp hp
    obtain ⟨hmem, hloaded, hid⟩ : row ∈ shop.sales ∧ _ ∧ _ := by
      simpa only [List.mem_filter, decide_eq_true_iff] using hrow
    exact (h row hmem hid).1 hloaded
  have hempty : (shop.historyOf asOf product.id).filter
      (fun p => p.date < tenantDayKey shop.timezone asOf) = [] :=
    List.filter_eq_nil_iff.mpr fun p hp => by simpa using hnone p hp
  rw [Shop.runRateOf, runRate, Forecast.runRateDaily_eq hday]
  have hcompleted : ∀ damping : Bool, (if damping then
      (Forecast.debulkSeries (shop.historyOf asOf product.id)
        (some (tenantDayKey shop.timezone asOf)) []).series
      else shop.historyOf asOf product.id).filter
        (fun p => p.date < tenantDayKey shop.timezone asOf) = [] := by
    rintro (_ | _)
    · exact hempty
    · rw [if_pos rfl, Forecast.filter_debulkSeries hday, hempty]
      rfl
  rw [hcompleted, ← Forecast.demandRateFor_eq_runRateDaily hday _ _ _ _ (Or.inl rfl),
    Forecast.demandRateFor_nil]

/-- Nor has it one in the run. -/
theorem Unsold.demandHistory_eq (h : Unsold now asOf shop product) :
    (layeredInput js now shop product).demandHistory now = [] := by
  rw [Forecast.demandHistory_eq_nil_iff]
  intro p hp
  change p ∈ (shop.load now).historyOf product at hp
  rw [load_historyOf] at hp
  obtain ⟨row, hrow, rfl⟩ := List.mem_map.mp hp
  obtain ⟨hmem, hloaded, hid⟩ : row ∈ shop.sales ∧ _ ∧ _ := by
    simpa only [List.mem_filter, decide_eq_true_iff] using hrow
  exact (h row hmem hid).2 hloaded

/-- Two that ask the same question find the same rate in the sales, and the run lifts no rate of a
product that sold nothing. -/
theorem SameQuestion.runRateOf_eq (h : SameQuestion js now asOf shop product) :
    shop.runRateOf asOf product.id =
      (layeredInput js now shop product).rawHistoryDailyRate now := by
  rcases h with hunsold | haligned
  · rw [hunsold.runRateOf_eq, ForecastInput.rawHistoryDailyRate, hunsold.demandHistory_eq,
      Forecast.demandRateFor_nil]
  · exact haligned.runRateOf_eq

/-- A rate stays as it is exactly when it is not below what it would be lifted to. -/
theorem applyAbcRateFloor_eq_iff (rate : ℚ) (abc : Option String)
    (hadRecentSales shelfMostlyEmpty : Bool) (demonstratedRate : Option ℚ) :
    rate = Forecast.applyAbcRateFloor rate abc hadRecentSales shelfMostlyEmpty demonstratedRate ↔
      ¬ rate < min (Forecast.abcFloorFor abc hadRecentSales shelfMostlyEmpty)
        (demonstratedRate.getD (Forecast.abcFloorFor abc hadRecentSales shelfMostlyEmpty)) := by
  unfold Forecast.applyAbcRateFloor
  dsimp only
  rw [not_lt]
  split
  case isTrue hfloor => exact iff_of_true rfl ((min_le_left _ _).trans hfloor)
  case isFalse => rw [eq_comm, max_eq_left_iff]

variable (js now asOf shop product) in
/-- The row a run writes for a product whose sales nothing overrides has the rate of the sales,
lifted to the floor. -/
theorem storedRunRate_rowFor (hnone : NoOverride js now shop product) :
    storedRunRate
        ((shop.load now).rowFor js now ((shop.load now).excludedByProduct js now) product) =
      (layeredInput js now shop product).historyDailyRate now := by
  have hguard : ∀ (result : Forecast.ForecastResult) (ctx : Forecast.GuardContext),
      (Forecast.guardForecastResult result ctx).layer1Forecast30d = result.layer1Forecast30d := by
    intro result ctx
    unfold Forecast.guardForecastResult
    dsimp only
    split <;> rfl
  have hfields : ((shop.load now).rowFor js now ((shop.load now).excludedByProduct js now)
      product).fields = (shop.load now).firstPass js now
        ((shop.load now).excludedByProduct js now) product :=
    if_pos (Option.isNone_iff_eq_none.mpr hnone)
  rw [storedRunRate, hfields, RunFacts.firstPass]
  show (ProductForecastInput.result js now _).layer1Forecast30d / 30 = _
  rw [ProductForecastInput.result, if_neg (by exact Bool.false_ne_true), hguard]
  show (layeredInput js now shop product).historyDailyRate now * 30 / 30 = _
  rw [mul_div_cancel_right₀ _ (by norm_num)]

end Rates

/-! ## One rate -/

section OneRate

variable {js : Js} {now : Time} {shop shop' : Shop} (asOf : Time)

variable (js now shop) in
/-- A shop without a forecast gets one. -/
theorem exists_runShop (h : shop.predictions = []) :
    ∃ shop', runShop js now shop = some shop' := by
  have hheld : ¬ (((shop.load now).ingest now).stop ∧ (shop.load now).lastGood) := by
    intro hstop
    have hlast : decide (shop.predictions ≠ []) = true := hstop.2
    exact of_decide_eq_true hlast h
  exact ⟨_, Option.map_eq_some_iff.mpr ⟨_, if_neg hheld, rfl⟩⟩

/-- A product of a run is told by its id. -/
theorem eq_of_id_eq {product other : RunProduct} (hproduct : product ∈ (shop.load now).products)
    (hother : other ∈ (shop.load now).products) (hid : product.id = other.id) :
    product = other := by
  have hnodup : ((shop.load now).products.map RunProduct.id).Nodup := by
    rw [Shop.load, List.map_map]
    exact shop.productIds.sublist (List.filter_sublist.map _)
  exact List.inj_on_of_nodup_map hnodup hproduct hother hid

/-- The screen shows the rate of a product, and the run stored the one of its row. -/
theorem shown_eq_stored_iff (hrun : runShop js now shop = some shop') {product : RunProduct}
    (hproduct : product ∈ (shop.load now).products) :
    (∀ m ∈ getCatalogueMetrics shop' asOf, m.productId = product.id →
      ∀ row ∈ shop'.predictions, row.productId = product.id → m.runRate = storedRunRate row) ↔
        shop.runRateOf asOf product.id = storedRunRate ((shop.load now).rowFor js now
          ((shop.load now).excludedByProduct js now) product) := by
  obtain ⟨rows, hrows, rfl⟩ := Option.map_eq_some_iff.mp hrun
  have hwritten := Forecast.runForecast_eq_some hrows
  constructor
  · intro h
    obtain ⟨p, hp, rfl⟩ := List.mem_map.mp hproduct
    have hrow : (shop.load now).rowFor js now ((shop.load now).excludedByProduct js now)
        p.toRunProduct ∈ rows := by
      rw [hwritten]
      exact List.mem_map_of_mem hproduct
    have hshown := h _ (List.mem_map_of_mem (List.mem_map_of_mem (List.mem_filter.mp hp).1))
      (shop.classify_id now p) _ hrow rfl
    rw [← hshown]
    show shop.runRateOf asOf p.id = shop.runRateOf asOf (shop.classify now p).id
    rw [Shop.classify_id]
  · intro h m hm hid row hrow hrowId
    obtain ⟨p, _, rfl⟩ := List.mem_map.mp hm
    rw [hwritten] at hrow
    obtain ⟨other, hother, rfl⟩ := List.mem_map.mp hrow
    obtain rfl := eq_of_id_eq hproduct hother (Eq.symm hrowId)
    rw [← h, ← hid]
    rfl

end OneRate

/-! ## A shop that was closed for a day -/

/-- A shop in Nairobi that sold twenty units of its product on every day of a month. -/
def steadyShop : Shop where
  timezone := Sales.nairobi
  products := [{ id := 0 }]
  locations := [{ id := 0 }]
  sales := (List.range 30).map fun i : ℕ =>
    { productId := 0, date := -((i + 1) * DAY_MS), quantity := 20 }
  productIds := by decide
  snapshotDays := by decide
  oneSnapshot := by decide

/-- The same shop, which sold nothing on the third day back, when its only location was closed. -/
def closedShop : Shop :=
  { steadyShop with
    sales := steadyShop.sales.filter fun row => row.date ≠ -3 * DAY_MS
    closures := [(0, -3 * DAY_MS)] }

end Restock.Metrics
