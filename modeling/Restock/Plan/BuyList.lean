import Restock.Forecast.Run
import Restock.Purchasing.PoMath

/-!
# The buy list

The plan screen's list of `apps/web/lib/data/plan.ts`: the predictions of the latest run become
rows, those that are not to be bought are held back with a reason, and both lists are sorted. For a
member who may not see costs the rows are redacted and sorted by keys without a cost.

* `PlanFacts` — what the queries load;
* `buildRow` — the row of a prediction;
* `excludedReasonFor`, `notPlannedReasonFor` — why a row is held back;
* `byUrgencyCostAware`, `byUrgencyCostFree` — the two orders;
* `getBuyList`, `redactBuyList` — the list, and a list redacted later.

SKUs are compared by a collation into a linear order.
-/

namespace Restock.Plan

open Forecast (DAY_MS Js NO_STOCKOUT_DAYS OutstandingLine QtyExplanation ReorderInput coverDaysFor
  explainQty jsRound leadDaysFor outstandingUnits recommendedQty)

/-! ## What the queries load -/

/-- The columns of a supplier that the plan reads. -/
structure PlanSupplier where
  name : String
  leadTimeAvgDays : Option ℤ := none
  moq : ℤ := 1
  deriving DecidableEq, Repr

/-- The columns of a product that the plan reads. -/
structure PlanProduct where
  sku : String
  title : String := ""
  vendor : Option String := none
  priceKes : ℚ := 0
  costKes : ℚ := 0
  currentStock : ℚ := 0
  onOrder : ℤ := 0
  leadTimeDays : Option ℤ := none
  abcCategory : Option String := none
  customCategory : Option String := none
  supplier : Option PlanSupplier := none
  deriving DecidableEq, Repr

/-- A `Prediction` with its product. -/
structure PlanPrediction where
  id : ℕ
  productId : ProductId
  daysUntilStockout : ℤ
  urgency : String
  recommendedQty : ℚ
  finalForecast30d : ℚ := 0
  layer1Forecast30d : ℚ := 0
  safetyStock : ℚ := 0
  reasoning : String := ""
  confidenceWord : Option String := none
  coldStart : Option String := none
  borrowedFromProductId : Option ProductId := none
  /-- `explain_parts`, where it has a summary and a quantity. -/
  explainParts : Option QtyExplanation := none
  product : PlanProduct
  deriving DecidableEq, Repr

/-- A row of `SalesHistory` with its revenue. -/
structure RevenueRow where
  productId : ProductId
  date : Time
  revenueKes : ℚ
  deriving DecidableEq, Repr

/-- A row of the order queue, with the status of its purchase order and whether that is deleted. -/
structure PlanOrder where
  productId : Option ProductId
  status : OrderStatus
  receivedAt : Option Time := none
  purchaseOrder : Option (PoStatus × Bool) := none
  deriving DecidableEq, Repr

/-- A purchase order line, with the status of its order and whether that is deleted. -/
structure PlanPoLine extends OutstandingLine where
  status : PoStatus
  deleted : Bool := false
  deriving DecidableEq, Repr

/-- The latest run and what the list is built from. Every prediction has its own id. -/
structure PlanFacts where
  forecastRunId : String
  runDate : Time
  predictions : List PlanPrediction
  overrides : List (ProductId × ℤ) := []
  sales : List RevenueRow := []
  orders : List PlanOrder := []
  poLines : List PlanPoLine := []
  titles : List (ProductId × String) := []
  ids : (predictions.map PlanPrediction.id).Nodup

/-! ## Rows -/

/-- `BuyTier`. -/
inductive BuyTier
  | orderToday
  | thisWeek
  | canWait
  deriving DecidableEq, Repr

/-- `PlanConfidence`. -/
inductive PlanConfidence
  | sure
  | fairlySure
  | guessing
  deriving DecidableEq, Repr

/-- `PlanColdStart`. -/
inductive PlanColdStart
  | tooNew
  | borrowed
  deriving DecidableEq, Repr

/-- `PlannableReason`. -/
inductive PlannableReason
  | ok
  | missingCost
  | missingPrice
  | costExceedsPrice
  deriving DecidableEq, Repr

/-- `BuyListRow`. A row that is not redacted has its three cost fields. -/
structure BuyListRow where
  predictionId : ℕ
  productId : ProductId
  sku : String
  title : String
  vendor : Option String
  supplierName : Option String
  onHandUnits : ℚ
  onOrderUnits : ℤ
  daysUntilStockout : Option ℤ
  daysLeftToOrder : ℚ
  leadDays : ℚ
  /-- Milliseconds. -/
  orderByDate : ℚ
  urgency : String
  tier : BuyTier
  recommendedQty : ℚ
  overriddenQty : Option ℤ
  runRatePerDay : ℚ
  moq : ℤ
  leadFloored : Bool
  orderQty : ℤ
  abc : Option String
  category : Option String
  unitCostKes : Option ℚ
  lineTotalKes : Option ℚ
  priceKes : ℚ
  reasoning : String
  explain : Option QtyExplanation
  qtySummary : String
  confidence : Option PlanConfidence
  coldStart : Option PlanColdStart
  borrowedFromTitle : Option String
  plannable : PlannableReason
  atRiskKes : Option ℤ
  revenue30dKes : ℚ
  doubleOrderWarn : Bool
  deriving DecidableEq, Repr

/-- `ExcludedReason`. -/
inductive ExcludedReason
  | alreadyOrdered
  | unplannable
  | slowMover
  | tooNew
  | covered
  deriving DecidableEq, Repr

/-- `ExcludedRow`. -/
structure ExcludedRow where
  row : BuyListRow
  reason : ExcludedReason
  deriving DecidableEq, Repr

/-- `BuyList`. -/
structure BuyList where
  forecastRunId : String
  runDate : Time
  rows : List BuyListRow
  excluded : List ExcludedRow
  totalPredicted : ℕ
  totalCostKes : Option ℚ
  deriving DecidableEq, Repr

/-- `plannableReason`. -/
def plannableReason (costKes priceKes : ℚ) : PlannableReason :=
  if ¬ 0 < costKes then .missingCost
  else if ¬ 0 < priceKes then .missingPrice
  else if priceKes < costKes then .costExceedsPrice
  else .ok

/-- `asConfidence`. -/
def asConfidence (word : Option String) : Option PlanConfidence :=
  match word with
  | some "sure" => some .sure
  | some "fairly_sure" => some .fairlySure
  | some "guessing" => some .guessing
  | _ => none

/-- `asColdStart`. -/
def asColdStart (word : Option String) : Option PlanColdStart :=
  match word with
  | some "too_new" => some .tooNew
  | some "borrowed" => some .borrowed
  | _ => none

/-- `tierFor`. -/
def tierFor (urgency : String) (daysLeftToOrder : ℚ) : BuyTier :=
  if urgency = "critical" ∨ daysLeftToOrder ≤ 0 then .orderToday
  else if daysLeftToOrder ≤ 7 then .thisWeek
  else .canWait

/-- `stockoutDaysLeft`. -/
def stockoutDaysLeft (days : ℤ) : Option ℤ :=
  if NO_STOCKOUT_DAYS ≤ days then none else some days

/-- `whatIfSizeDays`. -/
def whatIfSizeDays (coverDays : ℚ) (measuredLeadDays : Option ℚ) : ℚ :=
  coverDays + max 0 (measuredLeadDays.getD 0)

/-- `ASSUMED_LEAD_DAYS`. -/
def ASSUMED_LEAD_DAYS : ℚ := 30

/-- `RISK_HORIZON_DAYS`. -/
def RISK_HORIZON_DAYS : ℚ := 30

/-- `REVENUE_WINDOW_DAYS`. -/
def REVENUE_WINDOW_DAYS : ℤ := 30

/-- `SLOW_MOVER_MAX_DAILY_DEMAND`. -/
def SLOW_MOVER_MAX_DAILY_DEMAND : ℚ := 1

/-- The two what-ifs. -/
structure WhatIf where
  coverDays : Option ℚ := none
  demandUplift : Option ℚ := none
  deriving DecidableEq, Repr

namespace WhatIf

variable (o : WhatIf)

/-- `demandMultiplier`: an uplift only counts when it lifts. -/
def demandMultiplier : ℚ :=
  match o.demandUplift with
  | some uplift => if 1 < uplift then uplift else 1
  | none => 1

/-- A what-if is in play. -/
def active : Bool :=
  o.coverDays.isSome || 1 < o.demandMultiplier

end WhatIf

section Code

variable (js : Js) (now : Time) (facts : PlanFacts) (o : WhatIf)

/-- A product's order is queued, or on a purchase order that was sent. -/
def onTheWay (productId : ProductId) : Bool :=
  facts.orders.any fun order =>
    order.productId = some productId ∧ order.receivedAt = none ∧
      (order.status = .pending ∨
        (order.status = .ordered ∧
          order.purchaseOrder.any fun po => po.1 ∈ [.sent, .partiallyReceived] ∧ po.2 = false))

/-- A product is on a draft purchase order. -/
def onDraft (productId : ProductId) : Bool :=
  facts.poLines.any fun line =>
    line.productId = productId ∧ line.status = .draft ∧ line.deleted = false

/-- `outstandingByProduct`, of the lines of orders that were sent. -/
def outstandingFor (productId : ProductId) : ℤ :=
  ((facts.poLines.filter fun line =>
    line.productId = productId ∧ line.status ∈ [.sent, .partiallyReceived] ∧
      line.deleted = false).map fun line => outstandingUnits line.toOutstandingLine).sum

/-- The revenue of a product in the trailing window. -/
def revenueFor (productId : ProductId) : ℚ :=
  ((facts.sales.filter fun sale =>
    sale.productId = productId ∧ now - REVENUE_WINDOW_DAYS * DAY_MS ≤ sale.date).map
      RevenueRow.revenueKes).sum

/-- The owner's override of a product. -/
def overrideFor (productId : ProductId) : Option ℤ :=
  facts.overrides.lookup productId

/-- `decidedQty`: what a product is worth ordering once the owner has had their say. -/
def decidedQty (p : PlanPrediction) : ℤ :=
  (overrideFor facts p.productId).getD (jsRound p.recommendedQty)

/-- `r1`. -/
def r1 (n : ℚ) : ℚ :=
  jsRound (n * 10) / 10

/-- `buildQtySummary`. -/
def buildQtySummary (p : PlanPrediction) (storedQty : ℚ) : String :=
  let target := r1 (p.product.currentStock + p.product.onOrder + storedQty)
  js.text (r1 p.product.currentStock) ++ " in stock + " ++ js.text (r1 p.product.onOrder)
    ++ " incoming + " ++ js.text storedQty ++ " ordered = " ++ js.text target ++ " (forecast "
    ++ js.text (r1 (p.finalForecast30d / 30)) ++ "/day, buffer " ++ js.text (r1 p.safetyStock)
    ++ ")"

/-- The measured lead time of a prediction's product. -/
def measuredLeadDays (p : PlanPrediction) : Option ℚ :=
  leadDaysFor (p.product.leadTimeDays.map Int.cast)
    ((p.product.supplier.bind PlanSupplier.leadTimeAvgDays).map Int.cast)

/-- What a prediction is re-sized by, when a what-if is in play and the owner has set nothing. -/
def resizeInput (p : PlanPrediction) : Option ReorderInput :=
  if o.active ∧ overrideFor facts p.productId = none then
    some {
      finalForecast30d := p.finalForecast30d * o.demandMultiplier
      safetyStock := p.safetyStock
      currentStock := p.product.currentStock
      onOrder := (max p.product.onOrder (outstandingFor facts p.productId) : ℤ)
      coverDays := some <| (o.coverDays.map fun cover =>
        whatIfSizeDays cover (measuredLeadDays p)).getD
          (coverDaysFor (p.product.leadTimeDays.map Int.cast)
            ((p.product.supplier.bind PlanSupplier.leadTimeAvgDays).map Int.cast)) }
  else none

/-- The quantity of a prediction: the owner's, or the re-sized one, or the run's. -/
def shownQty (p : PlanPrediction) : ℚ :=
  match overrideFor facts p.productId with
  | some qty => qty
  | none =>
      match resizeInput facts o p with
      | some input => recommendedQty js input
      | none => jsRound p.recommendedQty

/-- `explainFor`. -/
def explainFor (p : PlanPrediction) : Option QtyExplanation :=
  let qty := shownQty js facts o p
  if (overrideFor facts p.productId).isSome then none
  else
    match resizeInput facts o p with
    | some input => some (explainQty js input qty)
    | none => p.explainParts.filter fun stored => stored.recommendedQty = qty

/-- `buildRow`. -/
def buildRow (p : PlanPrediction) : BuyListRow :=
  let product := p.product
  let inboundUnits := max product.onOrder (outstandingFor facts p.productId)
  let leadDays := (measuredLeadDays p).getD ASSUMED_LEAD_DAYS
  let daysLeftToOrder := p.daysUntilStockout - leadDays
  let stockoutDays := max 0 (RISK_HORIZON_DAYS - p.daysUntilStockout)
  let moq := (product.supplier.map PlanSupplier.moq).getD 1
  let qty := shownQty js facts o p
  let orderQty := if 0 < qty then applyMoq qty moq else 0
  { predictionId := p.id
    productId := p.productId
    sku := product.sku
    title := product.title
    vendor := product.vendor
    supplierName := product.supplier.map PlanSupplier.name
    onHandUnits := product.currentStock
    onOrderUnits := inboundUnits
    daysUntilStockout := stockoutDaysLeft p.daysUntilStockout
    daysLeftToOrder
    leadDays
    orderByDate := facts.runDate + daysLeftToOrder * DAY_MS
    urgency := p.urgency
    tier := tierFor p.urgency daysLeftToOrder
    recommendedQty := qty
    orderQty
    overriddenQty := overrideFor facts p.productId
    runRatePerDay := r1 (p.layer1Forecast30d / 30)
    moq
    leadFloored := (resizeInput facts o p).isSome ∧ o.coverDays.any fun cover =>
      cover < whatIfSizeDays cover (measuredLeadDays p)
    abc := product.abcCategory
    category := product.customCategory
    unitCostKes := some product.costKes
    lineTotalKes := some (orderQty * product.costKes)
    priceKes := product.priceKes
    reasoning := p.reasoning
    explain := explainFor js facts o p
    qtySummary := buildQtySummary js p qty
    confidence := asConfidence p.confidenceWord
    coldStart := asColdStart p.coldStart
    borrowedFromTitle := p.borrowedFromProductId.bind fun id => facts.titles.lookup id
    plannable := plannableReason product.costKes product.priceKes
    atRiskKes :=
      some (jsRound (p.finalForecast30d / RISK_HORIZON_DAYS * product.priceKes * stockoutDays))
    revenue30dKes := revenueFor now facts p.productId
    doubleOrderWarn := onDraft facts p.productId }

/-! ## Rows held back -/

/-- `excludedReasonFor`. -/
def excludedReasonFor (row : BuyListRow) (plannedDailyDemand : ℚ)
    (hasOpenOrder hasOwnerOverride : Bool) : Option ExcludedReason :=
  if hasOpenOrder then some .alreadyOrdered
  else if row.plannable ≠ .ok then some .unplannable
  else if hasOwnerOverride then none
  else if row.urgency = "low" ∧ plannedDailyDemand < SLOW_MOVER_MAX_DAILY_DEMAND then
    some .slowMover
  else none

/-- `notPlannedReasonFor`. -/
def notPlannedReasonFor (row : BuyListRow) (hasOpenOrder : Bool) : ExcludedReason :=
  if hasOpenOrder then .alreadyOrdered
  else if row.coldStart = some .tooNew then .tooNew
  else .covered

/-- Why a prediction to be bought is held back; nothing when it is not. -/
def heldBack (p : PlanPrediction) : Option ExcludedReason :=
  excludedReasonFor (buildRow js now facts o p) (p.finalForecast30d / 30)
    (onTheWay facts p.productId) (overrideFor facts p.productId).isSome

/-- The predictions to be bought. -/
def kept : List PlanPrediction :=
  facts.predictions.filter fun p => 0 < decidedQty facts p

/-- The rows of the active list, in the order in which the predictions were read. -/
def activeRows : List BuyListRow :=
  ((kept facts).filter fun p => heldBack js now facts o p = none).map (buildRow js now facts o)

/-- The rows that are held back, in the order in which they come about. -/
def excludedRows : List ExcludedRow :=
  ((kept facts).filterMap fun p =>
    (heldBack js now facts o p).map fun reason => ⟨buildRow js now facts o p, reason⟩) ++
  (facts.predictions.filter fun p => decidedQty facts p ≤ 0).map fun p =>
    let row := buildRow js now facts o p
    ⟨row, notPlannedReasonFor row (onTheWay facts p.productId)⟩

/-! ## Orders -/

/-- `abcRank`. -/
def abcRank (row : BuyListRow) : ℕ :=
  match row.abc with
  | some "A" => 0
  | some "B" => 1
  | some "C" => 2
  | _ => 3

/-- `URGENCY_RANK`. -/
def urgencyRank (row : BuyListRow) : ℕ :=
  match row.urgency with
  | "critical" => 0
  | "high" => 1
  | "medium" => 2
  | "low" => 3
  | _ => 9

/-- By `stockoutRank`: the soonest first, and no stockout in sight last. -/
def byStockoutRank : BuyListRow → BuyListRow → Ordering :=
  compareLex (compareOn fun row => row.daysUntilStockout.isNone)
    (compareOn fun row => row.daysUntilStockout.getD 0)

/-- `byBuyListPriority`. -/
def byBuyListPriority : BuyListRow → BuyListRow → Ordering :=
  compareLex (compareOn abcRank) (compareLex (compareOn urgencyRank) byStockoutRank)

/-- `byUrgencyCostAware`: then the biggest line first. -/
def byUrgencyCostAware : BuyListRow → BuyListRow → Ordering :=
  compareLex byBuyListPriority
    (compareOn fun row => OrderDual.toDual (row.lineTotalKes.getD 0))

variable {K : Type} [LinearOrder K] (collate : String → K)

/-- `byUrgencyCostFree`: then the larger order first, then the SKU. -/
def byUrgencyCostFree : BuyListRow → BuyListRow → Ordering :=
  compareLex byBuyListPriority
    (compareLex (compareOn fun row => OrderDual.toDual row.recommendedQty)
      (compareOn fun row => collate row.sku))

/-- One row does not come after another. -/
def NotAfter (order : BuyListRow → BuyListRow → Ordering) (a b : BuyListRow) : Prop :=
  (order a b).isLE = true

instance (order : BuyListRow → BuyListRow → Ordering) : DecidableRel (NotAfter order) :=
  fun a b => inferInstanceAs (Decidable ((order a b).isLE = true))

/-- `rows.sort(by)`. -/
def sortBy (order : BuyListRow → BuyListRow → Ordering) (rows : List BuyListRow) :
    List BuyListRow :=
  rows.insertionSort (NotAfter order)

/-- `excluded.sort(by)`. -/
def sortExcludedBy (order : BuyListRow → BuyListRow → Ordering) (rows : List ExcludedRow) :
    List ExcludedRow :=
  rows.insertionSort fun a b => NotAfter order a.row b.row

/-! ## Redaction -/

/-- `redactRow`. -/
def redactRow (row : BuyListRow) : BuyListRow :=
  { row with unitCostKes := none, lineTotalKes := none, atRiskKes := none, plannable := .ok }

/-- `redactExcluded`. -/
def redactExcluded (e : ExcludedRow) : ExcludedRow :=
  { e with row := redactRow e.row }

/-- `redactExcludedList`. -/
def redactExcludedList (rows : List ExcludedRow) : List ExcludedRow :=
  (rows.filter fun e => e.reason ≠ .unplannable).map redactExcluded

/-- `getBuyList`, of the latest run and what is loaded with it; nothing when no run is there. -/
def getBuyList (latest : Option PlanFacts) (canViewCosts : Bool) : Option BuyList := do
  let facts ← latest
  let byUrgency := if canViewCosts then byUrgencyCostAware else byUrgencyCostFree collate
  let active := sortBy byUrgency (activeRows js now facts o)
  let excluded := sortExcludedBy byUrgency (excludedRows js now facts o)
  let sizedRows := if o.active then active.filter fun row => 0 < row.recommendedQty else active
  return {
    forecastRunId := facts.forecastRunId
    runDate := facts.runDate
    rows := if canViewCosts then sizedRows else sizedRows.map redactRow
    excluded := if canViewCosts then excluded else redactExcludedList excluded
    totalPredicted := facts.predictions.length
    totalCostKes :=
      if canViewCosts then some (sizedRows.map fun row => row.lineTotalKes.getD 0).sum else none }

/-- `redactBuyList`. -/
def redactBuyList (buyList : BuyList) (canViewCosts : Bool) : BuyList :=
  if canViewCosts then buyList
  else
    { buyList with
      rows := sortBy (byUrgencyCostFree collate) (buyList.rows.map redactRow)
      excluded := sortExcludedBy (byUrgencyCostFree collate) (redactExcludedList buyList.excluded)
      totalCostKes := none }

end Code

end Restock.Plan
