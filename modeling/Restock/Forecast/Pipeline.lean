import Restock.Forecast.Layered
import Restock.Forecast.Reorder

/-!
# The pipeline of one product

`packages/forecast/src/pipeline.ts` and `guardrail.ts`: the layered forecast, the guardrail unless an
override states the demand, and the order quantity. Whatever produced the forecast, it stays within
three times what the product sold in the last thirty days, or within a small ceiling where recent
sales cannot be the yardstick.
-/

namespace Restock.Forecast

/-- The forecast may exceed recent sales by at most this factor. -/
def GUARDRAIL_MULTIPLIER : ℚ := 3

/-- Cap for an in-stock item that sold nothing in 30 days. -/
def ZERO_SALES_CAP_30D : ℚ := 3

/-- Absolute 30-day ceiling for a thin-data item. -/
def THIN_DATA_ABSOLUTE_CAP_30D : ℚ := 12

/-- `GuardrailDecision`. -/
structure GuardrailDecision where
  finalForecast30d : ℚ
  capped : Bool
  deriving DecidableEq, Repr

/-- What `guardrailCap` goes by. -/
structure GuardrailInput where
  finalForecast30d : ℚ
  sold30 : ℚ
  historySpanDays : ℚ
  currentStock : ℚ
  stockoutDays30 : ℤ := 0
  thinCap : ℚ := THIN_DATA_ABSOLUTE_CAP_30D
  deriving DecidableEq, Repr

/-- Recent sales cannot be the yardstick: a short history, or a shelf that was empty for
more than seven of the thirty days. -/
def GuardrailInput.thin (input : GuardrailInput) : Bool :=
  input.historySpanDays < 30 ∨ 7 < input.stockoutDays30

/-- The most the guardrail lets pass. -/
def GuardrailInput.cap (input : GuardrailInput) : ℚ :=
  if input.thin then max (GUARDRAIL_MULTIPLIER * input.sold30) input.thinCap
  else if 0 < input.sold30 then GUARDRAIL_MULTIPLIER * input.sold30
  -- an empty shelf cannot sell; on the shelf and sold nothing, a big forecast is fantasy
  else if input.currentStock ≤ 0 then input.thinCap
  else ZERO_SALES_CAP_30D

/-- The possibly clamped forecast. -/
def guardrailCap (input : GuardrailInput) : GuardrailDecision :=
  if input.cap < input.finalForecast30d then { finalForecast30d := input.cap, capped := true }
  else { finalForecast30d := input.finalForecast30d, capped := false }

/-- The context a forecast is guarded in. -/
structure GuardContext where
  history : List SalesPoint
  currentStock : ℚ
  today : Time
  stockoutDates : List Time
  deriving DecidableEq, Repr

namespace GuardContext

variable (ctx : GuardContext)

/-- The rows on completed days. -/
def completed : List SalesPoint :=
  ctx.history.filter fun p => p.date < ctx.today

/-- The units of the last thirty days. -/
def sold30 : ℚ :=
  sumQty (ctx.completed.filter fun p => daysBefore ctx.today 30 ≤ p.date)

/-- The days since the first sale on record. -/
def spanDays : ℚ :=
  historySpanDays ctx.completed ctx.today

/-- The stockout dates of the last thirty days. -/
def stockoutDays30 : ℤ :=
  censoredDaysInWindow ctx.stockoutDates (daysBefore ctx.today 30) ctx.today

/-- What the guardrail is asked about a forecast. -/
def question (finalForecast30d : ℚ) : GuardrailInput where
  finalForecast30d
  sold30 := ctx.sold30
  historySpanDays := ctx.spanDays
  currentStock := ctx.currentStock
  stockoutDays30 := ctx.stockoutDays30

/-- The signal that says why the number differs. -/
def signal (decision : GuardrailDecision) (ratio : ℚ) : Signal :=
  let sold := toString (jsRound ctx.sold30)
  { label :=
      if ctx.spanDays < 30 ∨ 7 < ctx.stockoutDays30 ∨ ctx.sold30 = 0 then
        "Reality check: forecast held to " ++ toString (jsRound decision.finalForecast30d)
          ++ " on thin data (sold " ++ sold ++ " in 30d)"
      else "Reality check: forecast capped to 3× recent sales (sold " ++ sold ++ " in 30d)"
    deltaPct := (ratio - 1) * 100
    emoji := "🛡️" }

end GuardContext

/-- Apply the guardrail to a full forecast: clamp the demand, scale the safety stock and the
spread by the same ratio and recompute the days of cover. -/
def guardForecastResult (result : ForecastResult) (ctx : GuardContext) : ForecastResult :=
  let decision := guardrailCap (ctx.question result.finalForecast30d)
  if ¬ decision.capped ∨ result.finalForecast30d ≤ 0 then result
  else
    let ratio := decision.finalForecast30d / result.finalForecast30d
    let newRate := decision.finalForecast30d / 30
    { result with
      finalForecast30d := decision.finalForecast30d
      safetyStock := result.safetyStock * ratio
      demandStd := result.demandStd.map (· * ratio)
      daysUntilStockout :=
        if 0 < newRate then ⌊ctx.currentStock / newRate⌋ else result.daysUntilStockout
      signals := result.signals ++ [ctx.signal decision ratio] }

/-- `ProductFacts`. -/
structure ProductFacts where
  sku : String := ""
  productType : Option String := none
  vendor : Option String := none
  currentStock : ℚ := 0
  onOrder : ℚ := 0
  leadTimeDays : Option ℚ := none
  deriving DecidableEq, Repr

/-- `SupplierFacts`. -/
structure SupplierFacts where
  leadTimeAvgDays : Option ℚ := none
  leadTimeStdDays : Option ℚ := none
  deriving DecidableEq, Repr

/-- `ProductForecastInput`; a product without a supplier has one without facts. -/
structure ProductForecastInput where
  product : ProductFacts := {}
  supplier : SupplierFacts := {}
  history : List SalesPoint := []
  stockoutDates : List Time := []
  snapshotsSince : Option Time := none
  excludedDates : List Time := []
  activePromos : List ActivePromo := []
  monthlyExpectations : List MonthlyExpectation := []
  abcCategory : Option String := none
  policy : Option OrderPolicy := none
  serviceZ : ServiceZ := {}
  capMultiple : Option ℚ := none
  runDateKey : Option ℤ := none
  demandOverride : Option DemandOverride := none
  demandMethod : Option DemandMethod := none
  baselineMethod : BaselineMethod := .mean
  bigBuyerDamping : Bool := false
  deriving DecidableEq, Repr

/-- `PredictionFields`. -/
structure PredictionFields where
  layer1Forecast30d : ℚ
  layer1Confidence : ℚ
  layer2Adjustment : ℚ
  finalForecast30d : ℚ
  daysUntilStockout : ℤ
  recommendedQty : ℚ
  safetyStock : ℚ
  reorderPoint : ℚ
  confidence : ℚ
  reasoning : String
  urgency : Urgency
  signals : List Signal
  regime : Regime
  confidenceWord : ConfidenceWord
  explainParts : QtyExplanation
  deriving DecidableEq, Repr

namespace ProductForecastInput

variable (js : Js) (now : Time) (input : ProductForecastInput)

def today : Time :=
  anchorToday now input.runDateKey

def leadTimeAvg : ℚ :=
  (leadDaysFor input.product.leadTimeDays input.supplier.leadTimeAvgDays).getD 0

def leadTimeStd : ℚ :=
  leadStdFor input.supplier.leadTimeStdDays

/-- What the layered forecast is given. -/
def layered : ForecastInput where
  productType := input.product.productType
  vendor := input.product.vendor
  sku := input.product.sku
  currentStock := input.product.currentStock
  abcCategory := input.abcCategory
  history := input.history
  leadTimeAvg := input.leadTimeAvg
  leadTimeStd := input.leadTimeStd
  activePromos := input.activePromos
  monthlyExpectations := input.monthlyExpectations
  runDateKey := input.runDateKey
  stockoutDates := input.stockoutDates
  snapshotsSince := input.snapshotsSince
  excludedDates := input.excludedDates
  serviceZ := input.serviceZ
  capMultiple := input.capMultiple
  demandOverride := input.demandOverride
  demandMethod := input.demandMethod
  baselineMethod := input.baselineMethod
  bigBuyerDamping := input.bigBuyerDamping

def forecast : ForecastResult :=
  layeredForecast js now input.layered

/-- What the guardrail is given. -/
def guardContext : GuardContext where
  history :=
    if input.bigBuyerDamping then
      (debulkSeries input.history (some (input.today now)) input.excludedDates).series
    else input.history
  currentStock := input.product.currentStock
  today := input.today now
  stockoutDates := input.stockoutDates

/-- The forecast, guarded unless an override states the demand. -/
def result : ForecastResult :=
  if input.demandOverride.isSome then input.forecast js now
  else guardForecastResult (input.forecast js now) (input.guardContext now)

def reorderInput : ReorderInput where
  finalForecast30d := (input.result js now).finalForecast30d
  safetyStock := (input.result js now).safetyStock
  currentStock := input.product.currentStock
  onOrder := input.product.onOrder
  abcCategory := input.abcCategory
  coverDays := some (coverDaysFor input.product.leadTimeDays input.supplier.leadTimeAvgDays)
  dailyDemandStd := (input.result js now).demandStd
  leadTimeAvg := some input.leadTimeAvg
  policy := input.policy

/-- A dead or brand-new listing keeps the engine's zero recommendation. -/
def engineSaysZero : Bool :=
  (input.result js now).recommendedQty = 0 ∧ (input.result js now).finalForecast30d ≤ 0

def qty : ℚ :=
  if input.engineSaysZero js now then 0 else recommendedQty js (input.reorderInput js now)

end ProductForecastInput

/-- The forecast of one product. -/
def forecastProduct (js : Js) (now : Time) (input : ProductForecastInput) : PredictionFields where
  layer1Forecast30d := (input.result js now).layer1Forecast30d
  layer1Confidence := (input.result js now).layer1Confidence
  layer2Adjustment := (input.result js now).layer2Adjustment
  finalForecast30d := (input.result js now).finalForecast30d
  daysUntilStockout := (input.result js now).daysUntilStockout
  recommendedQty := input.qty js now
  safetyStock := (input.result js now).safetyStock
  reorderPoint := (input.result js now).reorderPoint
  confidence := (input.result js now).confidence
  reasoning := (input.result js now).reasoning
  urgency := (input.result js now).urgency
  signals := (input.result js now).signals
  regime := reorderMethod input.abcCategory input.policy
  confidenceWord := (input.result js now).confidenceWord
  explainParts := explainQty js (input.reorderInput js now) (input.qty js now)

end Restock.Forecast
