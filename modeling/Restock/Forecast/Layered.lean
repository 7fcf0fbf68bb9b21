import Restock.Forecast.Evidence

/-!
# The two-layer forecast

`packages/forecast/src/layered.ts`: a run rate, what the owner has told us on top of it, a
cap, and the inventory figures that follow. The run rate is the production demand rate: a short
window for a new product, the recency-weighted or the median blend for an established one. Every
constant of `layeredForecast` is a definition on its input, under its own name, and
`layeredForecast` puts them together.

* `runRateDaily` — the rate;
* `demandRateFor` — the rate of the demand method a class has chosen.
-/

namespace Restock.Forecast

open Series

/-! ## The run rate -/

/-- Under this many days of history a product is new. -/
def NEW_PRODUCT_DAYS : ℚ := 60

/-- Days of history available as of `today`, zero when there is none. -/
def historySpanDays (history : List SalesPoint) (today : Time) : ℚ :=
  match (history.map SalesPoint.date).min? with
  | none => 0
  | some earliest => daysBetween earliest today

/-- Spike-damped daily rate over the trailing `windowDays` before `today`. -/
def rateOverWindow (history : List SalesPoint) (today : Time) (windowDays : ℤ)
    (stockoutDates excludedDates : List Time) : ℚ :=
  let since := daysBefore today windowDays
  let window := dampedWindow history since today (dayKeySet excludedDates)
  if stockoutDates ≠ [] ∨ excludedDates ≠ [] then
    let blocked := blockedDaysInWindow stockoutDates excludedDates since today
    window.units / effectiveWindowDays windowDays blocked
      (some { inStockDays := windowDays - blocked, saleDays := window.saleDays })
  else window.units / effectiveWindowDays windowDays 0 none

/-- The window of a product with this span of history, below `NEW_PRODUCT_DAYS`. -/
def newProductWindow (span : ℚ) : ℤ :=
  min 30 (max 7 ⌈span⌉)

/-- The production demand rate, in units a day. -/
def runRateDaily (history : List SalesPoint) (today : Time)
    (stockoutDates excludedDates : List Time) (snapshotsSince : Option Time)
    (baselineMethod : BaselineMethod) (bigBuyerDamping : Bool) : ℚ :=
  let today := dayKeyOf today
  let completed := history.filter fun p => p.date < today
  let history := if bigBuyerDamping then (debulkSeries completed (some today) excludedDates).series
    else completed
  let span := historySpanDays history today
  if span < NEW_PRODUCT_DAYS then
    rateOverWindow history today (newProductWindow span) stockoutDates excludedDates
  else if baselineMethod = .median then
    weightedDailyRateMedianCensored history stockoutDates today excludedDates snapshotsSince
  else if stockoutDates ≠ [] ∨ snapshotsSince.isSome then
    weightedDailyRateCensored history stockoutDates today excludedDates snapshotsSince
  else weightedDailyRateAdjusted history today excludedDates

/-- `DemandMethod`. -/
inductive DemandMethod
  | runRate
  | recentHeavy
  deriving DecidableEq, Repr

/-- Trailing days `recentHeavy` averages over. -/
def RECENT_HEAVY_WINDOW_DAYS : ℤ := 30

/-- The daily demand rate a method reports. -/
def demandRateFor (method : DemandMethod) (history : List SalesPoint) (today : Time)
    (stockoutDates excludedDates : List Time) (snapshotsSince : Option Time)
    (baselineMethod : BaselineMethod) (bigBuyerDamping : Bool) : ℚ :=
  let today := dayKeyOf today
  let completed := history.filter fun p => p.date < today
  let history := if bigBuyerDamping then (debulkSeries completed (some today) excludedDates).series
    else completed
  if baselineMethod = .median then
    runRateDaily history today stockoutDates excludedDates snapshotsSince .median false
  else if method = .recentHeavy then
    rateOverWindow history today RECENT_HEAVY_WINDOW_DAYS stockoutDates excludedDates
  else runRateDaily history today stockoutDates excludedDates snapshotsSince .mean false

/-! ## The forecast -/

/-- `ActivePromo`. -/
structure ActivePromo where
  discountPct : ℚ
  channel : String
  scope : String
  scopeValue : Option String
  deriving DecidableEq, Repr

/-- Where the demand of an override comes from. -/
inductive OverrideSource
  | borrowed
  | ownerPrior
  deriving DecidableEq, Repr

/-- `DemandOverride`: an external demand level that replaces the run rate. -/
structure DemandOverride where
  forecast30d : ℚ
  source : OverrideSource
  label : String
  deriving DecidableEq, Repr

/-- `ForecastInput`. -/
structure ForecastInput where
  productType : Option String := none
  vendor : Option String := none
  sku : String := ""
  currentStock : ℚ := 0
  abcCategory : Option String := none
  history : List SalesPoint := []
  leadTimeAvg : ℚ := 0
  leadTimeStd : ℚ := 0
  activePromos : List ActivePromo := []
  /-- `YYYY-MM-DD`, as the number of the day. -/
  runDateKey : Option ℤ := none
  stockoutDates : List Time := []
  snapshotsSince : Option Time := none
  excludedDates : List Time := []
  monthlyExpectations : List MonthlyExpectation := []
  serviceZ : ServiceZ := {}
  capMultiple : Option ℚ := none
  demandOverride : Option DemandOverride := none
  demandMethod : Option DemandMethod := none
  baselineMethod : BaselineMethod := .mean
  bigBuyerDamping : Bool := false
  deriving DecidableEq, Repr

/-- No forecast may exceed this multiple of the best trailing month. -/
def DEFAULT_CAP_MULTIPLE : ℚ := 3

/-- The day a run is anchored on; `now` is the wall clock. -/
def anchorToday (now : Time) (runDateKey : Option ℤ) : Time :=
  match runDateKey with
  | some day => day * DAY_MS
  | none => dayKeyOf now

/-- `Signal`. -/
structure Signal where
  label : String
  deltaPct : ℚ
  emoji : String
  deriving DecidableEq, Repr

/-- `ForecastResult`. -/
structure ForecastResult where
  layer1Forecast30d : ℚ
  layer1Confidence : ℚ
  layer2Adjustment : ℚ
  finalForecast30d : ℚ
  daysUntilStockout : ℤ
  recommendedQty : ℤ
  safetyStock : ℚ
  reorderPoint : ℚ
  confidence : ℚ
  reasoning : String
  urgency : Urgency
  signals : List Signal
  demandStd : Option ℚ
  confidenceWord : ConfidenceWord
  confidenceSignals : ConfidenceSignals
  deriving DecidableEq, Repr

/-- Largest single calendar-month sales total in the history before `today`. -/
def bestTrailingMonth (history : List SalesPoint) (today : Time) : ℚ :=
  let byMonth := tally ((history.filter fun p => p.date < today).map fun p =>
    (isoMonth p.date, p.quantity))
  (byMonth.map Prod.snd).max?.getD 0

/-- The promo or window speaks of this product. -/
def scopeMatches (js : Js) (scope : String) (scopeValue : Option String)
    (productType vendor : Option String) (sku : String) : Bool :=
  let names (field : Option String) := scopeValue.any fun value =>
    value ≠ "" ∧ js.toUpperCase value = js.toUpperCase (field.getD "")
  scope = "all" ∨ (scope = "sku" ∧ scopeValue = some sku)
    ∨ (scope = "category" ∧ names productType) ∨ (scope = "brand" ∧ names vendor)

/-- `{ lift, channel }`. -/
structure PromoLift where
  lift : ℚ := 1
  channel : Option String := none
  deriving DecidableEq, Repr

/-- Best matching promo lift: discount% x 1.5 elasticity. -/
def activePromoLift (js : Js) (promos : List ActivePromo) (productType vendor : Option String)
    (sku : String) : PromoLift :=
  promos.foldl (fun best p =>
    let lift := 1 + p.discountPct / 100 * (3 / 2)
    if scopeMatches js p.scope p.scopeValue productType vendor sku ∧ best.lift < lift then
      { lift, channel := some p.channel }
    else best) {}

namespace ForecastInput

variable (js : Js) (now : Time) (input : ForecastInput)

/-! ## Layer 1 -/

def today : Time :=
  anchorToday now input.runDateKey

def bulk : DebulkResult :=
  debulkSeries input.history (some (input.today now)) input.excludedDates

def demandHistory : List SalesPoint :=
  (if input.bigBuyerDamping then (input.bulk now).series else input.history).filter fun p =>
    p.date < input.today now

def span : ℚ :=
  historySpanDays (input.demandHistory now) (input.today now)

def isNew : Bool :=
  input.span now < NEW_PRODUCT_DAYS

def hasHistory : Bool :=
  0 < (input.demandHistory now).length

def rawHistoryDailyRate : ℚ :=
  demandRateFor (input.demandMethod.getD .runRate) (input.demandHistory now) (input.today now)
    input.stockoutDates input.excludedDates input.snapshotsSince input.baselineMethod false

def floorWindowStart : Time :=
  daysBefore (input.today now) 30

def hadRecentSales : Bool :=
  (input.demandHistory now).any fun p => 0 < p.quantity ∧ input.floorWindowStart now ≤ p.date

def shelfMostlyEmpty : Bool :=
  shelfWasMostlyEmpty input.stockoutDates input.snapshotsSince (input.floorWindowStart now)
    (input.today now)

def abcForFloor : Option String :=
  if input.abcCategory = some "A" ∨ input.abcCategory = some "B" ∨ input.abcCategory = some "C" then
    input.abcCategory
  else none

def abcFloor : ℚ :=
  abcFloorFor input.abcForFloor (input.hadRecentSales now) (input.shelfMostlyEmpty now)

def historyDailyRate : ℚ :=
  applyAbcRateFloor (input.rawHistoryDailyRate now) input.abcForFloor (input.hadRecentSales now)
    (input.shelfMostlyEmpty now) (demonstratedDailyRate (input.demandHistory now))

def rateHeldAtFloor : Bool :=
  input.rawHistoryDailyRate now < input.historyDailyRate now

def heldAtDemonstrated : Bool :=
  input.rateHeldAtFloor now ∧ input.historyDailyRate now < input.abcFloor now - 1 / 10 ^ 9

def dailyRate : ℚ :=
  match input.demandOverride with
  | some override => override.forecast30d / 30
  | none => input.historyDailyRate now

def layer1 : ℚ :=
  match input.demandOverride with
  | some override => override.forecast30d
  | none => input.historyDailyRate now * 30

/-! ## Confidence -/

/-- The units of the rows of the last `days` days. -/
def recentQuantities (days : ℤ) : List ℚ :=
  ((input.demandHistory now).filter fun p => daysBefore (input.today now) days ≤ p.date).map
    SalesPoint.quantity

def meanRecent : ℚ :=
  let recent := input.recentQuantities now 30
  if 0 < recent.length then recent.sum / recent.length else 0

def demandStd : ℚ :=
  standardDeviation js (input.recentQuantities now 90)

def cv : ℚ :=
  if 0 < input.meanRecent now then input.demandStd js now / input.meanRecent now else 1

def layer1Confidence : ℚ :=
  let confidence := max (3 / 10) (min (95 / 100) (9 / 10 - input.cv js now * (3 / 10)))
  if ¬ input.hasHistory now then 3 / 10
  else if input.isNew now then min confidence (1 / 2)
  else confidence

/-! ## Layer 2 -/

def promo : PromoLift :=
  activePromoLift js input.activePromos input.productType input.vendor input.sku

def promoApplies : Bool :=
  input.demandOverride.isNone ∧ 101 / 100 < (input.promo js).lift

def seasonal : ℚ :=
  blendedSeasonalMultiplier input.monthlyExpectations (input.today now)

def seasonLabel : Option String :=
  if input.demandOverride.isSome then none else seasonalLabel (input.seasonal now)

def seasonalApplied : ℚ :=
  if (input.seasonLabel now).isSome then input.seasonal now else 1

def boosted : ℚ :=
  let lifted := if input.promoApplies js then input.layer1 now * (input.promo js).lift
    else input.layer1 now
  if (input.seasonLabel now).isSome then lifted * input.seasonal now else lifted

def capMultipleOf : ℚ :=
  input.capMultiple.getD DEFAULT_CAP_MULTIPLE

def best : ℚ :=
  bestTrailingMonth (input.demandHistory now) (input.today now)

def capped : ℚ :=
  if 0 < input.best now ∧ input.demandOverride.isNone then
    min (input.boosted js now) (input.capMultipleOf * input.best now)
  else input.boosted js now

def wasCapped : Bool :=
  input.capped js now < input.boosted js now - 1 / 10 ^ 9

def finalForecast30d : ℚ :=
  max 0 (input.capped js now)

/-! ## Inventory -/

def clipRatio : ℚ :=
  if 0 < input.boosted js now then input.capped js now / input.boosted js now else 1

def effectiveSeasonal : ℚ :=
  if 1 ≤ input.seasonalApplied now then
    max 1 (input.seasonalApplied now * input.clipRatio js now)
  else input.seasonalApplied now

def sizingDailyRate : ℚ :=
  input.dailyRate now * input.effectiveSeasonal js now

def z : ℚ :=
  zForServiceLevel input.abcCategory input.serviceZ

def safety : ℚ :=
  kingsSafetyStock js input.z input.leadTimeAvg input.leadTimeStd (input.sizingDailyRate js now)
    (input.demandStd js now)

def rop : ℚ :=
  Forecast.reorderPoint (input.sizingDailyRate js now) input.leadTimeAvg (input.safety js now)

def daysLeft : ℤ :=
  daysOfStockRemaining input.currentStock (input.sizingDailyRate js now)

/-- A product with sales history but no run rate. -/
def isDead : Bool :=
  input.hasHistory now ∧ input.historyDailyRate now ≤ 0 ∧ input.demandOverride.isNone

/-- A product without sales history: too new to judge. -/
def tooNew : Bool :=
  ¬ input.hasHistory now ∧ input.demandOverride.isNone

def urgency : Urgency :=
  if input.isDead now ∨ input.tooNew now then .low
  else urgencyFromDays (input.daysLeft js now) (input.sizingDailyRate js now)

def recommendedQty : ℤ :=
  if input.isDead now ∨ input.tooNew now then 0
  else max 0 ⌈input.finalForecast30d js now + input.safety js now - input.currentStock⌉

/-! ## Confidence word -/

def stockoutGapDays : ℤ :=
  let last30 := daysBefore (input.today now) 30
  if input.stockoutDates ≠ [] then
    censoredDaysInWindow input.stockoutDates last30 (input.today now)
  else inferredStockoutGapDays (input.demandHistory now) last30 (input.today now)

/-- The demand of the override comes from this source. -/
def overrides (source : OverrideSource) : Bool :=
  input.demandOverride.any fun override => override.source = source

def confidenceSignals : ConfidenceSignals where
  historyDays := input.span now
  cv := input.cv js now
  stockoutGapShare := max 0 (min 1 (input.stockoutGapDays now / 30))
  promoContaminated := input.promoApplies js
  coldStart := input.tooNew now ∨ input.overrides .borrowed

def word : ConfidenceWord :=
  let word := Forecast.confidenceWord (input.confidenceSignals js now)
  if input.overrides .ownerPrior then leastConfident word .fairlySure else word

/-! ## Texts -/

/-- A count of whole days of history, at least one. -/
def spanText : String :=
  toString (max 1 (jsRound (input.span now)))

def signals : List Signal :=
  let days := (input.bulk now).caps.length
  let bulkSignal : List Signal :=
    if days = 0 then []
    else [{ label := toString days ++ " possible bulk-sale day" ++ (if days = 1 then "" else "s")
              ++ " (daily totals, not confirmed single buyers)"
              ++ (if input.bigBuyerDamping ∧ input.demandOverride.isNone then
                "; baseline damping enabled" else "")
            deltaPct := 0
            emoji := "📦" }]
  let lift := (input.promo js).lift
  let promoSignal : List Signal :=
    if input.promoApplies js then
      [{ label := "Active promo " ++ (input.promo js).channel.getD "" ++ " +"
            ++ toFixed 0 ((lift - 1) * 100) ++ "%"
         deltaPct := (lift - 1) * 100
         emoji := "🏷️" }]
    else []
  let seasonSignal : List Signal :=
    (input.seasonLabel now).toList.map fun label =>
      { label, deltaPct := (input.seasonal now - 1) * 100, emoji := "📅" }
  let capSignal : List Signal :=
    if input.wasCapped js now then
      [{ label := "Capped at " ++ js.text input.capMultipleOf ++ "× best month"
         deltaPct := (input.capped js now - input.boosted js now) / input.boosted js now * 100
         emoji := "✂️" }]
    else []
  let overrideSignal : List Signal :=
    input.demandOverride.toList.map fun override =>
      { label := override.label
        deltaPct := 0
        emoji := match override.source with
          | .borrowed => "🔗"
          | .ownerPrior => "🗣️" }
  let newSignal : List Signal :=
    if input.tooNew now then
      [{ label := "New product — no sales history yet", deltaPct := 0, emoji := "🆕" }]
    else if input.isNew now ∧ input.hasHistory now ∧ input.demandOverride.isNone then
      [{ label := "New product — forecast from " ++ input.spanText now ++ " days of history"
         deltaPct := 0
         emoji := "🆕" }]
    else []
  bulkSignal ++ promoSignal ++ seasonSignal ++ capSignal ++ overrideSignal ++ newSignal

def leadClause : String :=
  if 0 < input.leadTimeAvg then
    "lead time " ++ js.text input.leadTimeAvg ++ "±" ++ js.text input.leadTimeStd ++ "d"
  else "no delivery time set for this supplier — sized for the review cycle only"

def stockAtRun : String :=
  if NO_STOCKOUT_DAYS ≤ input.daysLeft js now then
    "Stock at the run was " ++ js.text input.currentStock ++ ", with no stockout in sight."
  else
    "Stock at the run was " ++ js.text input.currentStock ++ " — about "
      ++ toString (input.daysLeft js now) ++ " days' cover then."

/-- Safety stock and what it was sized on. -/
def safetyClause : String :=
  "Safety stock " ++ toFixed 0 (input.safety js now) ++ " (" ++ input.abcCategory.getD "C"
    ++ "-class service, z=" ++ js.text input.z ++ ", " ++ input.leadClause js ++ ")"

/-- The sentence on what set the number, for a history-derived forecast. -/
def rateSentence : String :=
  let units := "Forecast " ++ toFixed 0 (input.finalForecast30d js now) ++ " units over 30 days"
  if input.heldAtDemonstrated now then
    units ++ " at " ++ toFixed 2 (input.historyDailyRate now)
      ++ "/day — the fastest this has sold while it was in stock. The shelf has been empty for most "
      ++ "of the window, so its recent rate reads lower than it sells."
  else if input.rateHeldAtFloor now then
    units ++ " at the " ++ input.abcForFloor.getD "null" ++ "-class minimum of "
      ++ js.text (input.abcFloor now) ++ "/day. The shelf has been empty for most of the window, so "
      ++ "what it sold is not what it would have sold — this is a floor, not a measured rate."
  else
    units ++ " from the "
      ++ (if input.isNew now then "last-" ++ input.spanText now ++ "-day rate (new product)"
        else if input.baselineMethod = .median then
          "weekly-median baseline (8/26/52-week blend; mean fallback for sparse evidence)"
        else "recency-weighted run rate (30/90/365-day blend)") ++ "."

def reasoning : String :=
  let finalText := toFixed 0 (input.finalForecast30d js now)
  let sentences : List String :=
    if input.tooNew now then
      ["No sales history yet — too new to forecast; collect sales before ordering against a prediction.",
        "Stock at the run was " ++ js.text input.currentStock ++ "."]
    else match input.demandOverride with
      | some { source := .borrowed, label, .. } =>
          ["Too new to forecast from its own sales — borrowing an established similar product's shape ("
              ++ label ++ "): " ++ finalText
              ++ " units over 30 days. Real sales take over as history builds.",
            input.safetyClause js now ++ ".", input.stockAtRun js now]
      | some { source := .ownerPrior, label, .. } =>
          ["Using the owner's expectation (" ++ label ++ "): " ++ finalText ++ " units over 30 days.",
            input.safetyClause js now ++ "; reorder point " ++ toFixed 0 (input.rop js now) ++ ".",
            input.stockAtRun js now]
      | none =>
          [input.rateSentence js now,
            if input.wasCapped js now then
              "Capped at " ++ js.text input.capMultipleOf ++ "× the best month ("
                ++ toFixed 0 (input.best now) ++ ") to block runaway numbers."
            else "",
            input.safetyClause js now ++ "; reorder point " ++ toFixed 0 (input.rop js now) ++ ".",
            input.stockAtRun js now]
  " ".intercalate (sentences.filter (· ≠ ""))

end ForecastInput

/-- The two-layer forecast. -/
def layeredForecast (js : Js) (now : Time) (input : ForecastInput) : ForecastResult where
  layer1Forecast30d := input.layer1 now
  layer1Confidence := input.layer1Confidence js now
  layer2Adjustment := input.finalForecast30d js now - input.layer1 now
  finalForecast30d := input.finalForecast30d js now
  daysUntilStockout := input.daysLeft js now
  recommendedQty := input.recommendedQty js now
  safetyStock := input.safety js now
  reorderPoint := input.rop js now
  confidence := input.layer1Confidence js now
  reasoning := input.reasoning js now
  urgency := input.urgency js now
  signals := input.signals js now
  demandStd := some (input.demandStd js now)
  confidenceWord := input.word js now
  confidenceSignals := input.confidenceSignals js now

end Restock.Forecast
