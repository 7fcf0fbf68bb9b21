import Restock.Forecast.Pipeline

/-!
# What a forecast depends on

A forecast uses its sales history and its excluded days only through a handful of figures. Two
inputs that differ in nothing else and agree on the figures have the same forecast. The engine asks a
list of excluded dates for its day keys and for whether it is empty, so adding days that are already
excluded changes no forecast.

* `SameEvidence` — two histories and exclusions give the same figures;
* `layeredForecast_congr` — the same layered forecast;
* `forecastProduct_congr` — the same forecast of a product;
* `SameExcluded` — two lists exclude the same days;
* `forecastProduct_of_sameExcluded` — and give the same forecast.
-/

namespace Restock.Forecast

/-- An input with another history and other excluded days. -/
def ForecastInput.withSales (input : ForecastInput) (history : List SalesPoint)
    (excludedDates : List Time) : ForecastInput :=
  { input with history, excludedDates }

namespace ForecastInput

section WithSales

variable (js : Js) (input : ForecastInput) (history : List SalesPoint)
  (excludedDates : List Time)

@[simp] theorem withSales_z :
    (input.withSales history excludedDates).z = input.z := rfl

@[simp] theorem withSales_leadClause :
    (input.withSales history excludedDates).leadClause js = input.leadClause js := rfl

end WithSales

end ForecastInput

/-- An input with another history and other excluded days gives the same figures. -/
structure SameEvidence (js : Js) (now : Time) (input other : ForecastInput) : Prop where
  span : other.span now = input.span now
  hasHistory : other.hasHistory now = input.hasHistory now
  rate : other.rawHistoryDailyRate now = input.rawHistoryDailyRate now
  recentSales : other.hadRecentSales now = input.hadRecentSales now
  demonstrated : demonstratedDailyRate (other.demandHistory now)
    = demonstratedDailyRate (input.demandHistory now)
  mean : other.meanRecent now = input.meanRecent now
  spread : other.demandStd js now = input.demandStd js now
  best : other.best now = input.best now
  gapDays : other.stockoutGapDays now = input.stockoutGapDays now
  bulkDays : (other.bulk now).caps.length = (input.bulk now).caps.length

namespace SameEvidence

variable {js : Js} {now : Time} {input : ForecastInput} {history : List SalesPoint}
  {excludedDates : List Time}
  (h : SameEvidence js now input (input.withSales history excludedDates))

include h

/-! ### The first layer -/

theorem isNew : (input.withSales history excludedDates).isNew now = input.isNew now := by
  simp only [ForecastInput.isNew, h.span]

theorem abcFloor : (input.withSales history excludedDates).abcFloor now = input.abcFloor now := by
  rw [ForecastInput.abcFloor, h.recentSales]
  rfl

theorem historyDailyRate :
    (input.withSales history excludedDates).historyDailyRate now = input.historyDailyRate now := by
  rw [ForecastInput.historyDailyRate, h.rate, h.recentSales, h.demonstrated]
  rfl

theorem rateHeldAtFloor :
    (input.withSales history excludedDates).rateHeldAtFloor now = input.rateHeldAtFloor now := by
  simp only [ForecastInput.rateHeldAtFloor, h.rate, h.historyDailyRate]

theorem heldAtDemonstrated :
    (input.withSales history excludedDates).heldAtDemonstrated now
      = input.heldAtDemonstrated now := by
  simp only [ForecastInput.heldAtDemonstrated, h.rateHeldAtFloor, h.historyDailyRate, h.abcFloor]

theorem dailyRate :
    (input.withSales history excludedDates).dailyRate now = input.dailyRate now := by
  rw [ForecastInput.dailyRate, h.historyDailyRate]
  rfl

theorem layer1 : (input.withSales history excludedDates).layer1 now = input.layer1 now := by
  rw [ForecastInput.layer1, h.historyDailyRate]
  rfl

theorem cv : (input.withSales history excludedDates).cv js now = input.cv js now := by
  simp only [ForecastInput.cv, h.mean, h.spread]

theorem layer1Confidence :
    (input.withSales history excludedDates).layer1Confidence js now
      = input.layer1Confidence js now := by
  simp only [ForecastInput.layer1Confidence, h.cv, h.hasHistory, h.isNew]

/-! ### The second layer -/

theorem boosted :
    (input.withSales history excludedDates).boosted js now = input.boosted js now := by
  rw [ForecastInput.boosted, h.layer1]
  rfl

theorem capped : (input.withSales history excludedDates).capped js now = input.capped js now := by
  rw [ForecastInput.capped, h.best, h.boosted]
  rfl

theorem wasCapped :
    (input.withSales history excludedDates).wasCapped js now = input.wasCapped js now := by
  simp only [ForecastInput.wasCapped, h.capped, h.boosted]

theorem finalForecast30d :
    (input.withSales history excludedDates).finalForecast30d js now
      = input.finalForecast30d js now := by
  rw [ForecastInput.finalForecast30d, h.capped]
  rfl

theorem effectiveSeasonal :
    (input.withSales history excludedDates).effectiveSeasonal js now
      = input.effectiveSeasonal js now := by
  rw [ForecastInput.effectiveSeasonal, ForecastInput.clipRatio, h.boosted, h.capped]
  rfl

/-! ### Inventory -/

theorem sizingDailyRate :
    (input.withSales history excludedDates).sizingDailyRate js now
      = input.sizingDailyRate js now := by
  rw [ForecastInput.sizingDailyRate, h.dailyRate, h.effectiveSeasonal]
  rfl

theorem safety : (input.withSales history excludedDates).safety js now = input.safety js now := by
  rw [ForecastInput.safety, h.sizingDailyRate, h.spread]
  rfl

theorem rop : (input.withSales history excludedDates).rop js now = input.rop js now := by
  rw [ForecastInput.rop, h.sizingDailyRate, h.safety]
  rfl

theorem daysLeft :
    (input.withSales history excludedDates).daysLeft js now = input.daysLeft js now := by
  rw [ForecastInput.daysLeft, h.sizingDailyRate]
  rfl

theorem isDead : (input.withSales history excludedDates).isDead now = input.isDead now := by
  simp only [ForecastInput.isDead, h.hasHistory, h.historyDailyRate]
  rfl

theorem tooNew : (input.withSales history excludedDates).tooNew now = input.tooNew now := by
  simp only [ForecastInput.tooNew, h.hasHistory]
  rfl

theorem urgency :
    (input.withSales history excludedDates).urgency js now = input.urgency js now := by
  simp only [ForecastInput.urgency, h.isDead, h.tooNew, h.daysLeft, h.sizingDailyRate]

theorem recommendedQty :
    (input.withSales history excludedDates).recommendedQty js now
      = input.recommendedQty js now := by
  simp only [ForecastInput.recommendedQty, h.isDead, h.tooNew, h.finalForecast30d, h.safety]
  rfl

/-! ### The confidence word -/

theorem confidenceSignals :
    (input.withSales history excludedDates).confidenceSignals js now
      = input.confidenceSignals js now := by
  simp only [ForecastInput.confidenceSignals, h.span, h.cv, h.gapDays, h.tooNew]
  rfl

theorem word : (input.withSales history excludedDates).word js now = input.word js now := by
  rw [ForecastInput.word, h.confidenceSignals]
  rfl

/-! ### The texts -/

theorem spanText : (input.withSales history excludedDates).spanText now = input.spanText now := by
  rw [ForecastInput.spanText, h.span]
  rfl

theorem signals :
    (input.withSales history excludedDates).signals js now = input.signals js now := by
  simp only [ForecastInput.signals, h.bulkDays, h.wasCapped, h.capped, h.boosted, h.tooNew, h.isNew,
    h.hasHistory, h.spanText]
  rfl

theorem stockAtRun :
    (input.withSales history excludedDates).stockAtRun js now = input.stockAtRun js now := by
  rw [ForecastInput.stockAtRun, h.daysLeft]
  rfl

theorem safetyClause :
    (input.withSales history excludedDates).safetyClause js now = input.safetyClause js now := by
  unfold ForecastInput.safetyClause
  rw [h.safety, ForecastInput.withSales_z, ForecastInput.withSales_leadClause]
  rfl

theorem rateSentence :
    (input.withSales history excludedDates).rateSentence js now = input.rateSentence js now := by
  simp only [ForecastInput.rateSentence, h.finalForecast30d, h.heldAtDemonstrated,
    h.historyDailyRate, h.rateHeldAtFloor, h.abcFloor, h.isNew, h.spanText]
  rfl

theorem reasoning :
    (input.withSales history excludedDates).reasoning js now = input.reasoning js now := by
  simp only [ForecastInput.reasoning, h.finalForecast30d, h.tooNew, h.safetyClause, h.stockAtRun,
    h.rop, h.rateSentence, h.wasCapped, h.best]
  rfl

end SameEvidence

/-- The same figures give the same layered forecast. -/
theorem layeredForecast_congr {js : Js} {now : Time} {input : ForecastInput}
    {history : List SalesPoint} {excludedDates : List Time}
    (h : SameEvidence js now input (input.withSales history excludedDates)) :
    layeredForecast js now (input.withSales history excludedDates)
      = layeredForecast js now input := by
  simp only [layeredForecast, h.layer1, h.layer1Confidence, h.finalForecast30d, h.daysLeft,
    h.recommendedQty, h.safety, h.rop, h.reasoning, h.urgency, h.signals, h.spread, h.word,
    h.confidenceSignals]

/-! ## The pipeline -/

/-- The guardrail asks a context only for its figures. -/
theorem guardForecastResult_congr {result : ForecastResult} {ctx ctx' : GuardContext}
    (hstock : ctx'.currentStock = ctx.currentStock) (hsold : ctx'.sold30 = ctx.sold30)
    (hspan : ctx'.spanDays = ctx.spanDays) (hout : ctx'.stockoutDays30 = ctx.stockoutDays30) :
    guardForecastResult result ctx' = guardForecastResult result ctx := by
  have hquestion : ∀ final, ctx'.question final = ctx.question final := by
    intro final
    rw [GuardContext.question, GuardContext.question, hstock, hsold, hspan, hout]
  have hsignal : ∀ decision ratio, ctx'.signal decision ratio = ctx.signal decision ratio := by
    intro decision ratio
    unfold GuardContext.signal
    rw [hsold, hspan, hout]
  unfold guardForecastResult
  rw [hquestion, hstock]
  dsimp only
  rw [hsignal]

namespace ProductForecastInput

/-- An input with another history and other excluded days. -/
def withSales (input : ProductForecastInput) (history : List SalesPoint)
    (excludedDates : List Time) : ProductForecastInput :=
  { input with history, excludedDates }

variable {js : Js} {now : Time} {input : ProductForecastInput} {history : List SalesPoint}
  {excludedDates : List Time}

/-- The same figures give the same guarded forecast. -/
theorem result_congr
    (h : SameEvidence js now input.layered (input.layered.withSales history excludedDates))
    (hsold : ((input.withSales history excludedDates).guardContext now).sold30
      = (input.guardContext now).sold30)
    (hspan : ((input.withSales history excludedDates).guardContext now).spanDays
      = (input.guardContext now).spanDays) :
    (input.withSales history excludedDates).result js now = input.result js now := by
  have hforecast : (input.withSales history excludedDates).forecast js now
      = input.forecast js now := layeredForecast_congr h
  have hguard : guardForecastResult (input.forecast js now)
      ((input.withSales history excludedDates).guardContext now)
      = guardForecastResult (input.forecast js now) (input.guardContext now) :=
    guardForecastResult_congr rfl hsold hspan rfl
  rw [result, hforecast, hguard]
  rfl

end ProductForecastInput

/-- The same figures give the same forecast of a product. -/
theorem forecastProduct_congr {js : Js} {now : Time} {input : ProductForecastInput}
    {history : List SalesPoint} {excludedDates : List Time}
    (h : SameEvidence js now input.layered (input.layered.withSales history excludedDates))
    (hsold : ((input.withSales history excludedDates).guardContext now).sold30
      = (input.guardContext now).sold30)
    (hspan : ((input.withSales history excludedDates).guardContext now).spanDays
      = (input.guardContext now).spanDays) :
    forecastProduct js now (input.withSales history excludedDates)
      = forecastProduct js now input := by
  have hresult := ProductForecastInput.result_congr h hsold hspan
  have hreorder : (input.withSales history excludedDates).reorderInput js now
      = input.reorderInput js now := by
    rw [ProductForecastInput.reorderInput, hresult]
    rfl
  have hqty : (input.withSales history excludedDates).qty js now = input.qty js now := by
    rw [ProductForecastInput.qty, ProductForecastInput.engineSaysZero, hresult, hreorder]
    rfl
  simp only [forecastProduct, hresult, hqty, hreorder]
  rfl

/-! ## Excluded days -/

section Excluded

open Series

/-- Two lists of dates exclude the same days, and both or neither exclude any. -/
structure SameExcluded (dates others : List Time) : Prop where
  keys : dayKeySet others = dayKeySet dates
  none : others = [] ↔ dates = []

/-- Days that are excluded already exclude nothing more. -/
theorem sameExcluded_append {dates more : List Time}
    (h : ∀ d ∈ more, dayKeyOf d ∈ dayKeySet dates) : SameExcluded dates (dates ++ more) where
  keys := by
    ext k
    simp only [dayKeySet, List.map_append, List.toFinset_append, Finset.mem_union]
    refine or_iff_left_of_imp fun hk => ?_
    rw [List.mem_toFinset, List.mem_map] at hk
    obtain ⟨d, hd, rfl⟩ := hk
    exact h d hd
  none := by
    rw [List.append_eq_nil_iff]
    refine ⟨fun hnil => hnil.1, fun hnil => ⟨hnil, ?_⟩⟩
    -- with nothing excluded there is nothing more
    subst hnil
    refine List.eq_nil_iff_forall_not_mem.mpr fun d hd => ?_
    exact absurd (h d hd) (Finset.notMem_empty _)

namespace SameExcluded

variable {dates others : List Time} (h : SameExcluded dates others)

include h

/-! ### Denominators -/

theorem blockedDaysInWindow (stockoutDates : List Time) (since asOf : Time) :
    Forecast.blockedDaysInWindow stockoutDates others since asOf
      = Forecast.blockedDaysInWindow stockoutDates dates since asOf := by
  simp only [Forecast.blockedDaysInWindow, h.keys, h.none]

theorem gapDaysInWindow (history : List SalesPoint) (since asOf : Time) (minGap : ℤ) :
    Forecast.gapDaysInWindow history since asOf minGap others
      = Forecast.gapDaysInWindow history since asOf minGap dates := by
  simp only [Forecast.gapDaysInWindow, h.keys]

theorem uncoveredGapDays (history : List SalesPoint) (since asOf : Time)
    (snapshotsSince : Option Time) :
    Forecast.uncoveredGapDays history since asOf snapshotsSince others
      = Forecast.uncoveredGapDays history since asOf snapshotsSince dates := by
  simp only [Forecast.uncoveredGapDays, h.gapDaysInWindow]

/-! ### Rates -/

theorem weightedDailyRateAdjusted (history : List SalesPoint) (asOf : Time) :
    Forecast.weightedDailyRateAdjusted history asOf others
      = Forecast.weightedDailyRateAdjusted history asOf dates := by
  simp only [Forecast.weightedDailyRateAdjusted, h.keys, h.gapDaysInWindow]

theorem weightedDailyRateCensored (history : List SalesPoint) (stockoutDates : List Time)
    (asOf : Time) (snapshotsSince : Option Time) :
    Forecast.weightedDailyRateCensored history stockoutDates asOf others snapshotsSince
      = Forecast.weightedDailyRateCensored history stockoutDates asOf dates snapshotsSince := by
  simp only [Forecast.weightedDailyRateCensored, h.weightedDailyRateAdjusted, h.keys,
    h.blockedDaysInWindow, h.uncoveredGapDays]

theorem weightedDailyRateMedianCensored (history : List SalesPoint) (stockoutDates : List Time)
    (asOf : Time) (snapshotsSince : Option Time) :
    Forecast.weightedDailyRateMedianCensored history stockoutDates asOf others snapshotsSince
      = Forecast.weightedDailyRateMedianCensored history stockoutDates asOf dates
          snapshotsSince := by
  simp only [Forecast.weightedDailyRateMedianCensored, h.keys]

theorem rateOverWindow (history : List SalesPoint) (today : Time) (windowDays : ℤ)
    (stockoutDates : List Time) :
    Forecast.rateOverWindow history today windowDays stockoutDates others
      = Forecast.rateOverWindow history today windowDays stockoutDates dates := by
  simp only [Forecast.rateOverWindow, h.keys, h.none, h.blockedDaysInWindow, ne_eq]

theorem debulkSeries (history : List SalesPoint) (asOf : Option Time) :
    Forecast.debulkSeries history asOf others = Forecast.debulkSeries history asOf dates := by
  simp only [Forecast.debulkSeries, h.keys]

theorem runRateDaily (history : List SalesPoint) (today : Time) (stockoutDates : List Time)
    (snapshotsSince : Option Time) (method : BaselineMethod) (damping : Bool) :
    Forecast.runRateDaily history today stockoutDates others snapshotsSince method damping
      = Forecast.runRateDaily history today stockoutDates dates snapshotsSince method damping := by
  simp only [Forecast.runRateDaily, h.debulkSeries, h.rateOverWindow,
    h.weightedDailyRateMedianCensored, h.weightedDailyRateCensored, h.weightedDailyRateAdjusted]

theorem demandRateFor (demand : DemandMethod) (history : List SalesPoint) (today : Time)
    (stockoutDates : List Time) (snapshotsSince : Option Time) (method : BaselineMethod)
    (damping : Bool) :
    Forecast.demandRateFor demand history today stockoutDates others snapshotsSince method damping
      = Forecast.demandRateFor demand history today stockoutDates dates snapshotsSince method
          damping := by
  simp only [Forecast.demandRateFor, h.debulkSeries, h.rateOverWindow, h.runRateDaily]

end SameExcluded

/-! ## Forecasts -/

/-- Inputs that exclude the same days give the same figures. -/
theorem sameEvidence_of_sameExcluded (js : Js) (now : Time) {input : ForecastInput}
    {others : List Time} (h : SameExcluded input.excludedDates others) :
    SameEvidence js now input (input.withSales input.history others) := by
  have hbulk : (input.withSales input.history others).bulk now = input.bulk now :=
    h.debulkSeries _ _
  have hdemand : (input.withSales input.history others).demandHistory now
      = input.demandHistory now := by
    rw [ForecastInput.demandHistory, hbulk]
    rfl
  have hrate : (input.withSales input.history others).rawHistoryDailyRate now
      = input.rawHistoryDailyRate now := by
    rw [ForecastInput.rawHistoryDailyRate, hdemand]
    exact h.demandRateFor _ _ _ _ _ _ _
  have hrecent : ∀ days, (input.withSales input.history others).recentQuantities now days
      = input.recentQuantities now days := by
    intro days
    rw [ForecastInput.recentQuantities, hdemand]
    rfl
  exact
    { span := by
        rw [ForecastInput.span, hdemand]
        rfl
      hasHistory := by
        rw [ForecastInput.hasHistory, hdemand]
        rfl
      rate := hrate
      recentSales := by
        rw [ForecastInput.hadRecentSales, hdemand]
        rfl
      demonstrated := by rw [hdemand]
      mean := by simp only [ForecastInput.meanRecent, hrecent]
      spread := by simp only [ForecastInput.demandStd, hrecent]
      best := by
        rw [ForecastInput.best, hdemand]
        rfl
      gapDays := by
        rw [ForecastInput.stockoutGapDays, hdemand]
        rfl
      bulkDays := by rw [hbulk] }

/-- Excluding the same days gives the same forecast of a product. -/
theorem forecastProduct_of_sameExcluded (js : Js) (now : Time) {input : ProductForecastInput}
    {others : List Time} (h : SameExcluded input.excludedDates others) :
    forecastProduct js now (input.withSales input.history others)
      = forecastProduct js now input := by
  have hctx : (input.withSales input.history others).guardContext now
      = input.guardContext now := by
    rw [ProductForecastInput.guardContext, ProductForecastInput.guardContext]
    show GuardContext.mk (if input.bigBuyerDamping then
      (debulkSeries input.history (some (input.today now)) others).series else input.history) _ _ _
      = _
    rw [h.debulkSeries]
    rfl
  have hevidence : SameEvidence js now input.layered
      (input.layered.withSales input.layered.history others) :=
    sameEvidence_of_sameExcluded js now h
  exact forecastProduct_congr hevidence (by rw [hctx]) (by rw [hctx])

end Excluded

end Restock.Forecast
