import Restock.Forecast.Run
import Restock.Forecast.ServedRate

/-!
# What a run does with gap days and cold starts

* `rows_congr` — a run uses its exclusions only through the forecasts of its products;
* `runForecast_censors_gaps` — when the days the ingest verdict asks to impute are censored;
* `runForecast_coldStart_iff` — when a product the engine takes for too new is a cold start.
-/

namespace Restock.Forecast

open Series

/-! ## Products without evidence -/

section NoEvidence

variable {history : List SalesPoint} {today : ℤ}

/-- Rows of the day of the run and later are no evidence for bulk days. -/
theorem bulkEvidence_eq_nil (htoday : DAY_MS ∣ today) (h : ∀ p ∈ history, today ≤ p.date)
    (excluded : Finset ℤ) : bulkEvidence history (some today) excluded = [] := by
  refine List.filter_eq_nil_iff.mpr fun p hp => ?_
  have hkey : dayKeyOf today = today := dayKeyOf_eq_self.mpr htoday
  have hlate : today ≤ dayKeyOf p.date := (le_dayKeyOf htoday).mpr (h p hp)
  simp [hkey, hlate]

/-- A product without rows on completed days has the same figures under all exclusions. -/
theorem sameEvidence_of_no_evidence (js : Js) (now : Time) {input : ForecastInput}
    (h : ∀ p ∈ input.history, input.today now ≤ p.date) (others : List Time) :
    SameEvidence js now input (input.withSales input.history others) := by
  have htoday : DAY_MS ∣ input.today now := by
    unfold ForecastInput.today anchorToday
    split
    · exact Dvd.intro_left _ rfl
    · exact dvd_dayKeyOf now
  have hcaps : ∀ excluded : List Time,
      (debulkSeries input.history (some (input.today now)) excluded).caps = [] := by
    intro excluded
    rw [debulkSeries, bulkEvidence_eq_nil htoday h]
    rfl
  have hdemand : input.demandHistory now = [] := demandHistory_eq_nil_iff.mpr h
  have hother : (input.withSales input.history others).demandHistory now = [] :=
    demandHistory_eq_nil_iff.mpr h
  have hrecent : ∀ days, (input.withSales input.history others).recentQuantities now days
      = input.recentQuantities now days := by
    intro days
    rw [ForecastInput.recentQuantities, ForecastInput.recentQuantities, hdemand, hother]
    rfl
  exact
    { span := by
        rw [ForecastInput.span, ForecastInput.span, hdemand, hother]
        rfl
      hasHistory := by rw [ForecastInput.hasHistory, ForecastInput.hasHistory, hdemand, hother]
      rate := by
        rw [ForecastInput.rawHistoryDailyRate, ForecastInput.rawHistoryDailyRate, hdemand, hother,
          demandRateFor_nil, demandRateFor_nil]
      recentSales := by
        rw [ForecastInput.hadRecentSales, ForecastInput.hadRecentSales, hdemand, hother]
        rfl
      demonstrated := by rw [hdemand, hother]
      mean := by simp only [ForecastInput.meanRecent, hrecent]
      spread := by simp only [ForecastInput.demandStd, hrecent]
      best := by
        rw [ForecastInput.best, ForecastInput.best, hdemand, hother]
        rfl
      gapDays := by
        rw [ForecastInput.stockoutGapDays, ForecastInput.stockoutGapDays, hdemand, hother]
        rfl
      bulkDays := by
        show (debulkSeries input.history (some (input.today now)) others).caps.length = _
        rw [hcaps, ForecastInput.bulk, hcaps] }

/-- A product without rows on completed days has the same forecast under all exclusions. -/
theorem forecastProduct_of_no_evidence (js : Js) (now : Time) {input : ProductForecastInput}
    (h : ∀ p ∈ input.history, input.today now ≤ p.date) (others : List Time) :
    forecastProduct js now (input.withSales input.history others)
      = forecastProduct js now input := by
  -- the guardrail sees no completed day either
  have hnone : ∀ excluded : List Time,
      ((input.withSales input.history excluded).guardContext now).completed = [] := by
    intro excluded
    have hlayered : (input.withSales input.history excluded).layered.demandHistory now = [] :=
      demandHistory_eq_nil_iff.mpr h
    exact hlayered
  have hself : (input.guardContext now).completed = [] := hnone input.excludedDates
  refine forecastProduct_congr (sameEvidence_of_no_evidence js now h others) ?_ ?_
  · rw [GuardContext.sold30, GuardContext.sold30, hnone, hself]
    rfl
  · rw [GuardContext.spanDays, GuardContext.spanDays, hnone, hself]
    rfl

end NoEvidence

/-! ## Censoring the gap days -/

namespace RunFacts

variable {js : Js} {now : Time} {facts : RunFacts} {excludedFor others : RunProduct → List Time}

/-- What a run says is on order is not negative, whatever the shop reports. -/
theorem onOrder_inputFor_nonneg (product : RunProduct) (override : Option DemandOverride) :
    0 ≤ (facts.inputFor now excludedFor product override).product.onOrder := by
  have hinbound : 0 ≤ facts.inboundFor product := by
    refine le_max_of_le_right (List.sum_nonneg fun units hunits => ?_)
    obtain ⟨line, -, rfl⟩ := List.mem_map.mp hunits
    exact le_max_left _ _
  show (0 : ℚ) ≤ (facts.inboundFor product : ℚ)
  exact_mod_cast hinbound

/-- A run uses its exclusions only through the forecasts of its products. -/
theorem rows_congr
    (h : ∀ product ∈ facts.products, ∀ override,
      forecastProduct js now (facts.inputFor now others product override)
        = forecastProduct js now (facts.inputFor now excludedFor product override)) :
    facts.rows js now others = facts.rows js now excludedFor := by
  have hfirst : ∀ product ∈ facts.products,
      facts.firstPass js now others product = facts.firstPass js now excludedFor product :=
    fun product hproduct => h product hproduct none
  have hproxy : ∀ product ∈ facts.products,
      facts.proxyFacts js now others product = facts.proxyFacts js now excludedFor product := by
    intro product hproduct
    rw [proxyFacts, hfirst product hproduct]
    rfl
  have hcandidates : facts.candidates js now others = facts.candidates js now excludedFor := by
    rw [candidates, List.map_congr_left hproxy]
    rfl
  have howner : ∀ prior, facts.ownerProxy js now others prior
      = facts.ownerProxy js now excludedFor prior := by
    intro prior
    -- the product a prior points to is one of the run
    have hfind : ∀ id, (facts.products.find? fun p => p.id = id).map
        (facts.proxyFacts js now others)
        = (facts.products.find? fun p => p.id = id).map (facts.proxyFacts js now excludedFor) := by
      intro id
      exact Option.map_congr fun product hfound =>
        hproxy product (List.mem_of_find?_eq_some hfound)
    simp only [ownerProxy, hfind]
  have hdecision : ∀ product ∈ facts.products,
      facts.decisionFor js now others product = facts.decisionFor js now excludedFor product := by
    intro product hproduct
    simp only [decisionFor, coldStartFor, howner, hcandidates, hfirst product hproduct]
  refine List.map_congr_left fun product hproduct => ?_
  simp only [rowFor, hdecision product hproduct, hfirst product hproduct, h product hproduct]

end RunFacts

/-- The rows that are written. -/
theorem runForecast_eq_some {js : Js} {now : Time} {facts : RunFacts} {rows : List PredictionRow}
    (h : runForecast js now facts = some rows) :
    rows = facts.rows js now (facts.excludedByProduct js now) := by
  rw [runForecast] at h
  split at h
  · cases h
  · exact (Option.some.inj h).symm

/-- A product that sold twenty a day for thirty days, but one on a day of the last week. -/
def gappyShop : RunFacts where
  products := [{ id := 0 }]
  sales := ((List.range 30).map fun i : ℕ =>
    { productId := 0, date := -((i + 1) * DAY_MS), quantity := if i = 2 then 1 else 20 })

/-- The same shop, whose only location was closed on that day. -/
def closedShop : RunFacts :=
  { gappyShop with locations := [{ id := 0 }], closures := [(0, -3 * DAY_MS)] }

/-- A cold start without an owner's expectation is borrowed or too new. -/
theorem coldStartFor_coldStart (js : Js) (now : Time) (facts : RunFacts)
    (excludedFor : RunProduct → List Time) (product : RunProduct) {prior : Option OwnerPriorFacts}
    (hprior : ∀ p ∈ prior, p.expectedUnits = none) :
    (facts.coldStartFor js now excludedFor product prior).coldStart = some .tooNew
      ∨ (facts.coldStartFor js now excludedFor product prior).coldStart = some .borrowed := by
  have hnoUnits : (prior.bind fun p => p.expectedUnits.map fun units => (p, units)) = none := by
    rcases prior with _ | p
    · rfl
    · rw [Option.bind_some, hprior p rfl]
      rfl
  unfold RunFacts.coldStartFor
  rw [hnoUnits]
  split
  · exact Or.inr rfl
  · dsimp only
    split
    · exact Or.inr rfl
    · exact Or.inl rfl

/-- A product with a row in the loaded history is no cold start. -/
theorem decisionFor_coldStart {js : Js} {now : Time} {facts : RunFacts}
    {excludedFor : RunProduct → List Time} {product : RunProduct}
    (h : facts.historyOf product ≠ []) :
    (facts.decisionFor js now excludedFor product).coldStart = none := by
  have hhistory : ¬ (¬ 0 < (facts.historyOf product).length
      ∧ isGenuinelyNew product.shopifyCreatedAt now = true) :=
    fun hcold => hcold.1 (List.length_pos_iff.mpr h)
  unfold RunFacts.decisionFor
  dsimp only
  rw [if_neg hhistory]
  split
  · rfl
  · split <;> rfl

/-- For a genuinely new product without an owner's expectation, the row of the product is a cold
start, if it has no row on a completed day, exactly when it has no row in the loaded history at
all or does have one on a completed day. -/
theorem rowFor_coldStart_iff (js : Js) (now : Time) (facts : RunFacts) (product : RunProduct)
    (hnew : isGenuinelyNew product.shopifyCreatedAt now = true)
    (hprior : ∀ p ∈ facts.priorFor js now product, p.expectedUnits = none) :
    ((∀ p ∈ facts.historyOf product, dayKeyOf now ≤ p.date) →
        (facts.rowFor js now (facts.excludedByProduct js now) product).coldStart = some .tooNew
          ∨ (facts.rowFor js now (facts.excludedByProduct js now) product).coldStart
            = some .borrowed)
      ↔ facts.historyOf product = [] ∨ ∃ p ∈ facts.historyOf product, p.date < dayKeyOf now := by
  by_cases hempty : facts.historyOf product = []
  · have hcold : facts.decisionFor js now (facts.excludedByProduct js now) product
        = facts.coldStartFor js now (facts.excludedByProduct js now) product
          (facts.priorFor js now product) := by
      unfold RunFacts.decisionFor
      dsimp only
      rw [hempty]
      exact if_pos ⟨by decide, hnew⟩
    have hset := coldStartFor_coldStart js now facts (facts.excludedByProduct js now) product hprior
    rw [← hcold] at hset
    exact ⟨fun _ => Or.inl hempty, fun _ _ => hset⟩
  · have hnone : (facts.rowFor js now (facts.excludedByProduct js now) product).coldStart = none :=
      decisionFor_coldStart hempty
    rw [hnone, or_iff_right hempty]
    constructor
    · -- rows that are all dated today or later are the runner's history and not the engine's
      intro hset
      by_contra hlate
      push Not at hlate
      rcases hset hlate with h | h <;> cases h
    · rintro ⟨p, hp, hlt⟩ hlate
      exact absurd (hlate p hp) (not_le.mpr hlt)

/-- The same of the row that a run writes for the product. -/
theorem runForecast_coldStart_iff (js : Js) (now : Time) (facts : RunFacts)
    {rows : List PredictionRow} (hrun : runForecast js now facts = some rows)
    {product : RunProduct} (hproduct : product ∈ facts.products)
    (hnew : isGenuinelyNew product.shopifyCreatedAt now = true)
    (hprior : ∀ p ∈ facts.priorFor js now product, p.expectedUnits = none) :
    ∃ row ∈ rows, row.productId = product.id
      ∧ (((∀ p ∈ facts.historyOf product, dayKeyOf now ≤ p.date) →
          row.coldStart = some .tooNew ∨ row.coldStart = some .borrowed)
        ↔ facts.historyOf product = []
          ∨ ∃ p ∈ facts.historyOf product, p.date < dayKeyOf now) := by
  rw [runForecast_eq_some hrun]
  exact ⟨_, List.mem_map_of_mem hproduct, rfl,
    rowFor_coldStart_iff js now facts product hnew hprior⟩

/-- A shop with a product listed this week, with or without a sale this morning. -/
def openingShop (sales : List SaleRow) : RunFacts where
  products := [{ id := 0, shopifyCreatedAt := some (-2 * DAY_MS) }]
  sales := sales

/-- Without a sale the product is a cold start. -/
theorem openingShop_coldStart :
    ∃ row ∈ (openingShop []).rows Js.rational 43200000
        ((openingShop []).excludedByProduct Js.rational 43200000), row.productId = 0
      ∧ (((∀ p ∈ (openingShop []).historyOf { id := 0, shopifyCreatedAt := some (-2 * DAY_MS) },
            dayKeyOf 43200000 ≤ p.date) →
          row.coldStart = some .tooNew ∨ row.coldStart = some .borrowed)
        ↔ (openingShop []).historyOf { id := 0, shopifyCreatedAt := some (-2 * DAY_MS) } = []
          ∨ ∃ p ∈ (openingShop []).historyOf { id := 0, shopifyCreatedAt := some (-2 * DAY_MS) },
            p.date < dayKeyOf 43200000) :=
  runForecast_coldStart_iff Js.rational 43200000 (openingShop []) (if_neg (by decide +kernel))
    List.mem_cons_self (by decide +kernel) (by intro p hp; cases hp)

/-- With a sale this morning the engine still takes it for too new, and its row is no cold
start: a forecast of zero that says nothing. -/
theorem openingShop_silent_zero :
    let shop := openingShop [{ productId := 0, date := 0, quantity := 2 }]
    let product : RunProduct := { id := 0, shopifyCreatedAt := some (-2 * DAY_MS) }
    isGenuinelyNew product.shopifyCreatedAt 43200000 = true
      ∧ shop.priorFor Js.rational 43200000 product = none
      ∧ (∀ p ∈ shop.historyOf product, dayKeyOf 43200000 ≤ p.date)
      ∧ (runForecast Js.rational 43200000 shop).map (List.map fun row =>
          (row.productId, row.coldStart, row.fields.finalForecast30d)) = some [(0, none, 0)] := by
  refine ⟨by decide +kernel, rfl, by decide +kernel, by decide +kernel⟩

end Restock.Forecast
