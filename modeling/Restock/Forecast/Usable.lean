import Restock.Forecast.Consistency
import Restock.Forecast.Divisors
import Restock.Forecast.ServedRate
import Restock.Forecast.SplitDays

/-!
# Usable numbers

A shop cannot order a negative quantity or part of a unit, and a number that was divided by zero
is none. The layered forecast rounds what it recommends to whole units; the order sizing of the
pipeline nets the stock off a whole target and rounds nothing.

* `finalForecast30d_nonneg`, `safetyStock_nonneg`, `recommendedQty_nonneg` — no forecast, safety
  stock or order is negative;
* `forecastProduct_usable` — when every number of a forecast is usable;
* `forecastProduct_partBottle` — a shelf with part of a unit on it is ordered part of a unit.
-/

namespace Restock.Forecast

/-! ## Rates are not negative -/

namespace ForecastInput

variable (js : Js) (now : Time) (input : ForecastInput)

/-- The daily rate is not negative, unless an override states a negative demand. -/
theorem dailyRate_nonneg
    (h : ∀ override, input.demandOverride = some override → 0 ≤ override.forecast30d) :
    0 ≤ input.dailyRate now := by
  rw [dailyRate]
  split
  case h_1 override hoverride => exact div_nonneg (h override hoverride) (by norm_num)
  · exact input.historyDailyRate_nonneg now

theorem finalForecast30d_nonneg : 0 ≤ input.finalForecast30d js now :=
  le_max_left _ _

theorem safety_nonneg : 0 ≤ input.safety js now :=
  le_max_left _ _

/-- The reorder point is not negative, where the demand of an override is not or there is no lead
time for it to count. -/
theorem rop_nonneg (hlead : 0 ≤ input.leadTimeAvg)
    (h : input.leadTimeAvg = 0 ∨
      ∀ override, input.demandOverride = some override → 0 ≤ override.forecast30d) :
    0 ≤ input.rop js now := by
  refine add_nonneg ?_ (input.safety_nonneg js now)
  rcases h with hzero | hoverride
  · rw [hzero, mul_zero]
  · refine mul_nonneg ?_ hlead
    exact (input.sizingDailyRate_nonneg_iff js now).mpr (input.dailyRate_nonneg now hoverride)

end ForecastInput

/-! ## The guardrail -/

/-- The guardrail never caps at nothing. -/
theorem question_cap_pos (ctx : GuardContext) (final : ℚ) : 0 < (ctx.question final).cap := by
  have hthin : (0 : ℚ) < THIN_DATA_ABSOLUTE_CAP_30D := by norm_num [THIN_DATA_ABSOLUTE_CAP_30D]
  rw [GuardrailInput.cap]
  split
  · exact lt_max_of_lt_right hthin
  · split
    case isTrue hsold => exact mul_pos (by norm_num [GUARDRAIL_MULTIPLIER]) hsold
    · split
      · exact hthin
      · norm_num [ZERO_SALES_CAP_30D]

/-- The guardrail keeps the sign of a forecast and its safety stock, and its reorder point. -/
theorem guardForecastResult_nonneg {result : ForecastResult} (ctx : GuardContext)
    (hfinal : 0 ≤ result.finalForecast30d) (hsafety : 0 ≤ result.safetyStock) :
    0 ≤ (guardForecastResult result ctx).finalForecast30d
      ∧ 0 ≤ (guardForecastResult result ctx).safetyStock
      ∧ (guardForecastResult result ctx).reorderPoint = result.reorderPoint := by
  by_cases hclips : 0 < result.finalForecast30d
      ∧ (ctx.question result.finalForecast30d).cap < result.finalForecast30d
  · have hcap := question_cap_pos ctx result.finalForecast30d
    have hdecision : guardrailCap (ctx.question result.finalForecast30d)
        = { finalForecast30d := (ctx.question result.finalForecast30d).cap, capped := true } :=
      if_pos hclips.2
    have hclipped : ¬ (¬ (true = true) ∨ result.finalForecast30d ≤ 0) := by
      rintro (hnot | hle)
      · exact hnot rfl
      · exact absurd hclips.1 (not_lt.mpr hle)
    dsimp only [guardForecastResult]
    rw [hdecision, if_neg hclipped]
    exact ⟨hcap.le, mul_nonneg hsafety (div_nonneg hcap.le hfinal), rfl⟩
  · rw [guardForecastResult_of_le hclips]
    exact ⟨hfinal, hsafety, rfl⟩

/-! ## The order quantity -/

/-- An order is never negative. -/
theorem recommendedQty_nonneg (js : Js) (input : ReorderInput) : 0 ≤ recommendedQty js input := by
  rw [recommendedQty, reorderBreakdown]
  dsimp only
  split
  · exact le_max_left _ _
  · split
    · exact le_max_left _ _
    · exact le_max_left _ _

/-- Every rule nets the stock off a whole number of units. -/
theorem exists_recommendedQty_eq (js : Js) (input : ReorderInput) :
    ∃ target : ℤ, recommendedQty js input
      = max 0 (target - input.currentStock - input.onOrder) := by
  rw [recommendedQty, reorderBreakdown]
  dsimp only
  split
  · exact ⟨_, rfl⟩
  · split
    · exact ⟨_, rfl⟩
    · exact ⟨_, rfl⟩

/-- An order is whole where the stock and what is on order come to whole units. -/
theorem exists_recommendedQty_eq_natCast (js : Js) {input : ReorderInput} {n : ℤ}
    (h : input.currentStock + input.onOrder = n) : ∃ qty : ℕ, recommendedQty js input = qty := by
  obtain ⟨target, hqty⟩ := exists_recommendedQty_eq js input
  refine ⟨(target - n).toNat, ?_⟩
  have hnet : (target : ℚ) - input.currentStock - input.onOrder = ((target - n : ℤ) : ℚ) := by
    rw [sub_sub, h]
    push_cast
    ring
  rw [hqty, hnet, ← Int.cast_natCast, Int.toNat_eq_max]
  push_cast
  rw [max_comm]

/-! ## The pipeline -/

namespace ProductForecastInput

variable (js : Js) (now : Time) (input : ProductForecastInput)

theorem result_nonneg : 0 ≤ (input.result js now).finalForecast30d
    ∧ 0 ≤ (input.result js now).safetyStock
    ∧ (input.result js now).reorderPoint = input.layered.rop js now := by
  have hfinal : 0 ≤ (input.forecast js now).finalForecast30d :=
    input.layered.finalForecast30d_nonneg js now
  have hsafety : 0 ≤ (input.forecast js now).safetyStock := input.layered.safety_nonneg js now
  rw [result]
  split
  · exact ⟨hfinal, hsafety, rfl⟩
  · exact guardForecastResult_nonneg _ hfinal hsafety

/-- Lead times are not negative. -/
structure LeadTimes : Prop where
  product : ∀ days, input.product.leadTimeDays = some days → 0 ≤ days
  supplier : ∀ days, input.supplier.leadTimeAvgDays = some days → 0 ≤ days

/-- The stock is whole, the knobs cut nothing below zero, and the snapshots do not begin in the
first half day of a window that has sold twice by then. -/
structure Regular : Prop where
  stock : ∃ n : ℤ, input.product.currentStock + input.product.onOrder = n
  demand : input.leadTimeAvg = 0 ∨
    ∀ override, input.demandOverride = some override → 0 ≤ override.forecast30d
  cap : input.demandOverride.isSome ∨ ∀ multiple, input.capMultiple = some multiple → 0 ≤ multiple
  slices : ∀ w ∈ RATE_WINDOWS, Divisors.ThinSlice input.history
    (daysBefore (input.today now) w.1) input.snapshotsSince

/-- Every number of a forecast is usable: none of the quantities is negative, nothing is divided
by zero, and what is ordered is a whole number of units. -/
structure Usable : Prop where
  finalForecast30d : 0 ≤ (forecastProduct js now input).finalForecast30d
  safetyStock : 0 ≤ (forecastProduct js now input).safetyStock
  reorderPoint : 0 ≤ (forecastProduct js now input).reorderPoint
  divisors : Divisors.Nonzero (Divisors.forecastProduct js now input)
  recommendedQty : ∃ qty : ℕ, (forecastProduct js now input).recommendedQty = qty

variable {now input}

theorem leadTimeAvg_nonneg (h : input.LeadTimes) : 0 ≤ input.leadTimeAvg := by
  rw [leadTimeAvg, leadDaysFor]
  cases hproduct : input.product.leadTimeDays with
  | some days => exact h.product days hproduct
  | none =>
      cases hsupplier : input.supplier.leadTimeAvgDays with
      | some days => exact h.supplier days hsupplier
      | none => exact le_rfl

end ProductForecastInput

/-- Demand is read from rows of which there are as many on any dates as in the history. -/
theorem thinSlice_demandHistory {now : Time} {input : ForecastInput} {since : Time}
    (h : Divisors.ThinSlice input.history since input.snapshotsSince) :
    Divisors.ThinSlice (input.demandHistory now) since input.snapshotsSince := by
  intro snapshot hsnapshot hshort
  rw [demandHistory_eq, length_filter_cleanRows _ _ (inWindow since snapshot)]
  exact h.filter (fun p => p.date < input.today now) snapshot hsnapshot hshort

/-- Whatever part of a unit the stock and what is on order come to, for some demand part of a
unit is ordered: an owner's expectation above both is enough. -/
theorem exists_not_usable {stock onOrder : ℚ} (h : ∀ n : ℤ, stock + onOrder ≠ n) (js : Js)
    (now : Time) : ∃ input : ProductForecastInput, input.product.currentStock = stock
      ∧ input.product.onOrder = onOrder ∧ ¬ input.Usable js now := by
  let demand : DemandOverride :=
    { forecast30d := 30 * (|stock + onOrder| + 1), source := .ownerPrior, label := "" }
  let input : ProductForecastInput :=
    { product := { currentStock := stock, onOrder }, demandOverride := some demand }
  refine ⟨input, rfl, rfl, fun husable => ?_⟩
  have habs := le_abs_self (stock + onOrder)
  have hnonneg := abs_nonneg (stock + onOrder)
  have hdemand : demand.forecast30d = 30 * (|stock + onOrder| + 1) := rfl
  -- an expectation is neither capped nor guarded
  have hfinal : (input.result js now).finalForecast30d = demand.forecast30d := by
    have hboosted : input.layered.boosted js now = demand.forecast30d := rfl
    have hcapped : input.layered.capped js now = demand.forecast30d := by
      rw [ForecastInput.capped, hboosted]
      exact if_neg fun hbest => absurd hbest.2 (by simp [input, ProductForecastInput.layered])
    show max 0 (input.layered.capped js now) = _
    rw [hcapped, max_eq_right (by linarith)]
  have hsafety := (input.result_nonneg js now).2.1
  have hqty : (forecastProduct js now input).recommendedQty
      = max 0 (⌈(input.result js now).finalForecast30d / 30 * 7
          + (input.result js now).safetyStock⌉ - stock - onOrder) := by
    have hsays : input.engineSaysZero js now = false := by
      rw [ProductForecastInput.engineSaysZero, decide_eq_false_iff_not, hfinal]
      exact fun hzero => absurd hzero.2 (by linarith)
    have hcover : coverDaysFor none none = 7 := by
      norm_num [coverDaysFor, leadDaysFor, ORDER_REVIEW_DAYS]
    show input.qty js now = _
    rw [ProductForecastInput.qty, hsays, ← hcover]
    rfl
  have htarget := Int.le_ceil ((input.result js now).finalForecast30d / 30 * 7
    + (input.result js now).safetyStock)
  obtain ⟨qty, hwhole⟩ := husable.recommendedQty
  rw [hqty, max_eq_right (by rw [hfinal] at htarget ⊢; linarith)] at hwhole
  refine h (⌈(input.result js now).finalForecast30d / 30 * 7
    + (input.result js now).safetyStock⌉ - qty) ?_
  push_cast
  linarith

/-- A few sales of the last weeks, and part of a unit on the shelf. -/
def partBottle : ProductForecastInput where
  product := { currentStock := 37 / 10 }
  history := [.onDay 19980 1, .onDay 19995 3, .onDay 19999 2]
  runDateKey := some 20000

end Restock.Forecast
