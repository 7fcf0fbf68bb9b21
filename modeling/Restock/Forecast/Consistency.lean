import Restock.Forecast.Pipeline

/-!
# How the fields of a forecast hang together

One daily rate should stand behind the forecast, its cover, its reorder point and its urgency.
The layered forecast computes them from one; the guardrail then rewrites some of them. The class
floor asks whether the shelf was empty for most of the days the snapshots prove anything about, the
guardrail whether it was for more than seven days of thirty.

* `Consistent` — the fields agree on one rate;
* `layeredForecast_rate_iff` — the layered forecast agrees on one, unless its rate is negative;
* `forecastProduct_consistent_iff` — the pipeline does exactly when the guardrail clips nothing;
* `historyDailyRate_le_floor`, `guard_keeps_floor_iff` — when a lifted forecast keeps its floor.
-/

namespace Restock.Forecast

/-! ## The layered forecast -/

/-- A stated season is a factor between its bounds. -/
theorem clampSeason_pos (value : ℚ) : 0 < clampSeason value := by
  have hmin : (0 : ℚ) < SEASONAL_MIN := by norm_num [SEASONAL_MIN]
  have hmax : (0 : ℚ) < SEASONAL_MAX := by norm_num [SEASONAL_MAX]
  exact lt_min hmax (lt_max_of_lt_left hmin)

/-- The season of a horizon is positive. -/
theorem blendedSeasonalMultiplier_pos (expectations : List MonthlyExpectation) (today : Time) :
    0 < blendedSeasonalMultiplier expectations today := by
  rw [blendedSeasonalMultiplier]
  split
  · norm_num
  · exact clampSeason_pos _

namespace ForecastInput

variable (js : Js) (now : Time) (input : ForecastInput)

/-- The season that sizes orders is positive. -/
theorem effectiveSeasonal_pos : 0 < input.effectiveSeasonal js now := by
  have hseason : 0 < input.seasonalApplied now := by
    rw [seasonalApplied]
    split
    · exact blendedSeasonalMultiplier_pos _ _
    · norm_num
  rw [effectiveSeasonal]
  split
  · exact lt_max_of_lt_left one_pos
  · exact hseason

/-- The rate that sizes orders has the sign of the daily rate. -/
theorem sizingDailyRate_nonneg_iff :
    0 ≤ input.sizingDailyRate js now ↔ 0 ≤ input.dailyRate now := by
  rw [sizingDailyRate, mul_nonneg_iff_of_pos_right (input.effectiveSeasonal_pos js now)]

/-- Where the owner has told nothing, the forecast is the run rate, capped. -/
theorem finalForecast30d_of_plain (hpromos : input.activePromos = [])
    (hseasons : input.monthlyExpectations = []) (hoverride : input.demandOverride = none) :
    input.finalForecast30d js now = max 0
      (if 0 < input.best now then
        min (input.layer1 now) (input.capMultipleOf * input.best now)
      else input.layer1 now) := by
  have hpromo : input.promoApplies js = false := by
    have hlift : (input.promo js).lift = 1 := by
      rw [promo, hpromos]
      rfl
    rw [promoApplies, decide_eq_false_iff_not, hlift]
    norm_num
  have hseason : input.seasonLabel now = none := by
    rw [seasonLabel, seasonal, hseasons]
    show (if _ then none else seasonalLabel 1) = none
    rw [show seasonalLabel 1 = none from if_pos (by norm_num), ite_self]
  have hboosted : input.boosted js now = input.layer1 now := by
    simp only [boosted, hpromo, hseason, Option.isSome_none, Bool.false_eq_true, if_false]
  rw [finalForecast30d, capped, hboosted, hoverride]
  simp only [Option.isNone_none, and_true]

end ForecastInput

/-- One rate, not negative, gives the cover, the reorder point and the urgency. -/
def OneRate (silent : Prop) (currentStock leadTime : ℚ) (daysUntilStockout : ℤ)
    (rop safetyStock : ℚ) (urgency : Urgency) : Prop :=
  ∃ r, 0 ≤ r ∧ daysUntilStockout = daysOfStockRemaining currentStock r
    ∧ rop = r * leadTime + safetyStock
    ∧ (silent ∧ urgency = .low ∨ urgency = urgencyFromDays daysUntilStockout r)

/-- Behind the layered forecast there is one rate exactly when its daily rate is not negative;
without a lead time the rate does not show in the reorder point, and zero does as well. -/
theorem layeredForecast_rate_iff (js : Js) (now : Time) (input : ForecastInput) :
    OneRate (input.isDead now ∨ input.tooNew now) input.currentStock input.leadTimeAvg
        (layeredForecast js now input).daysUntilStockout
        (layeredForecast js now input).reorderPoint
        (layeredForecast js now input).safetyStock (layeredForecast js now input).urgency
      ↔ 0 ≤ input.dailyRate now ∨ input.leadTimeAvg = 0 := by
  set rate := input.sizingDailyRate js now with hrate
  have hdays : (layeredForecast js now input).daysUntilStockout
      = daysOfStockRemaining input.currentStock rate := rfl
  have hrop : (layeredForecast js now input).reorderPoint
      = rate * input.leadTimeAvg + (layeredForecast js now input).safetyStock := rfl
  have hurgency : (layeredForecast js now input).urgency
      = if input.isDead now ∨ input.tooNew now then .low
        else urgencyFromDays (daysOfStockRemaining input.currentStock rate) rate := rfl
  have hurgent : ∀ r : ℚ, (urgencyFromDays (daysOfStockRemaining input.currentStock rate) rate
        = urgencyFromDays (daysOfStockRemaining input.currentStock rate) r) →
      (input.isDead now ∨ input.tooNew now) ∧ (layeredForecast js now input).urgency = .low
        ∨ (layeredForecast js now input).urgency
          = urgencyFromDays (layeredForecast js now input).daysUntilStockout r := by
    intro r heq
    rw [hurgency, hdays]
    by_cases hsilent : input.isDead now = true ∨ input.tooNew now = true
    · rw [if_pos hsilent]
      exact Or.inl ⟨hsilent, rfl⟩
    · rw [if_neg hsilent]
      exact Or.inr heq
  rw [← input.sizingDailyRate_nonneg_iff js now, ← hrate]
  constructor
  · rintro ⟨r, hr, _, heq, _⟩
    -- with a lead time the reorder point determines the rate
    by_cases hlead : input.leadTimeAvg = 0
    · exact Or.inr hlead
    · rw [hrop, add_left_inj] at heq
      rw [mul_right_cancel₀ hlead heq]
      exact Or.inl hr
  · rintro (hnonneg | hlead)
    · exact ⟨rate, hnonneg, hdays, hrop, hurgent rate rfl⟩
    · by_cases hnonneg : 0 ≤ rate
      · exact ⟨rate, hnonneg, hdays, hrop, hurgent rate rfl⟩
      · -- a negative rate gives the cover of no demand at all
        rw [not_le] at hnonneg
        have hnone : daysOfStockRemaining input.currentStock rate = NO_STOCKOUT_DAYS :=
          if_pos (hnonneg.le.trans (by norm_num))
        have hzero : daysOfStockRemaining input.currentStock 0 = NO_STOCKOUT_DAYS :=
          if_pos (by norm_num)
        refine ⟨0, le_refl 0, ?_, ?_, hurgent 0 ?_⟩
        · rw [hdays, hnone, hzero]
        · rw [hrop, hlead, mul_zero, mul_zero]
        · rw [hnone]
          rfl

/-! ## The guardrail -/

/-- A forecast the guardrail does not clip is left as it is. -/
theorem guardForecastResult_of_le {result : ForecastResult} {ctx : GuardContext}
    (h : ¬ (0 < result.finalForecast30d
      ∧ (ctx.question result.finalForecast30d).cap < result.finalForecast30d)) :
    guardForecastResult result ctx = result := by
  have hkept : ¬ (guardrailCap (ctx.question result.finalForecast30d)).capped
      ∨ result.finalForecast30d ≤ 0 := by
    rw [not_and_or, not_lt, not_lt] at h
    rcases h with hzero | hle
    · exact Or.inr hzero
    · refine Or.inl ?_
      have hdecision : guardrailCap (ctx.question result.finalForecast30d)
          = { finalForecast30d := result.finalForecast30d, capped := false } :=
        if_neg (not_lt.mpr hle)
      rw [hdecision]
      exact Bool.false_ne_true
  exact if_pos hkept

/-- A forecast the guardrail clips is cut to the cap, its safety stock in the same ratio, and its
layers are not. -/
theorem guardForecastResult_of_lt {result : ForecastResult} {ctx : GuardContext}
    (hpos : 0 < result.finalForecast30d)
    (hcap : (ctx.question result.finalForecast30d).cap < result.finalForecast30d) :
    (guardForecastResult result ctx).finalForecast30d
        = (ctx.question result.finalForecast30d).cap
      ∧ (guardForecastResult result ctx).layer1Forecast30d = result.layer1Forecast30d
      ∧ (guardForecastResult result ctx).layer2Adjustment = result.layer2Adjustment
      ∧ (guardForecastResult result ctx).safetyStock = result.safetyStock
          * ((ctx.question result.finalForecast30d).cap / result.finalForecast30d) := by
  have hdecision : guardrailCap (ctx.question result.finalForecast30d)
      = { finalForecast30d := (ctx.question result.finalForecast30d).cap, capped := true } :=
    if_pos hcap
  have hclipped : ¬ (¬ (guardrailCap (ctx.question result.finalForecast30d)).capped
      ∨ result.finalForecast30d ≤ 0) := by
    rw [hdecision]
    rintro (hnot | hle)
    · exact hnot rfl
    · exact absurd hpos (not_lt.mpr hle)
  dsimp only [guardForecastResult]
  rw [if_neg hclipped, hdecision]
  exact ⟨rfl, rfl, rfl, rfl⟩

/-! ## The pipeline -/

namespace ProductForecastInput

variable (js : Js) (now : Time) (input : ProductForecastInput)

/-- The guardrail cuts the layered forecast: no override states the demand, and the forecast is
above the cap. -/
def Clips : Prop :=
  input.demandOverride = none ∧ 0 < (input.forecast js now).finalForecast30d
    ∧ ((input.guardContext now).question (input.forecast js now).finalForecast30d).cap
      < (input.forecast js now).finalForecast30d

/-- Without an override the result is what the guardrail leaves of the layered forecast. -/
theorem result_of_none (h : input.demandOverride = none) :
    input.result js now
      = guardForecastResult (input.forecast js now) (input.guardContext now) := by
  rw [result, h]
  exact if_neg Bool.false_ne_true

/-- Where the guardrail does not clip, the result is the layered forecast. -/
theorem result_of_not_clips (h : ¬ input.Clips js now) :
    input.result js now = input.forecast js now := by
  cases hoverride : input.demandOverride with
  | none =>
      rw [input.result_of_none js now hoverride]
      exact guardForecastResult_of_le fun hclip => h ⟨hoverride, hclip⟩
  | some override =>
      rw [result, hoverride]
      rfl

/-- Where it does, the forecast is cut to the cap while its layers stay. -/
theorem result_of_clips (h : input.Clips js now) :
    (input.result js now).finalForecast30d < (input.forecast js now).finalForecast30d
      ∧ (input.result js now).layer1Forecast30d = (input.forecast js now).layer1Forecast30d
      ∧ (input.result js now).layer2Adjustment = (input.forecast js now).layer2Adjustment := by
  obtain ⟨hoverride, hpos, hcap⟩ := h
  obtain ⟨hfinal, hlayer1, hlayer2, -⟩ := guardForecastResult_of_lt hpos hcap
  rw [input.result_of_none js now hoverride]
  exact ⟨hfinal.trans_lt hcap, hlayer1, hlayer2⟩

/-- The fields of the forecast of a product agree: the layers add up, and one rate gives the
cover, the reorder point and the urgency. -/
def Consistent : Prop :=
  (forecastProduct js now input).finalForecast30d
      = (forecastProduct js now input).layer1Forecast30d
        + (forecastProduct js now input).layer2Adjustment
    ∧ OneRate (input.layered.isDead now ∨ input.layered.tooNew now) input.product.currentStock
        input.leadTimeAvg (forecastProduct js now input).daysUntilStockout
        (forecastProduct js now input).reorderPoint (forecastProduct js now input).safetyStock
        (forecastProduct js now input).urgency

end ProductForecastInput

/-- The fields of a forecast agree exactly when the guardrail does not clip it and, for a
product with a lead time, its daily rate is not negative. -/
theorem forecastProduct_consistent_iff (js : Js) (now : Time) (input : ProductForecastInput) :
    input.Consistent js now ↔ ¬ input.Clips js now
      ∧ (0 ≤ input.layered.dailyRate now ∨ input.leadTimeAvg = 0) := by
  have hlayers : (input.forecast js now).layer1Forecast30d
      + (input.forecast js now).layer2Adjustment = (input.forecast js now).finalForecast30d :=
    add_sub_cancel _ _
  by_cases hclips : input.Clips js now
  · obtain ⟨hless, hlayer1, hlayer2⟩ := input.result_of_clips js now hclips
    constructor
    · rintro ⟨hsum, _⟩
      -- the layers still add up to the number before the cut
      replace hsum : (input.result js now).finalForecast30d
        = (input.result js now).layer1Forecast30d + (input.result js now).layer2Adjustment := hsum
      rw [hlayer1, hlayer2, hlayers] at hsum
      exact absurd hsum hless.ne
    · exact fun h => absurd hclips h.1
  · have hresult := input.result_of_not_clips js now hclips
    have hrate := layeredForecast_rate_iff js now input.layered
    have hfields : input.Consistent js now ↔
        (input.result js now).finalForecast30d
            = (input.result js now).layer1Forecast30d + (input.result js now).layer2Adjustment
          ∧ OneRate (input.layered.isDead now ∨ input.layered.tooNew now)
              input.product.currentStock input.leadTimeAvg
              (input.result js now).daysUntilStockout (input.result js now).reorderPoint
              (input.result js now).safetyStock (input.result js now).urgency := Iff.rfl
    rw [hfields, hresult]
    constructor
    · rintro ⟨_, hone⟩
      exact ⟨hclips, hrate.mp hone⟩
    · rintro ⟨_, hnonneg⟩
      exact ⟨hlayers.symm, hrate.mpr hnonneg⟩

/-- A product that sold a hundred sixty days ago and one since: its blended rate is many times
what it sold in the last thirty days. -/
def staleBestseller : ProductForecastInput where
  history := [{ date := -60 * DAY_MS, quantity := 100 }, { date := -DAY_MS, quantity := 1 }]
  runDateKey := some 0

/-- Its forecast is cut, and its layers no longer add up to it. -/
theorem staleBestseller_not_consistent : ¬ ∃ js : Js, staleBestseller.Consistent js 0 := by
  rintro ⟨js, hconsistent⟩
  refine ((forecastProduct_consistent_iff js 0 staleBestseller).mp hconsistent).1 ?_
  have hfinal : (staleBestseller.forecast js 0).finalForecast30d = 357017 / 11680 := by
    refine (staleBestseller.layered.finalForecast30d_of_plain js 0 rfl rfl rfl).trans ?_
    decide +kernel
  refine ⟨rfl, ?_⟩
  rw [hfinal]
  decide +kernel

/-- A rate that is lifted is lifted to at most the class floor. -/
theorem applyAbcRateFloor_le {rate : ℚ} {abc : Option String} {recent empty : Bool}
    {demonstrated : Option ℚ} (h : rate < applyAbcRateFloor rate abc recent empty demonstrated) :
    applyAbcRateFloor rate abc recent empty demonstrated ≤ abcFloorFor abc recent empty := by
  rw [applyAbcRateFloor] at h ⊢
  split at h
  · exact absurd h (lt_irrefl rate)
  · rename_i hfloor
    rw [if_neg hfloor]
    exact max_le (not_le.mp hfloor).le (min_le_left _ _)

/-- A class floor is at most two units in five days. -/
theorem abcFloorFor_le (abc : Option String) (recent empty : Bool) :
    abcFloorFor abc recent empty ≤ 2 / 5 := by
  rw [abcFloorFor, abcRateFloor]
  split
  · split
    · exact le_refl _
    · split <;> norm_num
  · norm_num

namespace ProductForecastInput

variable (js : Js) (now : Time) (input : ProductForecastInput)

/-- A month of a lifted rate is under the thin-data ceiling. -/
theorem lifted_le_thinCap (h : input.layered.rateHeldAtFloor now = true) :
    input.layered.historyDailyRate now * 30 ≤ THIN_DATA_ABSOLUTE_CAP_30D := by
  rw [ForecastInput.rateHeldAtFloor, decide_eq_true_eq] at h
  have hfloor : input.layered.historyDailyRate now ≤ 2 / 5 :=
    (applyAbcRateFloor_le h).trans (abcFloorFor_le _ _ _)
  rw [THIN_DATA_ABSOLUTE_CAP_30D]
  linarith

/-- What the guardrail holds a product with enough history and shelf to. -/
def yardstick (sold30 : ℚ) : ℚ :=
  if 0 < sold30 then GUARDRAIL_MULTIPLIER * sold30 else ZERO_SALES_CAP_30D

/-- The guardrail leaves a number up to its cap at least that number. -/
theorem le_result_iff (hoverride : input.demandOverride = none) {bound : ℚ}
    (hbound : bound ≤ (input.forecast js now).finalForecast30d) :
    bound ≤ (input.result js now).finalForecast30d
      ↔ (input.forecast js now).finalForecast30d ≤ 0
        ∨ bound ≤ ((input.guardContext now).question
          (input.forecast js now).finalForecast30d).cap := by
  by_cases hclips : input.Clips js now
  · obtain ⟨hfinal, _, _⟩ := guardForecastResult_of_lt hclips.2.1 hclips.2.2
    rw [input.result_of_none js now hoverride, hfinal]
    exact ⟨Or.inr, fun h => h.resolve_left (not_le.mpr hclips.2.1)⟩
  · rw [input.result_of_not_clips js now hclips]
    refine ⟨fun _ => ?_, fun _ => hbound⟩
    rw [Clips, not_and, not_and_or, not_lt, not_lt] at hclips
    exact (hclips hoverride).imp_right hbound.trans

/-- The guardrail leaves a product whose rate was lifted by its class floor the smaller of its
forecast and a month at the lifted rate exactly when it takes the product for one with thin
data, finds it sold out, or when three times what it sold lately is as much. -/
theorem guard_keeps_floor_iff (hoverride : input.demandOverride = none)
    (hlifted : input.layered.rateHeldAtFloor now = true) :
    min (input.forecast js now).finalForecast30d (30 * input.layered.historyDailyRate now)
        ≤ (input.result js now).finalForecast30d
      ↔ (input.guardContext now).spanDays < 30 ∨ 7 < (input.guardContext now).stockoutDays30
        ∨ ((input.guardContext now).sold30 ≤ 0 ∧ input.product.currentStock ≤ 0)
        ∨ min (input.forecast js now).finalForecast30d (30 * input.layered.historyDailyRate now)
          ≤ yardstick (input.guardContext now).sold30 := by
  set ctx := input.guardContext now with hctx
  set final := (input.forecast js now).finalForecast30d with hfinal
  set bound := min final (30 * input.layered.historyDailyRate now) with hbound
  have hthin : bound ≤ THIN_DATA_ABSOLUTE_CAP_30D := by
    refine (min_le_right _ _).trans ?_
    rw [mul_comm]
    exact input.lifted_le_thinCap now hlifted
  have hyardstick : 0 < yardstick ctx.sold30 := by
    rw [yardstick]
    split
    · rename_i hsold
      exact mul_pos (by norm_num [GUARDRAIL_MULTIPLIER]) hsold
    · norm_num [ZERO_SALES_CAP_30D]
  have hstock : ctx.currentStock = input.product.currentStock := rfl
  rw [input.le_result_iff js now hoverride (min_le_left _ _), ← hfinal, ← hctx, ← hstock]
  -- what the cap is in each branch of the guardrail
  by_cases hdata : ctx.spanDays < 30 ∨ 7 < ctx.stockoutDays30
  · have hcap : (ctx.question final).cap
        = max (GUARDRAIL_MULTIPLIER * ctx.sold30) THIN_DATA_ABSOLUTE_CAP_30D :=
      if_pos (decide_eq_true hdata)
    rw [hcap, ← or_assoc]
    exact ⟨fun _ => Or.inl hdata, fun _ => Or.inr (hthin.trans (le_max_right _ _))⟩
  · have hnotThin : ¬ (ctx.question final).thin = true := fun h => hdata (of_decide_eq_true h)
    have hcap : (ctx.question final).cap = if 0 < ctx.sold30 then GUARDRAIL_MULTIPLIER * ctx.sold30
        else if ctx.currentStock ≤ 0 then THIN_DATA_ABSOLUTE_CAP_30D else ZERO_SALES_CAP_30D :=
      if_neg hnotThin
    rw [← or_assoc, or_iff_right hdata]
    by_cases hempty : ctx.sold30 ≤ 0 ∧ ctx.currentStock ≤ 0
    · have hsoldOut : (ctx.question final).cap = THIN_DATA_ABSOLUTE_CAP_30D := by
        rw [hcap, if_neg (not_lt.mpr hempty.1), if_pos hempty.2]
      rw [hsoldOut]
      exact ⟨fun _ => Or.inl hempty, fun _ => Or.inr hthin⟩
    · have hsold : (ctx.question final).cap = yardstick ctx.sold30 := by
        rw [hcap, yardstick]
        split
        · rfl
        · rename_i hnone
          exact if_neg fun hle => hempty ⟨not_lt.mp hnone, hle⟩
      rw [hsold, or_iff_right hempty]
      refine or_iff_right_of_imp fun hzero => ?_
      exact ((min_le_left _ _).trans hzero).trans hyardstick.le

end ProductForecastInput

/-- A class A product of sixty days whose snapshots are three days old and prove the shelf of the
last two empty. -/
def thinBestseller : ProductForecastInput where
  history := [{ date := -60 * DAY_MS, quantity := 30 }, { date := -10 * DAY_MS, quantity := 1 }]
  stockoutDates := [-2 * DAY_MS, -DAY_MS]
  snapshotsSince := some (-3 * DAY_MS)
  abcCategory := some "A"
  runDateKey := some 0

/-- Its shelf was empty for two of three proven days, which is under the guardrail's seven. -/
theorem thinBestseller_kept_iff :
    min (thinBestseller.forecast Js.rational 0).finalForecast30d
        (30 * thinBestseller.layered.historyDailyRate 0)
        ≤ (thinBestseller.result Js.rational 0).finalForecast30d
      ↔ (thinBestseller.guardContext 0).spanDays < 30
        ∨ 7 < (thinBestseller.guardContext 0).stockoutDays30
        ∨ ((thinBestseller.guardContext 0).sold30 ≤ 0 ∧ thinBestseller.product.currentStock ≤ 0)
        ∨ min (thinBestseller.forecast Js.rational 0).finalForecast30d
            (30 * thinBestseller.layered.historyDailyRate 0)
          ≤ ProductForecastInput.yardstick (thinBestseller.guardContext 0).sold30 :=
  thinBestseller.guard_keeps_floor_iff Js.rational 0 rfl (by decide +kernel)

/-- The floor lifts it to twelve a month, and the guardrail cuts it to three. -/
theorem thinBestseller_cut :
    thinBestseller.demandOverride = none ∧ 0 < thinBestseller.layered.abcFloor 0
      ∧ thinBestseller.layered.rateHeldAtFloor 0 = true
      ∧ ¬ ∃ js : Js, min (thinBestseller.forecast js 0).finalForecast30d
          (30 * thinBestseller.layered.historyDailyRate 0)
        ≤ (thinBestseller.result js 0).finalForecast30d := by
  refine ⟨rfl, by decide +kernel, by decide +kernel, ?_⟩
  rintro ⟨js, hkept⟩
  have hfinal : (thinBestseller.forecast js 0).finalForecast30d = 12 := by
    refine (thinBestseller.layered.finalForecast30d_of_plain js 0 rfl rfl rfl).trans ?_
    decide +kernel
  rw [thinBestseller.le_result_iff js 0 rfl (min_le_left _ _), hfinal] at hkept
  revert hkept
  decide +kernel

end Restock.Forecast
