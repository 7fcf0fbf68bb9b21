import Mathlib.Algebra.Order.BigOperators.Group.List
import Restock.Forecast.Layered

/-!
# The rate a product is served at

The layered forecast measures a daily rate from the history, lifts it towards the class floor,
puts the stated season on it and caps what comes out. The shelf is sized on the same rate, net of
the cap.

* `historyDailyRate_nonneg`, `historyDailyRate_of_nil` — the served rate;
* `rop_sub_safety_of_season` — the rate the shelf is sized on.
-/

namespace Restock.Forecast

/-! ## The class floor -/

/-- A class floor is not negative. -/
theorem abcFloorFor_nonneg (abc : Option String) (recent empty : Bool) :
    0 ≤ abcFloorFor abc recent empty := by
  rw [abcFloorFor, abcRateFloor]
  split
  · split
    · norm_num
    · split <;> norm_num
  · exact le_refl 0

/-- The fastest demonstrated rate is not negative. -/
theorem demonstratedDailyRate_nonneg {history : List SalesPoint} {rate : ℚ}
    (h : demonstratedDailyRate history = some rate) : 0 ≤ rate := by
  rw [demonstratedDailyRate] at h
  split at h
  · rw [Option.some.injEq] at h
    rw [← h]
    refine div_nonneg (List.sum_nonneg fun q hq => ?_) ?_
    · obtain ⟨p, hp, rfl⟩ := List.mem_map.mp hq
      exact (of_decide_eq_true (List.mem_filter.mp hp).2).le
    · exact_mod_cast zero_le_one.trans (le_max_left _ _)
  · exact absurd h nofun

/-- A served rate is not negative, even where returns make the measured one so. -/
theorem applyAbcRateFloor_nonneg (rate : ℚ) (abc : Option String) (recent empty : Bool)
    (history : List SalesPoint) :
    0 ≤ applyAbcRateFloor rate abc recent empty (demonstratedDailyRate history) := by
  have hfloor := abcFloorFor_nonneg abc recent empty
  rw [applyAbcRateFloor]
  split
  · rename_i hle
    exact hfloor.trans hle
  · refine le_max_of_le_right (le_min hfloor ?_)
    cases hrate : demonstratedDailyRate history with
    | none => exact hfloor
    | some shown => exact demonstratedDailyRate_nonneg hrate

/-- Where no class floor applies, a measured rate that is not negative is served as it is. -/
theorem applyAbcRateFloor_of_zero {rate : ℚ} {abc : Option String} {recent empty : Bool}
    (demonstrated : Option ℚ) (hfloor : abcFloorFor abc recent empty = 0) (hrate : 0 ≤ rate) :
    applyAbcRateFloor rate abc recent empty demonstrated = rate := by
  rw [applyAbcRateFloor]
  apply if_pos
  rw [hfloor]
  exact hrate

/-! ## A product without sales -/

section NoSales

variable {today : ℤ}

/-- Capping bulk days leaves the dates of the rows. -/
theorem dates_debulkSeries (history : List SalesPoint) (asOf : Option Time)
    (excludedDates : List Time) :
    (debulkSeries history asOf excludedDates).series.map SalesPoint.date
      = history.map SalesPoint.date := by
  rw [debulkSeries, List.map_map]
  refine List.map_congr_left fun p _ => ?_
  simp only [Function.comp_apply]
  split
  · split <;> rfl
  · rfl

/-- The engine's history of a product is empty exactly when no row is on a completed day. -/
theorem demandHistory_eq_nil_iff {now : Time} {input : ForecastInput} :
    input.demandHistory now = [] ↔ ∀ p ∈ input.history, input.today now ≤ p.date := by
  -- damping caps quantities and leaves dates, so it does not decide which rows count
  have hdates : (if input.bigBuyerDamping then (input.bulk now).series else input.history).map
      SalesPoint.date = input.history.map SalesPoint.date := by
    split
    · exact dates_debulkSeries _ _ _
    · rfl
  have hall : ∀ d : Time, (∃ p ∈ (if input.bigBuyerDamping then (input.bulk now).series
      else input.history), p.date = d) ↔ ∃ p ∈ input.history, p.date = d := by
    intro d
    rw [← List.mem_map, ← List.mem_map, hdates]
  rw [ForecastInput.demandHistory, List.filter_eq_nil_iff]
  constructor
  · intro hnone p hp
    obtain ⟨p', hp', hdate⟩ := (hall p.date).mpr ⟨p, hp, rfl⟩
    have hlate := hnone p' hp'
    rw [decide_eq_true_eq, hdate, not_lt] at hlate
    exact hlate
  · intro hlate p hp
    obtain ⟨p', hp', hdate⟩ := (hall p.date).mp ⟨p, hp, rfl⟩
    rw [decide_eq_true_eq, not_lt, ← hdate]
    exact hlate p' hp'

/-- Nothing sold is a rate of zero over any window. -/
theorem rateOverWindow_nil (windowDays : ℤ) (stockoutDates excludedDates : List Time) :
    rateOverWindow [] today windowDays stockoutDates excludedDates = 0 := by
  have hunits : ∀ (since : ℤ) (excluded : Finset ℤ),
      (dampedWindow [] since today excluded).units = 0 := fun _ _ => rfl
  simp only [rateOverWindow, hunits, zero_div, ite_self]

/-- Nothing sold is a rate of zero. -/
theorem demandRateFor_nil (demand : DemandMethod) (stockoutDates excludedDates : List Time)
    (snapshotsSince : Option Time) (method : BaselineMethod) :
    demandRateFor demand [] today stockoutDates excludedDates snapshotsSince method false = 0 := by
  have hrun : ∀ method', runRateDaily [] (dayKeyOf today) stockoutDates excludedDates
      snapshotsSince method' false = 0 := by
    intro method'
    -- the span of no rows is zero days, so the product is new and read over one window
    have hnew : historySpanDays [] (dayKeyOf (dayKeyOf today)) < NEW_PRODUCT_DAYS := by
      show (0 : ℚ) < 60
      norm_num
    simp only [runRateDaily, List.filter_nil, Bool.false_eq_true, if_false]
    rw [if_pos hnew, rateOverWindow_nil]
  simp only [demandRateFor, List.filter_nil, Bool.false_eq_true, if_false, hrun,
    rateOverWindow_nil, ite_self]

end NoSales

namespace ForecastInput

variable (js : Js) (now : Time) (input : ForecastInput)

/-- The served rate is not negative. -/
theorem historyDailyRate_nonneg : 0 ≤ input.historyDailyRate now :=
  applyAbcRateFloor_nonneg _ _ _ _ _

/-- A product without completed sales is served at nothing. -/
theorem historyDailyRate_of_nil (h : input.demandHistory now = []) :
    input.historyDailyRate now = 0 := by
  have hraw : input.rawHistoryDailyRate now = 0 := by
    rw [rawHistoryDailyRate, h]
    exact demandRateFor_nil _ _ _ _ _
  have hrecent : input.hadRecentSales now = false := by
    rw [hadRecentSales, h]
    rfl
  -- without a recent sale no class has a floor
  have hfloor : abcFloorFor input.abcForFloor (input.hadRecentSales now)
      (input.shelfMostlyEmpty now) = 0 := by
    rw [hrecent]
    exact if_neg fun h => Bool.false_ne_true h.1
  rw [historyDailyRate, applyAbcRateFloor_of_zero _ hfloor hraw.ge, hraw]

/-! ## The rate the shelf is sized on -/

/-- Capping does not lift. -/
theorem capped_le_boosted : input.capped js now ≤ input.boosted js now := by
  rw [capped]
  split
  · exact min_le_left _ _
  · exact le_refl _

/-- Without a promo the run rate is lifted by the season that is applied. -/
theorem boosted_of_plain (hpromo : input.promoApplies js = false) :
    input.boosted js now = input.layer1 now * input.seasonalApplied now := by
  rw [boosted, seasonalApplied, hpromo]
  simp only [Bool.false_eq_true, if_false]
  split
  · rfl
  · rw [mul_one]

/-- The shelf is sized on the rate the reorder point shows. -/
theorem rop_sub_safety :
    input.rop js now - input.safety js now
      = input.leadTimeAvg * input.sizingDailyRate js now := by
  rw [rop, Forecast.reorderPoint, add_sub_cancel_right, mul_comm]

section Sizing

variable (hoverride : input.demandOverride = none)
include hoverride

/-- Without an override the daily rate is the served one. -/
theorem dailyRate_of_plain : input.dailyRate now = input.historyDailyRate now := by
  rw [dailyRate, hoverride]

/-- Without an override the run rate is a month of the served rate. -/
theorem layer1_of_plain : input.layer1 now = input.historyDailyRate now * 30 := by
  rw [layer1, hoverride]

/-- Without an override the run rate is not negative. -/
theorem layer1_nonneg : 0 ≤ input.layer1 now := by
  rw [input.layer1_of_plain now hoverride]
  exact mul_nonneg (input.historyDailyRate_nonneg now) (by norm_num)

/-- A season that is not under a normal month sizes the shelf on what the order keeps of it, and
never on less than the run rate. -/
theorem sizingDailyRate_of_one_le (hpromo : input.promoApplies js = false)
    (hseason : 1 ≤ input.seasonalApplied now) :
    input.sizingDailyRate js now
      = max (input.layer1 now) (input.finalForecast30d js now) / 30 := by
  have hlayer := input.layer1_nonneg now hoverride
  have hlayer' := input.layer1_of_plain now hoverride
  have hboosted := input.boosted_of_plain js now hpromo
  have hmax : max (input.layer1 now) (input.finalForecast30d js now)
      = max (input.layer1 now) (input.capped js now) := by
    rw [finalForecast30d, ← max_assoc, max_eq_left hlayer]
  have heffective : input.effectiveSeasonal js now
      = max 1 (input.seasonalApplied now * input.clipRatio js now) := if_pos hseason
  rw [hmax, sizingDailyRate, heffective, input.dailyRate_of_plain now hoverride]
  rcases hlayer.eq_or_lt with hzero | hpos
  · -- nothing sells: there is no lift, and the cap cannot leave one
    have hrate : input.historyDailyRate now = 0 := by linarith
    have hcapped : input.capped js now ≤ 0 := by
      refine (input.capped_le_boosted js now).trans ?_
      rw [hboosted, ← hzero, zero_mul]
    rw [hrate, zero_mul, ← hzero, max_eq_left hcapped, zero_div]
  · -- the ratio of the cap takes the season back out of the forecast
    have hboost : 0 < input.boosted js now := by
      rw [hboosted]
      exact mul_pos hpos (one_pos.trans_le hseason)
    have hclip : input.clipRatio js now = input.capped js now / input.boosted js now :=
      if_pos hboost
    have hlift : input.layer1 now * (input.seasonalApplied now * input.clipRatio js now)
        = input.capped js now := by
      rw [← mul_assoc, ← hboosted, hclip, mul_div_cancel₀ _ hboost.ne']
    have hrate : input.historyDailyRate now = input.layer1 now / 30 := by linarith
    rw [hrate, div_mul_eq_mul_div, mul_max_of_nonneg _ _ hlayer, mul_one, hlift]

/-- A month under a normal one sizes the shelf on that month. -/
theorem sizingDailyRate_of_lt_one (hseason : input.seasonalApplied now < 1) :
    input.sizingDailyRate js now = input.layer1 now * input.seasonalApplied now / 30 := by
  have heffective : input.effectiveSeasonal js now = input.seasonalApplied now :=
    if_neg (not_le.mpr hseason)
  rw [sizingDailyRate, heffective, input.dailyRate_of_plain now hoverride,
    input.layer1_of_plain now hoverride]
  ring

/-- A season within half a percent of a normal month is none. -/
theorem seasonalApplied_of_plain :
    input.seasonalApplied now
      = if |input.seasonal now - 1| < 5 / 1000 then 1 else input.seasonal now := by
  have hlabel : input.seasonLabel now = seasonalLabel (input.seasonal now) := by
    rw [seasonLabel, hoverride]
    rfl
  rw [seasonalApplied, hlabel, seasonalLabel]
  split <;> rfl

end Sizing

/-- What the order keeps of a busy season is what the shelf is sized on, and a quiet season is kept
whole. -/
def SizedOnKeptLift : Prop :=
  let result := layeredForecast js now input
  (1 ≤ input.seasonal now → result.reorderPoint - result.safetyStock
      = input.leadTimeAvg * max result.layer1Forecast30d result.finalForecast30d / 30)
    ∧ (input.seasonal now < 1 → result.reorderPoint - result.safetyStock
      = input.leadTimeAvg * result.layer1Forecast30d * input.seasonal now / 30)

end ForecastInput

/-- Without an override and a promo, the shelf is sized on what the order keeps of a busy season,
and on a quiet season whole, unless that one is within half a percent of a normal month: then it
is sized on a normal month, as the order is. -/
theorem rop_sub_safety_of_season (js : Js) (now : Time) (input : ForecastInput)
    (hoverride : input.demandOverride = none) (hpromo : input.promoApplies js = false) :
    let result := layeredForecast js now input
    (1 ≤ input.seasonal now → result.reorderPoint - result.safetyStock
        = input.leadTimeAvg * max result.layer1Forecast30d result.finalForecast30d / 30)
      ∧ (input.seasonal now ≤ 995 / 1000 → result.reorderPoint - result.safetyStock
        = input.leadTimeAvg * result.layer1Forecast30d * input.seasonal now / 30)
      ∧ (995 / 1000 < input.seasonal now → input.seasonal now < 1 →
        result.reorderPoint - result.safetyStock
          = input.leadTimeAvg * result.layer1Forecast30d / 30) := by
  intro result
  have happlied := input.seasonalApplied_of_plain now hoverride
  have hsized : result.reorderPoint - result.safetyStock
      = input.leadTimeAvg * input.sizingDailyRate js now := input.rop_sub_safety js now
  have hlayer : result.layer1Forecast30d = input.layer1 now := rfl
  have hfinal : result.finalForecast30d = input.finalForecast30d js now := rfl
  rw [hsized, hlayer, hfinal]
  refine ⟨fun hbusy => ?_, fun hquiet => ?_, fun habove hbelow => ?_⟩
  · -- a busy season is applied, or it is a normal month; neither is under one
    have hone : 1 ≤ input.seasonalApplied now := by
      rw [happlied]
      split
      · exact le_refl 1
      · exact hbusy
    rw [input.sizingDailyRate_of_one_le js now hoverride hpromo hone, mul_div_assoc]
  · -- a quiet season further than half a percent from one is labelled, and so applied
    have hlabelled : ¬ |input.seasonal now - 1| < 5 / 1000 := by
      rw [abs_lt]
      rintro ⟨hlow, -⟩
      linarith
    rw [if_neg hlabelled] at happlied
    have hlt : input.seasonalApplied now < 1 := by
      rw [happlied]
      linarith
    rw [input.sizingDailyRate_of_lt_one js now hoverride hlt, happlied]
    ring
  · -- nearer than that it is not applied: the order is sized on a normal month, which the cap
    -- cannot leave above the run rate
    have hnormal : |input.seasonal now - 1| < 5 / 1000 := by
      rw [abs_lt]
      constructor <;> linarith
    rw [if_pos hnormal] at happlied
    have hboosted := input.boosted_of_plain js now hpromo
    rw [happlied, mul_one] at hboosted
    have hle : input.finalForecast30d js now ≤ input.layer1 now := by
      rw [ForecastInput.finalForecast30d, ← hboosted]
      refine max_le ?_ (input.capped_le_boosted js now)
      rw [hboosted]
      exact input.layer1_nonneg now hoverride
    rw [input.sizingDailyRate_of_one_le js now hoverride hpromo happlied.ge, max_eq_left hle,
      mul_div_assoc]

/-- A unit a day, a month of delivery, and one day of the horizon in a month that runs at nine
tenths. -/
def nearlyNormal : ForecastInput where
  leadTimeAvg := 30
  history := [{ date := DAY_MS, quantity := 7 }]
  runDateKey := some 2
  monthlyExpectations := [{ month := "1970-02", multiplier := 9 / 10 }]

/-- It sizes the shelf on a normal month. -/
theorem rop_sub_safety_of_season_nearlyNormal :
    let result := layeredForecast Js.rational 0 nearlyNormal
    (1 ≤ nearlyNormal.seasonal 0 → result.reorderPoint - result.safetyStock
        = 30 * max result.layer1Forecast30d result.finalForecast30d / 30)
      ∧ (nearlyNormal.seasonal 0 ≤ 995 / 1000 → result.reorderPoint - result.safetyStock
        = 30 * result.layer1Forecast30d * nearlyNormal.seasonal 0 / 30)
      ∧ (995 / 1000 < nearlyNormal.seasonal 0 → nearlyNormal.seasonal 0 < 1 →
        result.reorderPoint - result.safetyStock = 30 * result.layer1Forecast30d / 30) :=
  rop_sub_safety_of_season Js.rational 0 nearlyNormal rfl (by decide +kernel)

/-- A season a third of a percent under a normal month does not size the shelf. -/
theorem nearlyNormal_not_sizedOnKeptLift :
    nearlyNormal.demandOverride = none ∧ nearlyNormal.promoApplies Js.rational = false
      ∧ ¬ nearlyNormal.SizedOnKeptLift Js.rational 0 := by
  refine ⟨rfl, by decide +kernel, fun h => ?_⟩
  have hseason : nearlyNormal.seasonal 0 = 299 / 300 := by decide +kernel
  have hrate : nearlyNormal.sizingDailyRate Js.rational 0 = 1 := by decide +kernel
  have hlayer : nearlyNormal.layer1 0 = 30 := by decide +kernel
  have hsized : nearlyNormal.rop Js.rational 0 - nearlyNormal.safety Js.rational 0
      = 30 * nearlyNormal.layer1 0 * nearlyNormal.seasonal 0 / 30 :=
    h.2 (by rw [hseason]; norm_num)
  rw [ForecastInput.rop_sub_safety, hrate, hlayer, hseason] at hsized
  norm_num [nearlyNormal] at hsized

end Restock.Forecast
