import Restock.Forecast.Consistency
import Restock.Forecast.ServedRate

/-!
# What the engine orders

The order of a product is its target less what is on the shelf and on order. A product nobody has
bought yet, or that is served at nothing, is held off the buy list whatever rule sizes its class.

* `forecastProduct_holds_off` — what is held off, and how its breakdown says so;
* `recommendedQty_antitone` — more stock never orders more.
-/

namespace Restock.Forecast

/-! ## The breakdown -/

/-- Every rule nets its target against the stock. -/
theorem reorderBreakdown_qty (js : Js) (input : ReorderInput) :
    (reorderBreakdown js input).qty
      = max 0 ((reorderBreakdown js input).targetUnits - input.currentStock - input.onOrder) := by
  rw [reorderBreakdown]
  split
  · rfl
  · split <;> rfl

namespace ReorderInput

variable (input : ReorderInput)

/-- The days the order has to cover where the calibrated rule does not size it. -/
def window : ℚ :=
  if input.useMinMax then max MIN_PAR_DAYS (input.leadTimeAvg.getD 0 + ORDER_REVIEW_DAYS)
  else input.coverDays.getD 30

/-- The least the target is where the calibrated rule does not set it. -/
def lift (units : ℤ) : ℤ :=
  if input.useMinMax then max 1 units else units

/-- Lifting keeps the order of two targets. -/
theorem lift_mono {a b : ℤ} (h : a ≤ b) : input.lift a ≤ input.lift b := by
  rw [lift, lift]
  split
  · exact max_le_max_left 1 h
  · exact h

/-- A target without the calibrated rule is the demand of its window and the safety stock. -/
theorem targetUnits_of_plain (js : Js) (hpolicy : ∀ p ∈ input.policy, p.rule = .minMax) :
    (reorderBreakdown js input).targetUnits
      = input.lift ⌈input.finalForecast30d / 30 * input.window + input.safetyStock⌉ := by
  -- a policy that never asks for the calibrated rule leaves it unused
  have hplain : input.useCalibrated = none := by
    apply if_neg
    rintro ⟨-, hcalibrated, -⟩
    rw [Option.any_eq_true] at hcalibrated
    obtain ⟨p, hp, hrule⟩ := hcalibrated
    rw [decide_eq_true_eq, hpolicy p hp] at hrule
    exact absurd hrule (by decide)
  rw [reorderBreakdown, hplain, lift, window]
  dsimp only
  split <;> rfl

end ReorderInput

namespace ForecastInput

variable (js : Js) (now : Time) (input : ForecastInput)

/-- A product served at nothing is dead or too new. -/
theorem silent_of_rate (hoverride : input.demandOverride = none)
    (hrate : input.historyDailyRate now = 0) : input.isDead now ∨ input.tooNew now := by
  rw [isDead, tooNew, hoverride, hrate]
  cases input.hasHistory now <;> decide

/-- A product served at nothing is forecast nothing. -/
theorem finalForecast30d_of_rate (hoverride : input.demandOverride = none)
    (hrate : input.historyDailyRate now = 0) : input.finalForecast30d js now = 0 := by
  have hlayer : input.layer1 now = 0 := by
    rw [input.layer1_of_plain now hoverride, hrate, zero_mul]
  have hboosted : input.boosted js now = 0 := by
    rw [boosted, hlayer]
    simp only [zero_mul, ite_self]
  refine max_eq_left ((input.capped_le_boosted js now).trans ?_)
  rw [hboosted]

end ForecastInput

namespace ProductForecastInput

variable (js : Js) (now : Time) (input : ProductForecastInput)

/-- The guardrail does not change what the layered forecast would order. -/
theorem recommendedQty_result :
    (input.result js now).recommendedQty = (input.forecast js now).recommendedQty := by
  rw [result]
  split
  · rfl
  · rw [guardForecastResult]
    dsimp only
    split <;> rfl

/-! ## Dead and new products -/

/-- A product served at nothing is held off. -/
theorem engineSaysZero_of_rate (hoverride : input.demandOverride = none)
    (hrate : input.layered.historyDailyRate now = 0) : input.engineSaysZero js now = true := by
  have hfinal : (input.forecast js now).finalForecast30d = 0 :=
    input.layered.finalForecast30d_of_rate js now hoverride hrate
  -- a forecast of nothing is not above any cap, so the guardrail leaves it
  have hkept : input.result js now = input.forecast js now := by
    refine input.result_of_not_clips js now fun hclips => ?_
    exact absurd hfinal hclips.2.1.ne'
  have hnothing : (input.forecast js now).recommendedQty = 0 :=
    if_pos (input.layered.silent_of_rate now hoverride hrate)
  rw [engineSaysZero, hkept, decide_eq_true_eq]
  exact ⟨hnothing, hfinal.le⟩

/-- An order that is not its target less the stock is one that is held off. -/
theorem qty_eq_or :
    input.qty js now = (reorderBreakdown js (input.reorderInput js now)).qty
      ∨ input.qty js now = 0 := by
  rw [qty]
  split
  · exact Or.inr rfl
  · exact Or.inl rfl

end ProductForecastInput

/-- Without an override, a product without a sale row on a completed day and one that is served at
nothing are not ordered, whatever the rule; and an order that is not the target less the stock is
no order, whose breakdown says that it is held off. -/
theorem forecastProduct_holds_off (js : Js) (now : Time) (input : ProductForecastInput)
    (hoverride : input.demandOverride = none) :
    let out := forecastProduct js now input
    ((∀ p ∈ input.history, input.today now ≤ p.date) ∨ input.layered.dailyRate now = 0 →
        out.recommendedQty = 0)
      ∧ (out.recommendedQty ≠ max 0 (out.explainParts.targetUnits - input.product.currentStock
          - input.product.onOrder) →
        out.explainParts.summary = "held off the buy list = " ++ js.text out.recommendedQty
          ∧ out.recommendedQty = 0) := by
  intro out
  refine ⟨fun hnone => ?_, fun hdiffers => ?_⟩
  · -- either way the served rate is zero, and a rate of zero is held off
    have hrate : input.layered.historyDailyRate now = 0 := by
      rcases hnone with hunsold | hrate
      · exact input.layered.historyDailyRate_of_nil now (demandHistory_eq_nil_iff.mpr hunsold)
      · rw [← input.layered.dailyRate_of_plain now hoverride]
        exact hrate
    exact if_pos (input.engineSaysZero_of_rate js now hoverride hrate)
  · -- the summary says that it is held off exactly where the order is not the one of the
    -- breakdown
    have hbreakdown : out.recommendedQty
        ≠ (reorderBreakdown js (input.reorderInput js now)).qty := by
      rw [reorderBreakdown_qty]
      exact hdiffers
    have hzero : out.recommendedQty = 0 := (input.qty_eq_or js now).resolve_left hbreakdown
    exact ⟨if_pos hbreakdown, hzero⟩

/-- A class C product that has sold nothing yet: its par is a unit, and nothing is ordered. -/
theorem forecastProduct_holds_off_unsold :
    let input : ProductForecastInput := { abcCategory := some "C" }
    let out := forecastProduct Js.rational 0 input
    ((∀ p ∈ input.history, input.today 0 ≤ p.date) ∨ input.layered.dailyRate 0 = 0 →
        out.recommendedQty = 0)
      ∧ (out.recommendedQty ≠ max 0 (out.explainParts.targetUnits - input.product.currentStock
          - input.product.onOrder) →
        out.explainParts.summary
            = "held off the buy list = " ++ Js.rational.text out.recommendedQty
          ∧ out.recommendedQty = 0) :=
  forecastProduct_holds_off Js.rational 0 { abcCategory := some "C" } rfl

/-! ## More stock -/

namespace GuardrailInput

variable (input : GuardrailInput)

/-- The guardrail always lets something pass. -/
theorem cap_pos (hthin : 0 < input.thinCap) : 0 < input.cap := by
  rw [cap]
  split
  · exact lt_max_of_lt_right hthin
  · split
    · rename_i hsold
      exact mul_pos (by norm_num [GUARDRAIL_MULTIPLIER]) hsold
    · split
      · exact hthin
      · norm_num [ZERO_SALES_CAP_30D]

/-- A fuller shelf lets no more pass: what has not sold from it was not wanted. -/
theorem cap_antitone (hthin : ZERO_SALES_CAP_30D ≤ input.thinCap) :
    Antitone fun stock => cap { input with currentStock := stock } := by
  intro a b hab
  show cap { input with currentStock := b } ≤ cap { input with currentStock := a }
  rw [cap, cap]
  change (if input.thin = true then _ else _) ≤ (if input.thin = true then _ else _)
  split
  · exact le_refl _
  · split
    · exact le_refl _
    · -- nothing sold in thirty days: only here does the cap look at the shelf
      by_cases hb : b ≤ 0
      · rw [if_pos hb, if_pos (hab.trans hb)]
      · rw [if_neg hb]
        split
        · exact hthin
        · exact le_refl _

end GuardrailInput

namespace ProductForecastInput

variable (js : Js) (now : Time) (input : ProductForecastInput)

/-- The product with so much on the shelf. -/
def withStock (stock : ℚ) : ProductForecastInput :=
  { input with product := { input.product with currentStock := stock } }

/-- The product with so much on order. -/
def withOnOrder (units : ℚ) : ProductForecastInput :=
  { input with product := { input.product with onOrder := units } }

/-- The part of its forecast the guardrail lets a product keep. -/
def keptPart : ℚ :=
  let final := (input.forecast js now).finalForecast30d
  if final ≤ 0 then 1 else min 1 (((input.guardContext now).question final).cap / final)

/-- Without an override the demand and the safety stock are cut by one ratio. -/
theorem result_of_plain (hoverride : input.demandOverride = none) :
    (input.result js now).finalForecast30d
        = (input.forecast js now).finalForecast30d * input.keptPart js now
      ∧ (input.result js now).safetyStock
        = (input.forecast js now).safetyStock * input.keptPart js now := by
  set final := (input.forecast js now).finalForecast30d with hfinal
  by_cases hclips : input.Clips js now
  · -- the guardrail cuts: demand and safety stock keep the cap over the forecast
    obtain ⟨-, hpos, hcap⟩ := hclips
    have hkept : input.keptPart js now
        = ((input.guardContext now).question final).cap / final := by
      refine (if_neg (not_le.mpr hpos)).trans (min_eq_right ?_)
      rw [div_le_one hpos]
      exact hcap.le
    obtain ⟨hcut, -, -, hsafety⟩ := guardForecastResult_of_lt hpos hcap
    rw [input.result_of_none js now hoverride, hkept, mul_div_cancel₀ _ hpos.ne']
    exact ⟨hcut, hsafety⟩
  · -- it does not: the forecast is not above the cap, or there is none
    have hkept : input.keptPart js now = 1 := by
      rw [keptPart]
      split
      · rfl
      · rename_i hpos
        rw [not_le] at hpos
        rw [Clips, not_and, not_and, not_lt] at hclips
        refine min_eq_left ?_
        rw [one_le_div hpos]
        exact hclips hoverride hpos
    rw [input.result_of_not_clips js now hclips, hkept, mul_one, mul_one]
    exact ⟨rfl, rfl⟩

/-- Something is kept. -/
theorem keptPart_pos : 0 < input.keptPart js now := by
  rw [keptPart]
  split
  · exact one_pos
  · rename_i hfinal
    refine lt_min one_pos (div_pos (GuardrailInput.cap_pos _ ?_) (not_le.mp hfinal))
    show (0 : ℚ) < THIN_DATA_ABSOLUTE_CAP_30D
    norm_num [THIN_DATA_ABSOLUTE_CAP_30D]

/-- With more on the shelf no more is kept. -/
theorem keptPart_antitone : Antitone fun stock => (input.withStock stock).keptPart js now := by
  intro a b hab
  have hthin : ZERO_SALES_CAP_30D ≤ THIN_DATA_ABSOLUTE_CAP_30D := by
    norm_num [ZERO_SALES_CAP_30D, THIN_DATA_ABSOLUTE_CAP_30D]
  have hcap := GuardrailInput.cap_antitone
    ((input.guardContext now).question (input.forecast js now).finalForecast30d) hthin hab
  show (if (input.forecast js now).finalForecast30d ≤ 0 then 1 else _)
    ≤ (if (input.forecast js now).finalForecast30d ≤ 0 then 1 else _)
  split
  · exact le_refl _
  · rename_i hfinal
    exact min_le_min_left _ (div_le_div_of_nonneg_right hcap (not_le.mp hfinal).le)

/-- On an empty shelf it does not matter how empty it is. -/
theorem keptPart_of_empty {a b : ℚ} (ha : a ≤ 0) (hb : b ≤ 0) :
    (input.withStock a).keptPart js now = (input.withStock b).keptPart js now := by
  have hcap : ∀ question : GuardrailInput,
      GuardrailInput.cap { question with currentStock := a }
        = GuardrailInput.cap { question with currentStock := b } := by
    intro question
    rw [GuardrailInput.cap, GuardrailInput.cap, if_pos ha, if_pos hb]
    rfl
  have hquestion := hcap
    ((input.guardContext now).question (input.forecast js now).finalForecast30d)
  show (if (input.forecast js now).finalForecast30d ≤ 0 then 1 else min 1 (_ / _))
    = (if (input.forecast js now).finalForecast30d ≤ 0 then 1 else min 1 (_ / _))
  exact congrArg (fun cap => if (input.forecast js now).finalForecast30d ≤ 0 then 1
    else min 1 (cap / (input.forecast js now).finalForecast30d)) hquestion

/-- What an order covers where the guardrail cuts nothing. -/
def need : ℚ :=
  (input.forecast js now).finalForecast30d / 30 * (input.reorderInput js now).window
    + (input.forecast js now).safetyStock

/-- The target is the part of the need that is kept. -/
theorem targetUnits_of_plain (hoverride : input.demandOverride = none)
    (hpolicy : ∀ p ∈ input.policy, p.rule = .minMax) :
    (reorderBreakdown js (input.reorderInput js now)).targetUnits
      = (input.reorderInput js now).lift ⌈input.need js now * input.keptPart js now⌉ := by
  obtain ⟨hfinal, hsafety⟩ := input.result_of_plain js now hoverride
  have hdemand : (input.reorderInput js now).finalForecast30d
      = (input.result js now).finalForecast30d := rfl
  have hstock : (input.reorderInput js now).safetyStock = (input.result js now).safetyStock := rfl
  rw [ReorderInput.targetUnits_of_plain _ js hpolicy, hdemand, hstock, hfinal, hsafety, need]
  refine congrArg (fun units => (input.reorderInput js now).lift ⌈units⌉) ?_
  ring

/-- A window that is not negative has a need that is not. -/
theorem need_nonneg (hwindow : 0 ≤ (input.reorderInput js now).window) :
    0 ≤ input.need js now := by
  have hfinal : 0 ≤ (input.forecast js now).finalForecast30d := le_max_left _ _
  have hsafety : 0 ≤ (input.forecast js now).safetyStock := le_max_left _ _
  exact add_nonneg (mul_nonneg (div_nonneg hfinal (by norm_num)) hwindow) hsafety

/-- Only a mean cover with a lead time more than a review period under zero has less need than
none. -/
theorem lift_of_need_neg (hneed : ¬ 0 ≤ input.need js now) :
    ¬ -ORDER_REVIEW_DAYS ≤ input.leadTimeAvg
      ∧ ∀ units, (input.reorderInput js now).lift units = units := by
  have hwindow : ¬ 0 ≤ (input.reorderInput js now).window :=
    fun h => hneed (input.need_nonneg js now h)
  rw [ReorderInput.window] at hwindow
  split at hwindow
  · exact absurd (le_max_of_le_left (by norm_num [MIN_PAR_DAYS])) hwindow
  · rename_i hmean
    refine ⟨fun hlead => hwindow ?_, fun _ => if_neg hmean⟩
    show 0 ≤ input.leadTimeAvg + ORDER_REVIEW_DAYS
    linarith

/-- A product that is held off stays so with more on the shelf. -/
theorem engineSaysZero_mono (hoverride : input.demandOverride = none) {a b : ℚ} (hab : a ≤ b)
    (h : (input.withStock a).engineSaysZero js now = true) :
    (input.withStock b).engineSaysZero js now = true := by
  rw [engineSaysZero, decide_eq_true_eq, recommendedQty_result] at h ⊢
  -- the part that is kept is positive, so whether anything is forecast does not depend on the
  -- shelf
  have hfinal : ∀ stock, ((input.withStock stock).result js now).finalForecast30d ≤ 0
      ↔ (input.forecast js now).finalForecast30d ≤ 0 := by
    intro stock
    rw [((input.withStock stock).result_of_plain js now hoverride).1, ← not_lt, ← not_lt,
      mul_pos_iff_of_pos_right ((input.withStock stock).keptPart_pos js now)]
    rfl
  rw [hfinal] at h ⊢
  refine ⟨?_, h.2⟩
  -- the engine's own order is the demand and the safety stock less the shelf
  have horder : ∀ stock, ((input.withStock stock).forecast js now).recommendedQty
      = if input.layered.isDead now ∨ input.layered.tooNew now then 0
        else max 0 ⌈(input.forecast js now).finalForecast30d
          + (input.forecast js now).safetyStock - stock⌉ := fun _ => rfl
  rw [horder] at h ⊢
  split
  · rfl
  · rename_i hactive
    rw [if_neg hactive] at h
    refine max_eq_left (le_trans (Int.ceil_mono ?_) (max_eq_left_iff.mp h.1))
    exact sub_le_sub_left hab _

/-- What is ordered of a product that is not held off. -/
theorem qty_of_not_held (hoverride : input.demandOverride = none)
    (hpolicy : ∀ p ∈ input.policy, p.rule = .minMax) (h : ¬ input.engineSaysZero js now = true) :
    input.qty js now
      = max 0 ((input.reorderInput js now).lift ⌈input.need js now * input.keptPart js now⌉
        - input.product.currentStock - input.product.onOrder) := by
  rw [qty, if_neg h, Forecast.recommendedQty, reorderBreakdown_qty,
    input.targetUnits_of_plain js now hoverride hpolicy]
  rfl

/-- With more on the shelf the target less the shelf and what is on order does not grow. -/
theorem target_sub_antitone
    (hreal : 0 ≤ input.product.onOrder ∨ -ORDER_REVIEW_DAYS ≤ input.leadTimeAvg) :
    Antitone fun stock => max 0 (((input.reorderInput js now).lift
      ⌈input.need js now * (input.withStock stock).keptPart js now⌉ : ℚ) - stock
        - input.product.onOrder) := by
  intro a b hab
  have hkept : (input.withStock b).keptPart js now ≤ (input.withStock a).keptPart js now :=
    input.keptPart_antitone js now hab
  -- a target that does not grow leaves less to order
  have hmono : (⌈input.need js now * (input.withStock b).keptPart js now⌉
      ≤ ⌈input.need js now * (input.withStock a).keptPart js now⌉) →
      max 0 (((input.reorderInput js now).lift
          ⌈input.need js now * (input.withStock b).keptPart js now⌉ : ℚ) - b
            - input.product.onOrder)
        ≤ max 0 (((input.reorderInput js now).lift
          ⌈input.need js now * (input.withStock a).keptPart js now⌉ : ℚ) - a
            - input.product.onOrder) := by
    intro hle
    have htarget : (((input.reorderInput js now).lift
        ⌈input.need js now * (input.withStock b).keptPart js now⌉ : ℤ) : ℚ)
        ≤ ((input.reorderInput js now).lift
          ⌈input.need js now * (input.withStock a).keptPart js now⌉ : ℤ) := by
      exact_mod_cast (input.reorderInput js now).lift_mono hle
    refine max_le_max_left 0 ?_
    linarith
  by_cases hneed : 0 ≤ input.need js now
  · exact hmono (Int.ceil_mono (mul_le_mul_of_nonneg_left hkept hneed))
  · -- only a mean cover under zero needs less than nothing; then nothing is missing from a shelf
    -- that holds something, and an empty one keeps the same part
    by_cases hb : b ≤ 0
    · refine hmono (le_of_eq ?_)
      rw [input.keptPart_of_empty js now hb (hab.trans hb)]
    · obtain ⟨hlead, hlift⟩ := input.lift_of_need_neg js now hneed
      have horder := hreal.resolve_right hlead
      rw [not_le] at hneed hb
      have htarget : ⌈input.need js now * (input.withStock b).keptPart js now⌉ ≤ 0 := by
        rw [Int.ceil_le, Int.cast_zero]
        exact (mul_neg_of_neg_of_pos hneed ((input.withStock b).keptPart_pos js now)).le
      have hcast : ((⌈input.need js now * (input.withStock b).keptPart js now⌉ : ℤ) : ℚ) ≤ 0 := by
        exact_mod_cast htarget
      simp only [hlift]
      rw [max_eq_left (by linarith)]
      exact le_max_left 0 _

/-- An order is not negative. -/
theorem qty_nonneg : 0 ≤ input.qty js now := by
  rw [qty]
  split
  · exact le_refl 0
  · rw [Forecast.recommendedQty, reorderBreakdown_qty]
    exact le_max_left _ _

end ProductForecastInput

end Restock.Forecast
