import Restock.Forecast.Clock

/-!
# Order sizing

The order quantity of `packages/forecast/src/reorder.ts`, with the lead times of
`lead-time.ts`, the count quantile of `calibrated-quantile.ts` and the breakdown of
`explain.ts`.

* `leadDaysFor`, `leadStdFor`, `coverDaysFor` — lead times;
* `countQuantile`, `calibratedCover` — the calibrated cover;
* `reorderBreakdown` — the quantity and what it is made of;
* `explainQty` — the breakdown that is shown.
-/

namespace Restock.Forecast

/-! ## Lead times -/

/-- Review period in days. -/
def ORDER_REVIEW_DAYS : ℚ := 7

/-- Per-product override, then supplier average, then nothing. -/
def leadDaysFor (leadTimeDays supplierAvgDays : Option ℚ) : Option ℚ :=
  leadTimeDays <|> supplierAvgDays

/-- The supplier's measured spread, else the flat fallback. -/
def leadStdFor (supplierStdDays : Option ℚ) : ℚ :=
  supplierStdDays.getD 7

/-- How many days of demand one order should span. -/
def coverDaysFor (leadTimeDays supplierAvgDays : Option ℚ) : ℚ :=
  (leadDaysFor leadTimeDays supplierAvgDays).getD 0 + ORDER_REVIEW_DAYS

/-! ## The calibrated cover -/

/-- The first count, from `k` on, at which the distribution reaches `tau`; the last one when
it does not within `fuel` counts. -/
def quantileFrom (ratio : ℕ → ℚ) (tau : ℚ) : ℕ → ℕ → ℚ → ℚ → ℕ
  | 0, k, _, _ => k - 1
  | fuel + 1, k, pmf, cum =>
      let pmf := pmf * ratio k
      let cum := cum + pmf
      if tau ≤ cum then k else quantileFrom ratio tau fuel (k + 1) pmf cum

/-- The quantile of a count distribution that begins with the mass `start` at zero. -/
def quantileOf (start : ℚ) (ratio : ℕ → ℚ) (tau : ℚ) (cap : ℕ) : ℕ :=
  if tau ≤ start then 0 else quantileFrom ratio tau cap 1 start start

/-- The smallest count that covers demand with probability `tau`: Poisson when demand is not
over-dispersed, else Negative-Binomial. -/
def countQuantile (js : Js) (mean variance tau : ℚ) : ℕ :=
  if mean ≤ 1 / 10 ^ 9 ∨ tau ≤ 0 then 0
  else
    let tau := if 1 ≤ tau then 999999 / 1000000 else tau
    let v := max variance mean
    let cap := ⌈mean + 50 * js.sqrt v + 100⌉.toNat
    if v ≤ mean * (1 + 1 / 10 ^ 6) then
      quantileOf (js.exp (-mean)) (fun k => mean / k) tau cap
    else
      let r := mean * mean / (v - mean)
      let prob := r / (r + mean)
      quantileOf (js.pow prob r) (fun k => (k - 1 + r) / k * (1 - prob)) tau cap

/-- Order-up-to cover: the `tau` quantile of demand over the protection interval. -/
def calibratedCover (js : Js) (dailyMean dailyVar horizonDays tau : ℚ) : ℕ :=
  let h := max 1 horizonDays
  let dailyMean := max 0 dailyMean
  if dailyMean ≤ 1 / 10 ^ 9 then 0
  else countQuantile js (dailyMean * h) (max dailyVar (dailyMean * (3 / 2)) * h) tau

/-! ## The quantity -/

/-- The rule of an ordering policy. -/
inductive PolicyRule
  | calibrated
  | minMax
  deriving DecidableEq, Repr

/-- `OrderPolicy`. -/
structure OrderPolicy where
  serviceLevel : Option ℚ
  rule : PolicyRule
  deriving DecidableEq, Repr

/-- `ReorderInput`. -/
structure ReorderInput where
  finalForecast30d : ℚ
  safetyStock : ℚ
  currentStock : ℚ
  onOrder : ℚ
  coverDays : Option ℚ := none
  abcCategory : Option String := none
  dailyDemandStd : Option ℚ := none
  leadTimeAvg : Option ℚ := none
  serviceLevel : Option ℚ := none
  policy : Option OrderPolicy := none
  deriving DecidableEq, Repr

/-- Default target service level by class. -/
def tauForClass (abc : Option String) : ℚ :=
  if abc = some "B" then 9 / 10 else 95 / 100

/-- The shortest par window. -/
def MIN_PAR_DAYS : ℚ := 14

/-- `ReorderMethod`. -/
inductive ReorderMethod
  | meanCover
  | calibrated
  | minMax
  deriving DecidableEq, Repr

/-- `ReorderBreakdown`. -/
structure ReorderBreakdown where
  method : ReorderMethod
  targetUnits : ℤ
  qty : ℚ
  dailyForecast : ℚ
  safetyStock : ℚ
  currentStock : ℚ
  onOrder : ℚ
  windowDays : ℚ
  serviceLevel : Option ℚ
  demandOverCover : ℚ
  deriving DecidableEq, Repr

namespace ReorderInput

variable (input : ReorderInput)

/-- Whether the par rule sizes the order. -/
def useMinMax : Bool :=
  match input.policy with
  | some policy => policy.rule = .minMax
  | none => input.abcCategory = some "C"

/-- The spread of the calibrated rule, where that rule sizes the order. -/
def useCalibrated : Option ℚ :=
  if ¬ input.useMinMax ∧ input.policy.any (fun policy => policy.rule = .calibrated) ∧
      0 < input.finalForecast30d then
    input.dailyDemandStd
  else none

/-- A breakdown with its quantity netted from its target. -/
def breakdown (method : ReorderMethod) (targetUnits : ℤ) (windowDays : ℚ)
    (serviceLevel : Option ℚ) (demandOverCover : ℚ) : ReorderBreakdown where
  method
  targetUnits
  qty := max 0 (targetUnits - input.currentStock - input.onOrder)
  dailyForecast := input.finalForecast30d / 30
  safetyStock := input.safetyStock
  currentStock := input.currentStock
  onOrder := input.onOrder
  windowDays
  serviceLevel
  demandOverCover

end ReorderInput

/-- The sizing decision, decomposed. -/
def reorderBreakdown (js : Js) (input : ReorderInput) : ReorderBreakdown :=
  let dailyForecast := input.finalForecast30d / 30
  match input.useCalibrated with
  | some std =>
      let protectionDays := input.leadTimeAvg.getD 0 + ORDER_REVIEW_DAYS
      let tau := ((input.policy.bind OrderPolicy.serviceLevel) <|> input.serviceLevel).getD
        (tauForClass input.abcCategory)
      let orderUpTo := calibratedCover js dailyForecast (std * std) protectionDays tau
      input.breakdown .calibrated orderUpTo protectionDays (some tau) 0
  | none =>
      if input.useMinMax then
        let parDays := max MIN_PAR_DAYS (input.leadTimeAvg.getD 0 + ORDER_REVIEW_DAYS)
        let parLevel := max 1 ⌈dailyForecast * parDays + input.safetyStock⌉
        input.breakdown .minMax parLevel parDays none (dailyForecast * parDays)
      else
        let coverDays := input.coverDays.getD 30
        let demandOverCover := dailyForecast * coverDays
        input.breakdown .meanCover ⌈demandOverCover + input.safetyStock⌉ coverDays none
          demandOverCover

/-- The order quantity. -/
def recommendedQty (js : Js) (input : ReorderInput) : ℚ :=
  (reorderBreakdown js input).qty

/-- `Prediction.regime`. -/
inductive Regime
  | minMax
  | forecast
  deriving DecidableEq, Repr

/-- The method used for an item's recommendation. -/
def reorderMethod (abcCategory : Option String) (policy : Option OrderPolicy) : Regime :=
  match policy with
  | some policy => if policy.rule = .minMax then .minMax else .forecast
  | none => if abcCategory = some "C" then .minMax else .forecast

/-! ## The breakdown that is shown -/

/-- `QtyExplanation`. -/
structure QtyExplanation where
  method : ReorderMethod
  dailyForecast : ℚ
  windowDays : ℚ
  coverDays : ℚ
  demandOverCover : ℚ
  safetyStock : ℚ
  currentStock : ℚ
  onOrder : ℚ
  targetUnits : ℤ
  recommendedQty : ℚ
  summary : String
  deriving DecidableEq, Repr

/-- The text of a number with at most one decimal. -/
def r1 (js : Js) (n : ℚ) : String :=
  js.text (jsRound (n * 10) / 10)

/-- How the target was set. -/
def qualifier (js : Js) (b : ReorderBreakdown) : String :=
  match b.method with
  | .calibrated =>
      "covers " ++ js.text b.windowDays ++ "d of demand at "
        ++ toString (jsRound (b.serviceLevel.getD 0 * 100)) ++ "% service"
  | .minMax => "2-week par + " ++ r1 js b.safetyStock ++ " buffer"
  | .meanCover =>
      r1 js b.dailyForecast ++ "/day × " ++ js.text b.windowDays ++ "d + " ++ r1 js b.safetyStock
        ++ " buffer"

/-- The breakdown of a quantity the caller has decided on. -/
def explainQty (js : Js) (input : ReorderInput) (finalQty : ℚ) : QtyExplanation :=
  let b := reorderBreakdown js input
  { method := b.method
    dailyForecast := b.dailyForecast
    windowDays := b.windowDays
    coverDays := b.windowDays
    demandOverCover := b.demandOverCover
    safetyStock := b.safetyStock
    currentStock := b.currentStock
    onOrder := b.onOrder
    targetUnits := b.targetUnits
    recommendedQty := finalQty
    summary :=
      if finalQty ≠ b.qty then "held off the buy list = " ++ js.text finalQty
      else if finalQty = 0 then
        "already covered — " ++ toString b.targetUnits ++ " target ≤ " ++ r1 js b.currentStock
          ++ " on hand + " ++ r1 js b.onOrder ++ " incoming = 0"
      else
        "stock up to " ++ toString b.targetUnits ++ " (" ++ qualifier js b ++ ") − "
          ++ r1 js b.currentStock ++ " on hand − " ++ r1 js b.onOrder ++ " incoming = "
          ++ js.text finalQty }

end Restock.Forecast
