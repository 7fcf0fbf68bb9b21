import Restock.Forecast.Layered
import Restock.Series.Groups

/-!
# The shop grading itself

`packages/forecast/src/backtest.ts` and `accuracy.ts`. At every cutoff each demand method says what
the next days will sell, from the sales before the cutoff, and what it said is compared with what
happened. So that a busy product does not drown a quiet one, the errors of a product are divided by
how much its daily sales move.

* `methodDailyRate`, `actualUnits`, `isScored` — what is said, what happened, and whether it counts;
* `densify`, `naiveScale`, `scaleWithFallback` — how much a series moves;
* `scaleFreeAccuracy`, `aggregate` — the scores of a product and of a class;
* `walkForwardBacktest` — the code.
-/

namespace Restock.Forecast

/-! ## Scale-free accuracy -/

/-- `EPS`. -/
def EPS : ℚ := 1 / 10 ^ 9

/-- `SEASON_DAYS`. -/
def SEASON_DAYS : ℕ := 7

/-- The mean loss of the changes of a series over `m` days; nothing for a series that is too short
or too flat. -/
def naiveScale (loss : ℚ → ℚ) (daily : List ℚ) (m : ℕ) : Option ℚ :=
  if daily.length < m + 1 then none
  else
    let sum := ((List.range (daily.length - m)).map fun i =>
      loss (daily.getD (i + m) 0 - daily.getD i 0)).sum
    let scale := sum / (daily.length - m : ℕ)
    if EPS < scale then some scale else none

/-- `naiveMaeScale`. -/
def naiveMaeScale : List ℚ → ℕ → Option ℚ :=
  naiveScale fun d => |d|

/-- `naiveMseScale`. -/
def naiveMseScale : List ℚ → ℕ → Option ℚ :=
  naiveScale fun d => d * d

/-- `pinballLoss`. -/
def pinballLoss (actual predicted tau : ℚ) : ℚ :=
  let d := actual - predicted
  if 0 ≤ d then tau * d else (tau - 1) * d

/-- The seasonal scale, or else that of one day to the next. -/
def scaleWithFallback (daily : List ℚ) (scaleAt : List ℚ → ℕ → Option ℚ) : Option ℚ :=
  (scaleAt daily SEASON_DAYS).or (scaleAt daily 1)

/-- `WindowError`. -/
structure WindowError where
  said : ℚ
  happened : ℚ
  deriving DecidableEq, Repr

/-- `ScaleFreeAccuracy`. -/
structure ScaleFreeAccuracy where
  mase : Option ℚ
  rmsse : Option ℚ
  pinball : Option ℚ
  deriving DecidableEq, Repr

/-- The score of some windows against a daily series. -/
def scaleFreeAccuracy (js : Js) (windows : List WindowError) (daily : List ℚ) (tau : ℚ) :
    ScaleFreeAccuracy :=
  let absErr := (windows.map fun w => |w.said - w.happened|).sum
  let sqErr := (windows.map fun w => (w.said - w.happened) * (w.said - w.happened)).sum
  let pinball := (windows.map fun w => pinballLoss w.happened w.said tau).sum
  if windows.length = 0 then { mase := none, rmsse := none, pinball := none }
  else
    { mase := (scaleWithFallback daily naiveMaeScale).map fun scale =>
        absErr / windows.length / scale
      rmsse := (scaleWithFallback daily naiveMseScale).map fun scale =>
        js.sqrt (sqErr / windows.length / scale)
      pinball := some (pinball / windows.length) }

/-! ## The backtest -/

/-- `AbcCategory`. -/
inductive AbcCategory
  | A
  | B
  | C
  deriving DecidableEq, Repr

/-- `DEMAND_METHODS`. -/
def DEMAND_METHODS : List DemandMethod := [.runRate, .recentHeavy]

/-- `PINBALL_TAU`. -/
def PINBALL_TAU : ℚ := 95 / 100

/-- `BacktestProduct`. -/
structure BacktestProduct where
  productId : ProductId
  abcClass : Option AbcCategory := none
  history : List SalesPoint
  deriving DecidableEq, Repr

/-- `Lean`: which way a forecast leans. -/
inductive Leaning
  | over
  | under
  | even
  deriving DecidableEq, Repr

/-- `ClassAccuracy`; the rollup of the whole shop has no class. -/
structure ClassAccuracy where
  abcClass : Option AbcCategory
  method : DemandMethod
  saidUnits : ℚ
  happenedUnits : ℚ
  mae : ℚ
  bias : ℚ
  mape : Option ℚ
  sampleSize : ℕ
  leans : Leaning
  scaleFree : ScaleFreeAccuracy
  deriving DecidableEq, Repr

/-- `BacktestResult`. -/
structure BacktestResult where
  horizonDays : ℚ
  byClass : List ClassAccuracy
  deriving DecidableEq, Repr

/-- The options of a backtest. -/
structure BacktestOptions where
  baselineMethod : BaselineMethod := .mean
  bigBuyerDamping : Bool := false
  deriving DecidableEq, Repr

/-- The daily rate of a method at a cutoff, from the history before it. -/
def methodDailyRate (opts : BacktestOptions) (method : DemandMethod) (history : List SalesPoint)
    (cutoff : Time) : ℚ :=
  demandRateFor method (history.filter fun p => p.date < cutoff) cutoff [] [] none
    opts.baselineMethod opts.bigBuyerDamping

/-- The end of a window: a date is a whole number of milliseconds, cut off towards zero. -/
def windowEnd (cutoff : Time) (horizonDays : ℚ) : Time :=
  let instant := cutoff + horizonDays * DAY_MS
  if 0 ≤ instant then ⌊instant⌋ else ⌈instant⌉

/-- The units sold within a window. -/
def actualUnits (history : List SalesPoint) (cutoff : Time) (horizonDays : ℚ) : ℚ :=
  ((history.filter fun p => cutoff ≤ p.date ∧ p.date < windowEnd cutoff horizonDays).map
    SalesPoint.quantity).sum

/-- `lean`. -/
def lean (bias happenedUnits : ℚ) (sampleSize : ℕ) : Leaning :=
  let scale := if 0 < happenedUnits then happenedUnits / sampleSize else 1
  let rel := bias / if scale = 0 then 1 else scale
  if sampleSize = 0 then .even
  else if 5 / 100 < rel then .over
  else if rel < -(5 / 100) then .under
  else .even

/-- The sales of a product as a value for each day from the first to the last. -/
def densify (history : List SalesPoint) : List ℚ :=
  match (history.map SalesPoint.date).min?, (history.map SalesPoint.date).max? with
  | some first, some last =>
      (List.range ((jsRound (daysBetween first last)).toNat + 1)).map fun i : ℕ =>
        ((history.filter fun p => jsRound (daysBetween first p.date) = i).map
          SalesPoint.quantity).sum
  | _, _ => []

/-- `meanOf`. -/
def meanOf (values : List (Option ℚ)) : Option ℚ :=
  let real := values.filterMap id
  if 0 < real.length then some (real.sum / real.length) else none

/-- `poolScaleFree`. -/
def poolScaleFree (perProduct : List ScaleFreeAccuracy) : ScaleFreeAccuracy where
  mase := meanOf (perProduct.map ScaleFreeAccuracy.mase)
  rmsse := meanOf (perProduct.map ScaleFreeAccuracy.rmsse)
  pinball := meanOf (perProduct.map ScaleFreeAccuracy.pinball)

/-- The accuracy of a method in a class. -/
def aggregate (abcClass : Option AbcCategory) (method : DemandMethod) (windows : List WindowError)
    (perProductScaleFree : List ScaleFreeAccuracy) : ClassAccuracy :=
  let sampleSize := windows.length
  let happenedUnits := (windows.map WindowError.happened).sum
  let absErr := (windows.map fun w => |w.said - w.happened|).sum
  let signedErr := (windows.map fun w => w.said - w.happened).sum
  let bias := if 0 < sampleSize then signedErr / sampleSize else 0
  let withDemand := windows.filter fun w => 0 < w.happened
  { abcClass
    method
    saidUnits := (windows.map WindowError.said).sum
    happenedUnits
    mae := if 0 < sampleSize then absErr / sampleSize else 0
    bias
    mape :=
      if 0 < withDemand.length then
        some ((withDemand.map fun w => |w.said - w.happened| / w.happened).sum / withDemand.length)
      else none
    sampleSize
    leans := lean bias happenedUnits sampleSize
    scaleFree := poolScaleFree perProductScaleFree }

/-- A window of a history is scored unless there is none or its end runs past the last date. -/
def isScored (history : List SalesPoint) (cutoff : Time) (horizonDays : ℚ) : Bool :=
  let lastDate := history.foldl (fun m p => if m < p.date then p.date else m) 0
  history.length ≠ 0 ∧ windowEnd cutoff horizonDays ≤ lastDate + DAY_MS

/-- The windows of a product for a method, in order. -/
def windowsOf (opts : BacktestOptions) (history : List SalesPoint) (cutoffs : List Time)
    (horizonDays : ℚ) (method : DemandMethod) : List WindowError :=
  (cutoffs.filter fun cutoff => isScored history cutoff horizonDays).map fun cutoff =>
    { said := methodDailyRate opts method history cutoff * horizonDays
      happened := actualUnits history cutoff horizonDays }

/-- What is pushed for a product under its class and under none, in order. -/
def pushed {α : Type} (product : BacktestProduct) (entries : List (DemandMethod × α)) :
    List (Option AbcCategory × DemandMethod × α) :=
  entries.flatMap fun e =>
    [(some (product.abcClass.getD .C), e.1, e.2), (none, e.1, e.2)]

/-- The walk over the whole catalogue. -/
def walkForwardBacktest (js : Js) (products : List BacktestProduct) (cutoffs : List Time)
    (horizonDays : ℚ) (opts : BacktestOptions) : BacktestResult :=
  let buckets := products.flatMap fun product =>
    pushed product <|
      (cutoffs.filter fun cutoff => isScored product.history cutoff horizonDays).flatMap
        fun cutoff => DEMAND_METHODS.map fun method =>
          (method,
            { said := methodDailyRate opts method product.history cutoff * horizonDays
              happened := actualUnits product.history cutoff horizonDays : WindowError })
  let scaled := products.flatMap fun product =>
    pushed product <|
      (DEMAND_METHODS.filter fun method =>
        windowsOf opts product.history cutoffs horizonDays method ≠ []).map fun method =>
          (method, scaleFreeAccuracy js
            (windowsOf opts product.history cutoffs horizonDays method)
            (densify product.history) PINBALL_TAU)
  { horizonDays
    byClass := (Series.groups buckets).flatMap fun (cls, entries) =>
      (Series.groups entries).map fun (method, windows) =>
        aggregate cls method windows ((scaled.filter fun s => s.1 = cls ∧ s.2.1 = method).map
          fun s => s.2.2) }

end Restock.Forecast
