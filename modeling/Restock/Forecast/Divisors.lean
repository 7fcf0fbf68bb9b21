import Restock.Forecast.Pipeline
import Restock.Forecast.SameSales

/-!
# What the engine divides by

For each function of the engine that divides by a number it has computed, the divisors of a call,
under the function's name. The divisors of a caller are its own and those of its calls, on the
branches it takes.

* `Divisors.forecastProduct` — the divisors of a forecast;
* `Divisors.nonzero_forecastProduct` — none is zero, unless the gap inference is asked about a
  slice of less than half a day or a forecast of nothing is cut below zero.
-/

namespace Restock.Forecast

open Series

namespace Divisors

/-- No divisor is zero. -/
def Nonzero (divisors : List ℚ) : Prop :=
  ∀ d ∈ divisors, d ≠ 0

section Nonzero

variable {xs ys : List ℚ} {d : ℚ}

@[simp] theorem nonzero_nil : Nonzero [] :=
  fun _ h => absurd h List.not_mem_nil

@[simp] theorem nonzero_cons : Nonzero (d :: xs) ↔ d ≠ 0 ∧ Nonzero xs :=
  List.forall_mem_cons

@[simp] theorem nonzero_append : Nonzero (xs ++ ys) ↔ Nonzero xs ∧ Nonzero ys :=
  List.forall_mem_append

theorem nonzero_flatMap {α : Type} {f : α → List ℚ} {as : List α}
    (h : ∀ a ∈ as, Nonzero (f a)) : Nonzero (as.flatMap f) := by
  intro d hd
  obtain ⟨a, ha, hd⟩ := List.mem_flatMap.mp hd
  exact h a ha d hd

end Nonzero

/-! ## Rates -/

section Rates

variable (history : List SalesPoint)

/-- `totalQty / windowDays`. -/
def gapDaysInWindow (since asOf : Time) : List ℚ :=
  if (history.filter fun p => inWindow since asOf p.date).length < 2 then []
  else [(jsRound (daysBetween since asOf) : ℚ)]

def uncoveredGapDays (since asOf : Time) (snapshotsSince : Option Time) : List ℚ :=
  match snapshotsSince with
  | none => []
  | some snapshotsSince =>
      if snapshotsSince ≤ since then [] else gapDaysInWindow history since (min snapshotsSince asOf)

/-- `signal.saleDays / signal.inStockDays`. -/
def effectiveWindowDays (signal : Option WindowSignal) : List ℚ :=
  match signal with
  | none => []
  | some s => if 0 < s.inStockDays ∧ 2 ≤ s.saleDays then [(s.inStockDays : ℚ)] else []

/-- `units / effectiveDays`. -/
def weightedDailyRateAdjusted (asOf : Time) (excludedDates : List Time) : List ℚ :=
  if history = [] then []
  else RATE_WINDOWS.flatMap fun w =>
    let since := daysBefore asOf w.1
    let effectiveDays := max 1
      (w.1 - Forecast.gapDaysInWindow history since asOf 7 excludedDates
        - countDayKeysInWindow (dayKeySet excludedDates) since asOf)
    gapDaysInWindow history since asOf ++ [(effectiveDays : ℚ)]

/-- `units / effectiveDays`. -/
def weightedDailyRateCensored (stockoutDates : List Time) (asOf : Time)
    (excludedDates : List Time) (snapshotsSince : Option Time) : List ℚ :=
  if history = [] then []
  else if stockoutDates = [] ∧ snapshotsSince = none then
    weightedDailyRateAdjusted history asOf excludedDates
  else RATE_WINDOWS.flatMap fun w =>
    let since := daysBefore asOf w.1
    let window := dampedWindow history since asOf (dayKeySet excludedDates)
    let blocked := blockedDaysInWindow stockoutDates excludedDates since asOf
      + Forecast.uncoveredGapDays history since asOf snapshotsSince excludedDates
    let signal : Option WindowSignal :=
      some { inStockDays := w.1 - blocked, saleDays := window.saleDays }
    uncoveredGapDays history since asOf snapshotsSince ++ effectiveWindowDays signal
      ++ [(Forecast.effectiveWindowDays w.1 blocked signal : ℚ)]

/-- The total of the unknown days `/ unknownDays`. -/
def inferredGapKeys (start inferenceEnd : Time) : List ℚ :=
  let unknown := history.filter fun p => dayKeyOf p.date < inferenceEnd
  let unknownDays := daysBetween start inferenceEnd
  if 2 ≤ unknown.length ∧ 0 < unknownDays then [unknownDays] else []

/-- `units / days` of the weeks, and the exposure mean. -/
def medianRate (start asOf inferenceEnd : Time) (excluded stockouts : Finset ℤ) : List ℚ :=
  let rows := history.filter fun p => start ≤ dayKeyOf p.date
  let byDay := tally (rows.map fun p => (dayKeyOf p.date, p.quantity))
  let blocked := medianBlocked rows byDay start inferenceEnd excluded stockouts
  let buckets := weeksOf byDay blocked start asOf
  let exposure : ℕ := (buckets.map Prod.fst).sum
  let window := dampedWindow history start asOf excluded
  let span := max 1 ((asOf - start) / DAY_MS)
  let signal : Option WindowSignal := some { inStockDays := exposure, saleDays := window.saleDays }
  inferredGapKeys rows start inferenceEnd
    ++ (buckets.filter fun b => 3 ≤ b.1).map (fun b => (b.1 : ℚ))
    ++ effectiveWindowDays signal
    ++ [(Forecast.effectiveWindowDays span (span - exposure) signal : ℚ)]

def weightedDailyRateMedianCensored (stockoutDates : List Time) (asOf : Time)
    (excludedDates : List Time) (snapshotsSince : Option Time) : List ℚ :=
  let last := dayKeyOf asOf
  let valid := history.filter fun p => p.date < asOf ∧ dayKeyOf p.date < last
  if valid = [] then []
  else
    let first := (valid.map fun p => dayKeyOf p.date).foldl min last
    MEDIAN_WINDOWS.flatMap fun w =>
      let start := max first (daysBefore last w.1)
      let inferenceEnd := match snapshotsSince with
        | some snapshotsSince => min last (dayKeyOf snapshotsSince)
        | none => if stockoutDates = [] then last else start
      medianRate valid start last inferenceEnd (dayKeySet excludedDates) (dayKeySet stockoutDates)

/-- `units / effectiveWindowDays`. -/
def rateOverWindow (today : Time) (windowDays : ℤ) (stockoutDates excludedDates : List Time) :
    List ℚ :=
  let since := daysBefore today windowDays
  let window := dampedWindow history since today (dayKeySet excludedDates)
  if stockoutDates ≠ [] ∨ excludedDates ≠ [] then
    let blocked := blockedDaysInWindow stockoutDates excludedDates since today
    let signal : Option WindowSignal :=
      some { inStockDays := windowDays - blocked, saleDays := window.saleDays }
    effectiveWindowDays signal ++ [(Forecast.effectiveWindowDays windowDays blocked signal : ℚ)]
  else [(Forecast.effectiveWindowDays windowDays 0 none : ℚ)]

/-- The divisors of `capped - negative` by `positive`, and of the multiple of each cap. -/
def debulkSeries (asOf : Option Time) (excludedDates : List Time) : List ℚ :=
  let rows := bulkEvidence history asOf (dayKeySet excludedDates)
  (bulkCaps rows).flatMap fun cap =>
    [cap.baseline, totalIn (bulkTotals rows fun q => if 0 < q then q else 0) cap.date]

def runRateDaily (today : Time) (stockoutDates excludedDates : List Time)
    (snapshotsSince : Option Time) (baselineMethod : BaselineMethod) : List ℚ :=
  let today := dayKeyOf today
  let history := history.filter fun p => p.date < today
  let span := historySpanDays history today
  if span < NEW_PRODUCT_DAYS then
    rateOverWindow history today (newProductWindow span) stockoutDates excludedDates
  else if baselineMethod = .median then
    weightedDailyRateMedianCensored history stockoutDates today excludedDates snapshotsSince
  else if stockoutDates ≠ [] ∨ snapshotsSince.isSome then
    weightedDailyRateCensored history stockoutDates today excludedDates snapshotsSince
  else weightedDailyRateAdjusted history today excludedDates

/-- The divisors of a call without damping, as the engine makes it. -/
def demandRateFor (method : DemandMethod) (today : Time) (stockoutDates excludedDates : List Time)
    (snapshotsSince : Option Time) (baselineMethod : BaselineMethod) : List ℚ :=
  let today := dayKeyOf today
  let history := history.filter fun p => p.date < today
  if baselineMethod = .median then
    runRateDaily history today stockoutDates excludedDates snapshotsSince .median
  else if method = .recentHeavy then
    rateOverWindow history today RECENT_HEAVY_WINDOW_DAYS stockoutDates excludedDates
  else runRateDaily history today stockoutDates excludedDates snapshotsSince .mean

/-- `units / spanDays`. -/
def demonstratedDailyRate : List ℚ :=
  let dates := (history.filter fun p => 0 < p.quantity).map SalesPoint.date
  match dates.min?, dates.max? with
  | some first, some last => [(max 1 (jsRound (daysBetween first last)) : ℚ)]
  | _, _ => []

/-! ### None is zero -/

/-- Snapshots that begin in the first half day of a window find at most one row before them. -/
def ThinSlice (rows : List SalesPoint) (since : Time) (snapshotsSince : Option Time) : Prop :=
  ∀ snapshot, snapshotsSince = some snapshot → daysBetween since snapshot < 1 / 2 →
    (rows.filter fun p => inWindow since snapshot p.date).length < 2

variable {history} {since asOf today : Time} {days : ℤ} {stockoutDates excludedDates : List Time}
  {snapshotsSince : Option Time}

theorem ThinSlice.filter (h : ThinSlice history since snapshotsSince) (keep : SalesPoint → Bool) :
    ThinSlice (history.filter keep) since snapshotsSince := by
  intro snapshot hsnapshot hshort
  have hfewer := ((List.filter_sublist (p := keep) (l := history)).filter fun p =>
    inWindow since snapshot p.date).length_le
  exact hfewer.trans_lt (h snapshot hsnapshot hshort)

theorem nonzero_gapDaysInWindow
    (h : 1 / 2 ≤ daysBetween since asOf ∨
      (history.filter fun p => inWindow since asOf p.date).length < 2) :
    Nonzero (gapDaysInWindow history since asOf) := by
  rw [gapDaysInWindow]
  split
  · exact nonzero_nil
  case isFalse hmany =>
    have hround : 1 ≤ jsRound (daysBetween since asOf) := by
      by_contra hshort
      exact absurd (jsRound_lt_one.mp (not_le.mp hshort)) (not_lt.mpr (h.resolve_right hmany))
    simp only [nonzero_cons, nonzero_nil, and_true]
    exact_mod_cast (show (0 : ℤ) < _ from hround).ne'

theorem nonzero_gapDaysInWindow_daysBefore (hdays : 1 ≤ days) :
    Nonzero (gapDaysInWindow history (daysBefore asOf days) asOf) := by
  refine nonzero_gapDaysInWindow (Or.inl ?_)
  have hone : (1 : ℚ) ≤ days := by exact_mod_cast hdays
  rw [daysBetween_daysBefore]
  linarith

theorem nonzero_uncoveredGapDays (hdays : 1 ≤ days)
    (hslice : ThinSlice history (daysBefore asOf days) snapshotsSince) :
    Nonzero (uncoveredGapDays history (daysBefore asOf days) asOf snapshotsSince) := by
  cases snapshotsSince with
  | none => exact nonzero_nil
  | some snapshot =>
      rw [uncoveredGapDays]
      split
      · exact nonzero_nil
      · refine nonzero_gapDaysInWindow ?_
        rcases le_total asOf snapshot with hle | hle
        · rw [min_eq_right hle]
          have hone : (1 : ℚ) ≤ days := by exact_mod_cast hdays
          exact Or.inl (by rw [daysBetween_daysBefore]; linarith)
        · rw [min_eq_left hle]
          exact (le_or_gt (1 / 2) _).imp_right (hslice snapshot rfl)

theorem nonzero_effectiveWindowDays (signal : Option WindowSignal) :
    Nonzero (effectiveWindowDays signal) := by
  cases signal with
  | none => exact nonzero_nil
  | some s =>
      rw [effectiveWindowDays]
      split
      case isTrue h =>
        simp only [nonzero_cons, nonzero_nil, and_true]
        exact_mod_cast h.1.ne'
      · exact nonzero_nil

/-- A denominator of a window of some days is positive. -/
theorem effectiveWindowDays_ne_zero (hdays : 1 ≤ days) (blocked : ℤ)
    (signal : Option WindowSignal) :
    (Forecast.effectiveWindowDays days blocked signal : ℚ) ≠ 0 := by
  have hpos := one_le_effectiveWindowDays hdays blocked signal
  exact_mod_cast (Int.lt_of_lt_of_le Int.zero_lt_one hpos).ne'

theorem nonzero_weightedDailyRateAdjusted :
    Nonzero (weightedDailyRateAdjusted history asOf excludedDates) := by
  rw [weightedDailyRateAdjusted]
  split
  · exact nonzero_nil
  · refine nonzero_flatMap fun w hw => ?_
    simp only [nonzero_append, nonzero_cons, nonzero_nil, and_true]
    refine ⟨nonzero_gapDaysInWindow_daysBefore (one_le_of_mem_RATE_WINDOWS hw), ?_⟩
    have hpos : (0 : ℤ) < max 1 (w.1 - Forecast.gapDaysInWindow history (daysBefore asOf w.1) asOf 7
        excludedDates -
          countDayKeysInWindow (dayKeySet excludedDates) (daysBefore asOf w.1) asOf) :=
      lt_max_of_lt_left one_pos
    exact_mod_cast hpos.ne'

theorem nonzero_weightedDailyRateCensored
    (hslice : ∀ w ∈ RATE_WINDOWS, ThinSlice history (daysBefore asOf w.1) snapshotsSince) :
    Nonzero
      (weightedDailyRateCensored history stockoutDates asOf excludedDates snapshotsSince) := by
  rw [weightedDailyRateCensored]
  split
  · exact nonzero_nil
  · split
    · exact nonzero_weightedDailyRateAdjusted
    · refine nonzero_flatMap fun w hw => ?_
      have hdays := one_le_of_mem_RATE_WINDOWS hw
      simp only [nonzero_append, nonzero_cons, nonzero_nil, and_true]
      exact ⟨⟨nonzero_uncoveredGapDays hdays (hslice w hw), nonzero_effectiveWindowDays _⟩,
        effectiveWindowDays_ne_zero hdays _ _⟩

theorem nonzero_medianRate (start inferenceEnd : Time) (excluded stockouts : Finset ℤ) :
    Nonzero (medianRate history start asOf inferenceEnd excluded stockouts) := by
  rw [medianRate]
  simp only [nonzero_append, nonzero_cons, nonzero_nil, and_true]
  refine ⟨⟨⟨?_, ?_⟩, nonzero_effectiveWindowDays _⟩,
    effectiveWindowDays_ne_zero (le_max_left _ _) _ _⟩
  · rw [inferredGapKeys]
    split
    case isTrue h =>
      simp only [nonzero_cons, nonzero_nil, and_true]
      exact h.2.ne'
    · exact nonzero_nil
  · -- a week that counts has three days
    intro d hd
    obtain ⟨b, hb, rfl⟩ := List.mem_map.mp hd
    have hthree : 3 ≤ b.1 := by simpa using (List.mem_filter.mp hb).2
    have hpos : 0 < b.1 := by omega
    exact_mod_cast hpos.ne'

theorem nonzero_weightedDailyRateMedianCensored :
    Nonzero (weightedDailyRateMedianCensored history stockoutDates asOf excludedDates
      snapshotsSince) := by
  rw [weightedDailyRateMedianCensored]
  split
  · exact nonzero_nil
  · exact nonzero_flatMap fun w _ => nonzero_medianRate _ _ _ _

theorem nonzero_rateOverWindow (hdays : 1 ≤ days) :
    Nonzero (rateOverWindow history today days stockoutDates excludedDates) := by
  rw [rateOverWindow]
  split
  · simp only [nonzero_append, nonzero_cons, nonzero_nil, and_true]
    exact ⟨nonzero_effectiveWindowDays _, effectiveWindowDays_ne_zero hdays _ _⟩
  · simp only [nonzero_cons, nonzero_nil, and_true]
    exact effectiveWindowDays_ne_zero hdays _ _

theorem nonzero_debulkSeries (asOf : Option Time) :
    Nonzero (debulkSeries history asOf excludedDates) := by
  refine nonzero_flatMap fun cap hcap => ?_
  simp only [nonzero_cons, nonzero_nil, and_true]
  refine ⟨?_, (bulkSold_pos _ hcap).ne'⟩
  have hpos := bulkBaseline_pos _ hcap
  obtain ⟨day, _, _, rfl⟩ := exists_day_of_mem_bulkCaps _ hcap
  exact hpos.ne'

theorem nonzero_runRateDaily (method : BaselineMethod)
    (hslice : ∀ w ∈ RATE_WINDOWS,
      ThinSlice history (daysBefore (dayKeyOf today) w.1) snapshotsSince) :
    Nonzero (runRateDaily history today stockoutDates excludedDates snapshotsSince method) := by
  rw [runRateDaily]
  split
  · refine nonzero_rateOverWindow (le_min (by norm_num) (le_max_of_le_left (by norm_num)))
  · split
    · exact nonzero_weightedDailyRateMedianCensored
    · split
      · exact nonzero_weightedDailyRateCensored fun w hw => (hslice w hw).filter _
      · exact nonzero_weightedDailyRateAdjusted

theorem nonzero_demandRateFor (method : DemandMethod) (baselineMethod : BaselineMethod)
    (hslice : ∀ w ∈ RATE_WINDOWS,
      ThinSlice history (daysBefore (dayKeyOf today) w.1) snapshotsSince) :
    Nonzero (demandRateFor history method today stockoutDates excludedDates snapshotsSince
      baselineMethod) := by
  have hslices : ∀ w ∈ RATE_WINDOWS,
      ThinSlice (history.filter fun p => p.date < dayKeyOf today)
        (daysBefore (dayKeyOf (dayKeyOf today)) w.1) snapshotsSince := by
    intro w hw
    rw [dayKeyOf_dayKeyOf]
    exact (hslice w hw).filter _
  rw [demandRateFor]
  split
  · exact nonzero_runRateDaily _ hslices
  · split
    · exact nonzero_rateOverWindow (by decide)
    · exact nonzero_runRateDaily _ hslices

theorem nonzero_demonstratedDailyRate : Nonzero (demonstratedDailyRate history) := by
  rw [demonstratedDailyRate]
  split
  case h_1 first last _ _ =>
    have hpos : 0 < max 1 (jsRound (daysBetween first last)) := lt_max_of_lt_left one_pos
    simp only [nonzero_cons, nonzero_nil, and_true]
    exact_mod_cast hpos.ne'
  · exact nonzero_nil

end Rates

/-! ## The layers -/

/-- `currentStock / dailyRate`. -/
def daysOfStockRemaining (dailyRate : ℚ) : List ℚ :=
  if dailyRate ≤ 1 / 10000 then [] else [dailyRate]

/-- The mean and the variance. -/
def standardDeviation (values : List ℚ) : List ℚ :=
  if values = [] then [] else [(values.length : ℚ), (values.length : ℚ)]

section Layers

variable (js : Js) (now : Time) (input : ForecastInput)

/-- The mean of the last thirty days. -/
def meanRecent : List ℚ :=
  let recent := input.recentQuantities now 30
  if 0 < recent.length then [(recent.length : ℚ)] else []

/-- `std90 / meanRecent`. -/
def cv : List ℚ :=
  if 0 < input.meanRecent now then [input.meanRecent now] else []

/-- `(capped - boosted) / boosted` of the signal that the cap bit. -/
def capSignal : List ℚ :=
  if input.wasCapped js now then [input.boosted js now] else []

/-- `capped / boosted`. -/
def clipRatio : List ℚ :=
  if 0 < input.boosted js now then [input.boosted js now] else []

/-- The gap inference of the confidence word, where there is no mask. -/
def stockoutGapDays : List ℚ :=
  if input.stockoutDates ≠ [] then []
  else gapDaysInWindow (input.demandHistory now) (daysBefore (input.today now) 30) (input.today now)

def layeredForecast : List ℚ :=
  debulkSeries input.history (some (input.today now)) input.excludedDates
    ++ demandRateFor (input.demandHistory now) (input.demandMethod.getD .runRate)
      (input.today now) input.stockoutDates input.excludedDates input.snapshotsSince
      input.baselineMethod
    ++ demonstratedDailyRate (input.demandHistory now)
    ++ meanRecent now input ++ standardDeviation (input.recentQuantities now 90) ++ cv now input
    ++ capSignal js now input ++ clipRatio js now input
    ++ standardDeviation (input.recentQuantities now 90)
    ++ daysOfStockRemaining (input.sizingDailyRate js now)
    ++ stockoutGapDays now input

/-! ### None is zero -/

theorem nonzero_daysOfStockRemaining (dailyRate : ℚ) :
    Nonzero (daysOfStockRemaining dailyRate) := by
  rw [daysOfStockRemaining]
  split
  · exact nonzero_nil
  case isFalse hsells =>
    have hpos : 0 < dailyRate := lt_trans (by norm_num) (not_le.mp hsells)
    simpa using hpos.ne'

theorem nonzero_standardDeviation (values : List ℚ) : Nonzero (standardDeviation values) := by
  rw [standardDeviation]
  split
  · exact nonzero_nil
  case isFalse hne => simpa using hne

theorem nonzero_meanRecent : Nonzero (meanRecent now input) := by
  rw [meanRecent]
  split
  case isTrue hpos => simpa using (List.length_pos_iff.mp hpos)
  · exact nonzero_nil

theorem nonzero_cv : Nonzero (cv now input) := by
  rw [cv]
  split
  case isTrue hpos => simpa using hpos.ne'
  · exact nonzero_nil

theorem nonzero_clipRatio : Nonzero (clipRatio js now input) := by
  rw [clipRatio]
  split
  case isTrue hpos => simpa using hpos.ne'
  · exact nonzero_nil

/-- A cap that is not below zero bites a positive forecast only. -/
theorem nonzero_capSignal (hcap : input.demandOverride.isSome ∨ 0 ≤ input.capMultipleOf) :
    Nonzero (capSignal js now input) := by
  rw [capSignal]
  split
  case isTrue hbites =>
    have hless : input.capped js now < input.boosted js now := by
      have hmargin := of_decide_eq_true hbites
      have heps : (0 : ℚ) < 1 / 10 ^ 9 := by norm_num
      linarith
    have hpos : 0 < input.boosted js now := by
      rw [ForecastInput.capped] at hless
      split at hless
      case isTrue hbest =>
        have hmultiple : 0 ≤ input.capMultipleOf :=
          hcap.resolve_left (by simpa using hbest.2)
        have hfloor : 0 ≤ input.capMultipleOf * input.best now :=
          mul_nonneg hmultiple hbest.1.le
        rcases min_lt_iff.mp hless with hself | hclipped
        · exact absurd hself (lt_irrefl _)
        · exact hfloor.trans_lt hclipped
      case isFalse => exact absurd hless (lt_irrefl _)
    simpa using hpos.ne'
  · exact nonzero_nil

theorem nonzero_stockoutGapDays : Nonzero (stockoutGapDays now input) := by
  rw [stockoutGapDays]
  split
  · exact nonzero_nil
  · exact nonzero_gapDaysInWindow_daysBefore (by norm_num)

theorem nonzero_layeredForecast (hcap : input.demandOverride.isSome ∨ 0 ≤ input.capMultipleOf)
    (hslice : ∀ w ∈ RATE_WINDOWS, ThinSlice (input.demandHistory now)
      (daysBefore (dayKeyOf (input.today now)) w.1) input.snapshotsSince) :
    Nonzero (layeredForecast js now input) := by
  simp only [layeredForecast, nonzero_append]
  exact ⟨⟨⟨⟨⟨⟨⟨⟨⟨⟨nonzero_debulkSeries _, nonzero_demandRateFor _ _ hslice⟩,
    nonzero_demonstratedDailyRate⟩, nonzero_meanRecent now input⟩, nonzero_standardDeviation _⟩,
    nonzero_cv now input⟩, nonzero_capSignal js now input hcap⟩, nonzero_clipRatio js now input⟩,
    nonzero_standardDeviation _⟩, nonzero_daysOfStockRemaining _⟩,
    nonzero_stockoutGapDays now input⟩

end Layers

/-- The ratio of the clamp and the days of cover at the clamped rate. -/
def guardForecastResult (result : ForecastResult) (ctx : GuardContext) : List ℚ :=
  let decision := guardrailCap (ctx.question result.finalForecast30d)
  if ¬ decision.capped ∨ result.finalForecast30d ≤ 0 then []
  else
    let newRate := decision.finalForecast30d / 30
    result.finalForecast30d :: if 0 < newRate then [newRate] else []

theorem nonzero_guardForecastResult (result : ForecastResult) (ctx : GuardContext) :
    Nonzero (guardForecastResult result ctx) := by
  rw [guardForecastResult]
  split
  · exact nonzero_nil
  case isFalse hclamped =>
    have hpos : 0 < result.finalForecast30d := not_le.mp (not_or.mp hclamped).2
    simp only [nonzero_cons]
    refine ⟨hpos.ne', ?_⟩
    split
    case isTrue hrate => simpa using hrate.ne'
    · exact nonzero_nil

/-! ## Order sizing -/

/-- The ratio of each count divides by the count. -/
def quantileFrom (ratio : ℕ → ℚ) (tau : ℚ) : ℕ → ℕ → ℚ → ℚ → List ℚ
  | 0, _, _, _ => []
  | fuel + 1, k, pmf, cum =>
      let pmf := pmf * ratio k
      let cum := cum + pmf
      (k : ℚ) :: if tau ≤ cum then [] else quantileFrom ratio tau fuel (k + 1) pmf cum

def quantileOf (start : ℚ) (ratio : ℕ → ℚ) (tau : ℚ) (cap : ℕ) : List ℚ :=
  if tau ≤ start then [] else quantileFrom ratio tau cap 1 start start

/-- Besides the counts, `v - mean` and `r + mean`. -/
def countQuantile (js : Js) (mean variance tau : ℚ) : List ℚ :=
  if mean ≤ 1 / 10 ^ 9 ∨ tau ≤ 0 then []
  else
    let tau := if 1 ≤ tau then 999999 / 1000000 else tau
    let v := max variance mean
    let cap := ⌈mean + 50 * js.sqrt v + 100⌉.toNat
    if v ≤ mean * (1 + 1 / 10 ^ 6) then
      quantileOf (js.exp (-mean)) (fun k => mean / k) tau cap
    else
      let r := mean * mean / (v - mean)
      let prob := r / (r + mean)
      (v - mean) :: (r + mean)
        :: quantileOf (js.pow prob r) (fun k => (k - 1 + r) / k * (1 - prob)) tau cap

def calibratedCover (js : Js) (dailyMean dailyVar horizonDays tau : ℚ) : List ℚ :=
  let h := max 1 horizonDays
  let dailyMean := max 0 dailyMean
  if dailyMean ≤ 1 / 10 ^ 9 then []
  else countQuantile js (dailyMean * h) (max dailyVar (dailyMean * (3 / 2)) * h) tau

def reorderBreakdown (js : Js) (input : ReorderInput) : List ℚ :=
  match input.useCalibrated with
  | some std =>
      calibratedCover js (input.finalForecast30d / 30) (std * std)
        (input.leadTimeAvg.getD 0 + ORDER_REVIEW_DAYS)
        (((input.policy.bind OrderPolicy.serviceLevel) <|> input.serviceLevel).getD
          (tauForClass input.abcCategory))
  | none => []

/-! ### None is zero -/

theorem nonzero_quantileFrom (ratio : ℕ → ℚ) (tau : ℚ) (fuel : ℕ) {k : ℕ} (hk : 0 < k)
    (pmf cum : ℚ) : Nonzero (quantileFrom ratio tau fuel k pmf cum) := by
  induction fuel generalizing k pmf cum with
  | zero => exact nonzero_nil
  | succ fuel ih =>
      rw [quantileFrom]
      simp only [nonzero_cons]
      refine ⟨by exact_mod_cast hk.ne', ?_⟩
      split
      · exact nonzero_nil
      · exact ih (Nat.succ_pos k) _ _

theorem nonzero_quantileOf (start : ℚ) (ratio : ℕ → ℚ) (tau : ℚ) (cap : ℕ) :
    Nonzero (quantileOf start ratio tau cap) := by
  rw [quantileOf]
  split
  · exact nonzero_nil
  · exact nonzero_quantileFrom _ _ _ one_pos _ _

theorem nonzero_countQuantile (js : Js) (mean variance tau : ℚ) :
    Nonzero (countQuantile js mean variance tau) := by
  rw [countQuantile]
  split
  · exact nonzero_nil
  case isFalse hguard =>
    have hmean : 0 < mean := by
      have heps := not_le.mp (not_or.mp hguard).1
      exact lt_trans (by norm_num) heps
    dsimp only
    split
    · exact nonzero_quantileOf _ _ _ _
    case isFalse hspread =>
      -- over-dispersed demand has more variance than mean
      have hexcess : 0 < max variance mean - mean := by linarith
      have hsize : 0 < mean * mean / (max variance mean - mean) :=
        div_pos (mul_pos hmean hmean) hexcess
      simp only [nonzero_cons]
      exact ⟨hexcess.ne', (add_pos hsize hmean).ne', nonzero_quantileOf _ _ _ _⟩

theorem nonzero_reorderBreakdown (js : Js) (input : ReorderInput) :
    Nonzero (reorderBreakdown js input) := by
  rw [reorderBreakdown]
  split
  · rw [calibratedCover]
    split
    · exact nonzero_nil
    · exact nonzero_countQuantile _ _ _ _
  · exact nonzero_nil

/-- The sizing is computed for the quantity and again for its breakdown. -/
def forecastProduct (js : Js) (now : Time) (input : ProductForecastInput) : List ℚ :=
  layeredForecast js now input.layered
    ++ (if input.demandOverride.isSome then []
      else (if input.bigBuyerDamping then
          debulkSeries input.history (some (input.today now)) input.excludedDates
        else []) ++ guardForecastResult (input.forecast js now) (input.guardContext now))
    ++ (if input.engineSaysZero js now then []
      else reorderBreakdown js (input.reorderInput js now))
    ++ reorderBreakdown js (input.reorderInput js now)

/-- No divisor of a forecast is zero, where the cap is not below zero and the snapshots do not
begin in the first half day of a window that has sold by then. -/
theorem nonzero_forecastProduct (js : Js) (now : Time) {input : ProductForecastInput}
    (hcap : input.demandOverride.isSome ∨ 0 ≤ input.layered.capMultipleOf)
    (hslice : ∀ w ∈ RATE_WINDOWS, ThinSlice (input.layered.demandHistory now)
      (daysBefore (dayKeyOf (input.today now)) w.1) input.snapshotsSince) :
    Nonzero (forecastProduct js now input) := by
  simp only [forecastProduct, nonzero_append]
  refine ⟨⟨⟨nonzero_layeredForecast js now _ hcap hslice, ?_⟩, ?_⟩,
    nonzero_reorderBreakdown js _⟩
  · split
    · exact nonzero_nil
    · simp only [nonzero_append]
      refine ⟨?_, nonzero_guardForecastResult _ _⟩
      split
      · exact nonzero_debulkSeries _
      · exact nonzero_nil
  · split
    · exact nonzero_nil
    · exact nonzero_reorderBreakdown js _

end Divisors

end Restock.Forecast
