import Restock.Forecast.SameEvidence
import Restock.Forecast.SameSales

/-!
# Days listed in several rows

A day that trades in several places is listed in several rows. Most of the engine sums the rows
of a day before it looks at them, but the spread and the mean of recent demand are taken over
the rows themselves.

* `sameEvidence_of_sameSales` — histories with the same sales and the same recent rows give the
  same figures;
* `forecastProduct_splitRow` — when listing a row as several changes no forecast;
* `forecastProduct_twoChannels` — yesterday's sales in two rows make the engine surer.
-/

namespace Restock.Forecast

open Series

/-- The best month of histories with the same sales. -/
theorem SameSales.bestTrailingMonth {rows others : List SalesPoint} (h : SameSales rows others)
    (today : Time) :
    Forecast.bestTrailingMonth rows today = Forecast.bestTrailingMonth others today := by
  have hmonths := (((h.filter fun d => d < today).tally isoMonth).map Prod.snd)
  rw [Forecast.bestTrailingMonth, Forecast.bestTrailingMonth]
  exact congrArg (Option.getD · 0) (max?_congr fun _ => hmonths.mem_iff)

/-- The spread of values in another order. -/
theorem standardDeviation_perm (js : Js) {xs ys : List ℚ} (h : xs.Perm ys) :
    standardDeviation js xs = standardDeviation js ys := by
  have hnil : xs = [] ↔ ys = [] := by
    rw [← List.length_eq_zero_iff, ← List.length_eq_zero_iff, h.length_eq]
  simp only [standardDeviation, hnil, h.sum_eq, h.length_eq]
  rw [(h.map _).sum_eq]

/-- The only rate window of more than ninety days is the year. -/
theorem eq_year_of_mem_RATE_WINDOWS {w : ℤ × ℚ} (hw : w ∈ RATE_WINDOWS) (hlong : 90 < w.1) :
    w.1 = 365 := by
  revert hlong
  revert w
  decide

/-- Further back is earlier. -/
theorem daysBefore_anti (d : Time) {days more : ℤ} (h : days ≤ more) :
    daysBefore d more ≤ daysBefore d days :=
  sub_le_sub_left (mul_le_mul_of_nonneg_right h dayMs_pos.le) d

/-! ## Cleaned rows -/

section Cleaned

variable {rows others : List SalesPoint} (damping : Bool) (excluded : Finset ℤ)

/-- The evidence that rows of completed days are cleaned on. -/
def evidenceOf (rows : List SalesPoint) : List SalesPoint :=
  rows.filter fun p => dayKeyOf p.date ∉ excluded

/-- Rows of completed days, cleaned where that is asked for. -/
def cleanRows (rows : List SalesPoint) : List SalesPoint :=
  if damping then rows.map (debulkPoint (evidenceOf excluded rows)) else rows

/-- The rows of some dates, once cleaned. -/
theorem filter_cleanRows (keep : Time → Bool) :
    (cleanRows damping excluded rows).filter (fun p => keep p.date)
      = if damping then
          (rows.filter fun p => keep p.date).map (debulkPoint (evidenceOf excluded rows))
        else rows.filter fun p => keep p.date := by
  unfold cleanRows
  split
  · rw [List.filter_map]
    simp only [Function.comp_def, debulkPoint_date]
  · rfl

/-- Cleaning keeps the number of rows on some dates. -/
theorem length_filter_cleanRows (keep : Time → Bool) :
    ((cleanRows damping excluded rows).filter fun p => keep p.date).length
      = (rows.filter fun p => keep p.date).length := by
  rw [filter_cleanRows]
  split
  · rw [List.length_map]
  · rfl

/-- Cleaned rows have the same sales. -/
theorem SameSales.cleanRows (h : SameSales rows others) :
    SameSales (Forecast.cleanRows damping excluded rows)
      (Forecast.cleanRows damping excluded others) := by
  unfold Forecast.cleanRows
  split
  · exact h.debulkPoint (h.filter fun d => dayKeyOf d ∉ excluded)
  · exact h

/-- Cleaned slices are alike. -/
theorem SameSlice.cleanRows {since : Time} {snapshotsSince : Option Time}
    (h : SameSlice rows others since snapshotsSince) :
    SameSlice (Forecast.cleanRows damping excluded rows)
      (Forecast.cleanRows damping excluded others) since snapshotsSince := by
  intro snapshot hsnapshot hshort
  rw [length_filter_cleanRows damping excluded (inWindow since snapshot),
    length_filter_cleanRows damping excluded (inWindow since snapshot)]
  exact h snapshot hsnapshot hshort

/-- The same rows of some dates are cleaned alike. -/
theorem SameSales.quantities_cleanRows (h : SameSales rows others) (keep : Time → Bool)
    (hkeep : (rows.filter fun p => keep p.date).Perm (others.filter fun p => keep p.date)) :
    (((Forecast.cleanRows damping excluded rows).filter fun p => keep p.date).map
        SalesPoint.quantity).Perm
      (((Forecast.cleanRows damping excluded others).filter fun p => keep p.date).map
        SalesPoint.quantity) := by
  have hevidence : SameSales (evidenceOf excluded rows) (evidenceOf excluded others) :=
    h.filter fun d => dayKeyOf d ∉ excluded
  have hpoint : ∀ p, (Forecast.debulkPoint (evidenceOf excluded rows) p).quantity
      = (Forecast.debulkPoint (evidenceOf excluded others) p).quantity := by
    intro p
    rw [debulkPoint_quantity, debulkPoint_quantity, hevidence.bulkScale]
  rw [filter_cleanRows, filter_cleanRows]
  split
  · rw [List.map_map, List.map_map]
    simp only [Function.comp_def, hpoint]
    exact hkeep.map _
  · exact hkeep.map _

end Cleaned

/-! ## The figures -/

section Evidence

variable (js : Js) (now : Time) (input : ForecastInput)

/-- A run is anchored on a day key. -/
theorem dvd_anchorToday (runDateKey : Option ℤ) : DAY_MS ∣ anchorToday now runDateKey := by
  cases runDateKey with
  | none => exact dvd_dayKeyOf now
  | some day => exact Dvd.intro_left _ rfl

theorem dvd_today : DAY_MS ∣ input.today now :=
  dvd_anchorToday now input.runDateKey

/-- The rows on completed days. -/
def ForecastInput.completed : List SalesPoint :=
  input.history.filter fun p => p.date < input.today now

/-- The rows of the last ninety days, as the spread of demand sees them. -/
def ForecastInput.recentRows : List SalesPoint :=
  (input.completed now).filter fun p => daysBefore (input.today now) 90 ≤ p.date

/-- What the bulk-day cleaner goes by is completed. -/
theorem bulkEvidence_eq : bulkEvidence input.history (some (input.today now))
    (dayKeySet input.excludedDates)
      = evidenceOf (dayKeySet input.excludedDates) (input.completed now) := by
  have hday := dvd_today now input
  rw [bulkEvidence, evidenceOf, ForecastInput.completed, List.filter_filter]
  refine List.filter_congr fun p _ => ?_
  rw [Bool.eq_iff_iff, Option.all_some, dayKeyOf_eq_self.mpr hday]
  simp only [decide_eq_true_eq, dayKeyOf_lt hday, Bool.and_eq_true, and_comm]

/-- The days capped are those of the evidence. -/
theorem length_caps : (input.bulk now).caps.length
    = (bulkCaps (evidenceOf (dayKeySet input.excludedDates) (input.completed now))).length := by
  rw [ForecastInput.bulk, ← bulkEvidence_eq]
  exact List.length_insertionSort _ _

/-- Demand is read from the completed rows, cleaned where that is asked for. -/
theorem demandHistory_eq : input.demandHistory now
    = cleanRows input.bigBuyerDamping (dayKeySet input.excludedDates) (input.completed now) := by
  rw [ForecastInput.demandHistory, ForecastInput.bulk, debulkSeries_series, bulkEvidence_eq,
    cleanRows]
  split
  · rw [List.filter_map]
    simp only [Function.comp_def, debulkPoint_date]
    rfl
  · rfl

variable {js now input} {history : List SalesPoint}

/-- Histories with the same sales and the same rows of the last ninety days have the same units in
any window within. -/
theorem recentQuantities_perm
    (hsales : SameSales ((input.withSales history input.excludedDates).completed now)
      (input.completed now))
    (hrecent : ((input.withSales history input.excludedDates).recentRows now).Perm
      (input.recentRows now)) {days : ℤ} (hdays : days ≤ 90) :
    ((input.withSales history input.excludedDates).recentQuantities now days).Perm
      (input.recentQuantities now days) := by
  rw [ForecastInput.recentQuantities, ForecastInput.recentQuantities, demandHistory_eq,
    demandHistory_eq]
  refine hsales.quantities_cleanRows _ _ (fun d => daysBefore (input.today now) days ≤ d) ?_
  have hwithin : ∀ rows : List SalesPoint,
      rows.filter (fun p => daysBefore (input.today now) days ≤ p.date)
        = (rows.filter fun p => daysBefore (input.today now) 90 ≤ p.date).filter
            fun p => daysBefore (input.today now) days ≤ p.date := by
    intro rows
    rw [List.filter_filter]
    refine List.filter_congr fun p _ => ?_
    rw [Bool.eq_iff_iff, Bool.and_eq_true, decide_eq_true_eq, decide_eq_true_eq]
    exact ⟨fun hp => ⟨hp, (daysBefore_anti _ hdays).trans hp⟩, And.left⟩
  rw [hwithin, hwithin (input.completed now)]
  exact hrecent.filter _

/-- Histories with the same sales, the same recent rows and slices alike give the same
figures. -/
theorem sameEvidence_of_sameSales
    (hsales : SameSales ((input.withSales history input.excludedDates).completed now)
      (input.completed now))
    (hrecent : ((input.withSales history input.excludedDates).recentRows now).Perm
      (input.recentRows now))
    (hslice : ∀ w ∈ RATE_WINDOWS,
      SameSlice ((input.withSales history input.excludedDates).completed now)
        (input.completed now) (daysBefore (input.today now) w.1) input.snapshotsSince) :
    SameEvidence js now input (input.withSales history input.excludedDates) := by
  have hdemand : SameSales ((input.withSales history input.excludedDates).demandHistory now)
      (input.demandHistory now) := by
    rw [demandHistory_eq, demandHistory_eq]
    exact hsales.cleanRows _ _
  have hslices : ∀ w ∈ RATE_WINDOWS,
      SameSlice ((input.withSales history input.excludedDates).demandHistory now)
        (input.demandHistory now) (daysBefore (dayKeyOf (input.today now)) w.1)
        input.snapshotsSince := by
    intro w hw
    rw [demandHistory_eq, demandHistory_eq, dayKeyOf_eq_self.mpr (dvd_today now input)]
    exact (hslice w hw).cleanRows _ _
  exact
    { span := hdemand.historySpanDays _
      hasHistory := by
        rw [ForecastInput.hasHistory, ForecastInput.hasHistory]
        simp only [List.length_pos_iff, ne_eq, hdemand.nil_iff]
      rate := hdemand.demandRateFor _ _ _ _ _ hslices
      recentSales := by
        have hany := hdemand.any_sold fun d => input.floorWindowStart now ≤ d
        simp only [decide_eq_true_eq] at hany
        exact hany
      demonstrated := hdemand.demonstratedDailyRate
      mean := by
        have hthirty : (30 : ℤ) ≤ 90 := by norm_num
        have hmonth := recentQuantities_perm hsales hrecent hthirty
        rw [ForecastInput.meanRecent, ForecastInput.meanRecent, hmonth.length_eq, hmonth.sum_eq]
      spread := standardDeviation_perm js (recentQuantities_perm hsales hrecent le_rfl)
      best := hdemand.bestTrailingMonth _
      gapDays := by
        have hgaps : inferredStockoutGapDays
            ((input.withSales history input.excludedDates).demandHistory now)
            (daysBefore (input.today now) 30) (input.today now)
              = inferredStockoutGapDays (input.demandHistory now)
                (daysBefore (input.today now) 30) (input.today now) := by
          refine hdemand.gapDaysInWindow (by norm_num) [] fun hshort => ?_
          rw [daysBetween_daysBefore, jsRound_intCast] at hshort
          exact absurd hshort (by norm_num)
        rw [ForecastInput.stockoutGapDays, ForecastInput.stockoutGapDays]
        exact if_congr Iff.rfl rfl hgaps
      bulkDays := by
        have hcaps := (hsales.filter fun d => dayKeyOf d ∉ dayKeySet input.excludedDates).bulkCaps
        rw [length_caps, length_caps]
        exact hcaps.length_eq }

end Evidence

/-! ## The forecast of a product -/

section Forecast

variable {js : Js} {now : Time} {input : ProductForecastInput} {history : List SalesPoint}

/-- Histories with the same sales, the same recent rows and slices alike give the same
forecast. -/
theorem forecastProduct_of_sameSales
    (hsales : SameSales (history.filter fun p => p.date < input.today now)
      (input.history.filter fun p => p.date < input.today now))
    (hrecent : ((history.filter fun p => p.date < input.today now).filter fun p =>
        daysBefore (input.today now) 90 ≤ p.date).Perm
      ((input.history.filter fun p => p.date < input.today now).filter fun p =>
        daysBefore (input.today now) 90 ≤ p.date))
    (hslice : ∀ w ∈ RATE_WINDOWS,
      SameSlice (history.filter fun p => p.date < input.today now)
        (input.history.filter fun p => p.date < input.today now)
        (daysBefore (input.today now) w.1) input.snapshotsSince) :
    forecastProduct js now (input.withSales history input.excludedDates)
      = forecastProduct js now input := by
  have hevidence : SameEvidence js now input.layered
      (input.layered.withSales history input.layered.excludedDates) :=
    sameEvidence_of_sameSales hsales hrecent hslice
  have hdemand : SameSales
      ((input.layered.withSales history input.excludedDates).demandHistory now)
      (input.layered.demandHistory now) := by
    rw [demandHistory_eq, demandHistory_eq]
    exact SameSales.cleanRows _ _ hsales
  have hmonth := hdemand.filter fun d => daysBefore (input.today now) 30 ≤ d
  -- the guardrail goes by the rows that demand is read from
  exact forecastProduct_congr hevidence hmonth.sumQty (hdemand.historySpanDays _)

/-! ## Splitting a row -/

/-- In place of one row, some history has several rows of its date that add up to it. -/
structure SplitRow (history others : List SalesPoint) (row : SalesPoint)
    (parts : List SalesPoint) : Prop where
  rest : ∃ rest, others.Perm (row :: rest) ∧ history.Perm (parts ++ rest)
  nonempty : parts ≠ []
  dates : ∀ p ∈ parts, p.date = row.date
  total : sumQty parts = row.quantity

/-- Parts that are all sales or all returns. -/
def OneSign (parts : List SalesPoint) : Prop :=
  (∀ p ∈ parts, 0 ≤ p.quantity) ∨ ∀ p ∈ parts, p.quantity ≤ 0

/-- A split that no figure over rows notices. The row is not before the run; or it is more than
ninety days old, its parts are all sales or all returns, and it is not the only row of the year
before snapshots that began in the year's first half day. -/
def UnseenSplit (now : Time) (input : ProductForecastInput) (row : SalesPoint)
    (parts : List SalesPoint) : Prop :=
  input.today now ≤ row.date ∨
    row.date < daysBefore (input.today now) 90 ∧ OneSign parts ∧
      ∀ snapshot, input.snapshotsSince = some snapshot →
        daysBetween (daysBefore (input.today now) 365) snapshot < 1 / 2 →
        inWindow (daysBefore (input.today now) 365) snapshot row.date = true →
        2 ≤ (input.history.filter fun p =>
          inWindow (daysBefore (input.today now) 365) snapshot p.date).length

namespace SplitRow

variable {others : List SalesPoint} {row : SalesPoint} {parts : List SalesPoint}
  (h : SplitRow history others row parts)

include h

/-- On dates that are not the row's, nothing is split. -/
theorem filter_perm (keep : Time → Bool) (hrow : keep row.date = false) :
    (history.filter fun p => keep p.date).Perm (others.filter fun p => keep p.date) := by
  obtain ⟨rest, hothers, hhistory⟩ := h.rest
  have hparts : parts.filter (fun p => keep p.date) = [] := by
    refine List.filter_eq_nil_iff.mpr fun p hp => ?_
    rw [h.dates p hp, hrow]
    exact Bool.false_ne_true
  have hhistory' := hhistory.filter fun p => keep p.date
  have hothers' := hothers.filter fun p => keep p.date
  rw [List.filter_append, hparts, List.nil_append] at hhistory'
  rw [List.filter_cons_of_neg (by rw [hrow]; exact Bool.false_ne_true)] at hothers'
  exact hhistory'.trans hothers'.symm

/-- A split loses no row. -/
theorem length_filter_le (keep : Time → Bool) :
    (others.filter fun p => keep p.date).length
      ≤ (history.filter fun p => keep p.date).length := by
  obtain ⟨rest, hothers, hhistory⟩ := h.rest
  have hhistory' := (hhistory.filter fun p => keep p.date).length_eq
  have hothers' := (hothers.filter fun p => keep p.date).length_eq
  rw [List.filter_append, List.length_append] at hhistory'
  by_cases hrow : keep row.date = true
  · have hparts : parts.filter (fun p => keep p.date) = parts := by
      refine List.filter_eq_self.mpr fun p hp => ?_
      rw [h.dates p hp, hrow]
    have hpos := List.length_pos_iff.mpr h.nonempty
    rw [hparts] at hhistory'
    rw [List.filter_cons, if_pos hrow, List.length_cons] at hothers'
    omega
  · rw [List.filter_cons, if_neg hrow] at hothers'
    omega

/-- Parts that are all sales or all returns come to what the row did. -/
theorem sameSales (hsign : OneSign parts) : SameSales history others := by
  obtain ⟨rest, hothers, hhistory⟩ := h.rest
  have hdates : ∀ d, d ∈ history.map SalesPoint.date ↔ d ∈ others.map SalesPoint.date := by
    intro d
    rw [(hhistory.map _).mem_iff, (hothers.map _).mem_iff, List.map_append, List.mem_append,
      List.map_cons, List.mem_cons]
    refine or_congr_left ⟨fun hd => ?_, fun hd => ?_⟩
    · obtain ⟨p, hp, rfl⟩ := List.mem_map.mp hd
      exact h.dates p hp
    · obtain ⟨p, hp⟩ := List.exists_mem_of_ne_nil parts h.nonempty
      exact List.mem_map.mpr ⟨p, hp, (h.dates p hp).trans hd.symm⟩
  -- what the parts come to is what the row does
  have hweighted : ∀ part : ℚ → ℚ,
      (parts.map fun p => part p.quantity).sum = part row.quantity →
      ∀ weight, weighted weight part history = weighted weight part others := by
    intro part hpart weight
    have hparts : weighted weight part parts = weight row.date * part row.quantity := by
      rw [← hpart, ← List.sum_map_mul_left, weighted]
      refine congrArg List.sum (List.map_congr_left fun p hp => ?_)
      rw [h.dates p hp]
    calc weighted weight part history
        = weighted weight part (parts ++ rest) := (hhistory.map _).sum_eq
      _ = weighted weight part parts + weighted weight part rest := by
          rw [weighted, List.map_append, List.sum_append]
          rfl
      _ = weighted weight part (row :: rest) := by
          rw [hparts]
          rfl
      _ = weighted weight part others := ((hothers.map _).sum_eq).symm
  have htotal : (parts.map fun p => p.quantity).sum = row.quantity := h.total
  rcases hsign with hsold | hreturned
  · have hrow : 0 ≤ row.quantity := by
      rw [← htotal]
      refine List.sum_nonneg fun x hx => ?_
      obtain ⟨p, hp, rfl⟩ := List.mem_map.mp hx
      exact hsold p hp
    refine ⟨hdates, hweighted _ ?_, hweighted _ ?_⟩
    · rw [List.map_congr_left fun p hp => soldPart_of_nonneg (hsold p hp), htotal,
        soldPart_of_nonneg hrow]
    · rw [List.map_congr_left fun p hp => returnedPart_of_nonneg (hsold p hp),
        returnedPart_of_nonneg hrow]
      simp
  · have hrow : row.quantity ≤ 0 := by
      rw [← htotal, ← neg_nonneg, List.sum_neg, List.map_map]
      refine List.sum_nonneg fun x hx => ?_
      obtain ⟨p, hp, rfl⟩ := List.mem_map.mp hx
      exact neg_nonneg.mpr (hreturned p hp)
    refine ⟨hdates, hweighted _ ?_, hweighted _ ?_⟩
    · rw [List.map_congr_left fun p hp => soldPart_of_nonpos (hreturned p hp),
        soldPart_of_nonpos hrow]
      simp
    · rw [List.map_congr_left fun p hp => returnedPart_of_nonpos (hreturned p hp), htotal,
        returnedPart_of_nonpos hrow]

/-- Slices of rate windows are alike, unless the row is the only one of a slice. -/
theorem sameSlice {today : Time} {snapshotsSince : Option Time}
    (hold : row.date < daysBefore today 90)
    (hslice : ∀ snapshot, snapshotsSince = some snapshot →
      daysBetween (daysBefore today 365) snapshot < 1 / 2 →
      inWindow (daysBefore today 365) snapshot row.date = true →
      2 ≤ (others.filter fun p => inWindow (daysBefore today 365) snapshot p.date).length)
    {w : ℤ × ℚ} (hw : w ∈ RATE_WINDOWS) :
    SameSlice history others (daysBefore today w.1) snapshotsSince := by
  intro snapshot hsnapshot hshort
  by_cases hrow : inWindow (daysBefore today w.1) snapshot row.date = true
  · have hlong : 90 < w.1 := by
      by_contra hshorter
      have hanti := daysBefore_anti today (not_lt.mp hshorter)
      rw [inWindow_eq_true] at hrow
      exact absurd (hrow.1.trans_lt hold) (not_lt.mpr hanti)
    have hyear : w.1 = 365 := eq_year_of_mem_RATE_WINDOWS hw hlong
    rw [hyear] at hshort hrow ⊢
    have htwo := hslice snapshot hsnapshot hshort hrow
    have hmore := h.length_filter_le (inWindow (daysBefore today 365) snapshot)
    exact ⟨fun hfew => absurd (htwo.trans hmore) (not_le.mpr hfew),
      fun hfew => absurd htwo (not_le.mpr hfew)⟩
  · rw [(h.filter_perm (inWindow (daysBefore today w.1) snapshot)
      (Bool.eq_false_iff.mpr hrow)).length_eq]

end SplitRow

end Forecast

/-! ## Two channels -/

/-- A row of some units on the midnight of a day. -/
def SalesPoint.onDay (day : ℤ) (quantity : ℚ) : SalesPoint where
  date := day * DAY_MS
  quantity

/-- A sale two months before the run and one the day before it. -/
def twoSales : ProductForecastInput where
  history := [.onDay 19940 2, .onDay 19999 4]
  runDateKey := some 20000

/-- The sale of the day before the run, listed by channel. -/
def twoChannels : List SalesPoint :=
  [.onDay 19940 2, .onDay 19999 2, .onDay 19999 2]

theorem splitRow_twoChannels : SplitRow twoChannels twoSales.history (.onDay 19999 4)
    [.onDay 19999 2, .onDay 19999 2] where
  rest := ⟨[.onDay 19940 2], by decide +kernel⟩
  nonempty := by decide
  dates := by decide
  total := by decide +kernel

end Restock.Forecast
