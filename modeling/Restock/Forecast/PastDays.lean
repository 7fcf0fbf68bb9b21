import Restock.Forecast.SameSales

/-!
# The days a rate looks back on

A rate is asked on a day and looks back on the days before it, no further than a year. Excluded
days that are not among them change nothing, and no more do days out of stock before the year.

* `NonePast` — no excluded day is before the day of the rate;
* `SameStockouts` — two lists of days out of stock say the same of the year before it;
* `runRateDaily_of_nonePast`, `runRateDaily_of_sameStockouts` — the rate is the same;
* `filter_debulkSeries` — bulk days are capped alike before and after today is left out.
-/

namespace Restock.Forecast

open Series

/-- No excluded day is before `today`. -/
def NonePast (today : Time) (dates : List Time) : Prop :=
  ∀ d ∈ dates, today ≤ dayKeyOf d

/-- The days a rate looks back on. -/
def LOOK_BACK_DAYS : ℤ := 365

/-- Two lists of days out of stock say the same of the year before `today`, and snapshots prove
what they say. -/
structure SameStockouts (today : Time) (snapshotsSince : Option Time) (dates others : List Time) :
    Prop where
  recent : (dates.filter fun d => daysBefore today LOOK_BACK_DAYS ≤ d) =
    others.filter fun d => daysBefore today LOOK_BACK_DAYS ≤ d
  proved : dates ≠ [] → snapshotsSince.isSome = true
  othersProved : others ≠ [] → snapshotsSince.isSome = true

/-! ## Windows -/

section Windows

/-- A window from which nothing is taken keeps its length. -/
theorem effectiveWindowDays_zero (windowDays : ℤ) (signal : Option WindowSignal) :
    effectiveWindowDays windowDays 0 signal = windowDays := by
  unfold effectiveWindowDays
  dsimp only
  split <;> omega

/-- Where no day is out of stock or excluded, none is blocked. -/
theorem rateOverWindow_eq (history : List SalesPoint) (today : Time) (windowDays : ℤ)
    (stockoutDates excludedDates : List Time) :
    rateOverWindow history today windowDays stockoutDates excludedDates =
      let since := daysBefore today windowDays
      let window := dampedWindow history since today (dayKeySet excludedDates)
      let blocked := blockedDaysInWindow stockoutDates excludedDates since today
      window.units / effectiveWindowDays windowDays blocked
        (some { inStockDays := windowDays - blocked, saleDays := window.saleDays }) := by
  unfold rateOverWindow
  dsimp only
  split
  case isTrue => rfl
  case isFalse hnone =>
      rw [not_or, not_ne_iff, not_ne_iff] at hnone
      obtain ⟨rfl, rfl⟩ := hnone
      have hblocked : blockedDaysInWindow [] [] (daysBefore today windowDays) today = 0 := rfl
      rw [hblocked, effectiveWindowDays_zero, effectiveWindowDays_zero]

/-- A longer window goes back further. -/
theorem daysBefore_le_daysBefore (d : Time) {days days' : ℤ} (h : days' ≤ days) :
    daysBefore d days ≤ daysBefore d days' :=
  sub_le_sub_left (mul_le_mul_of_nonneg_right h dayMs_pos.le) d

/-- A neighbour of an element is an element. -/
theorem mem_of_mem_steps {α : Type} {xs : List α} {step : α × α} (h : step ∈ steps xs) :
    step.1 ∈ xs ∧ step.2 ∈ xs := by
  obtain ⟨hfirst, hsecond⟩ := List.of_mem_zip (a := step.1) (b := step.2) h
  exact ⟨hfirst, List.mem_of_mem_tail hsecond⟩

end Windows

/-! ## Excluded days that are still to come -/

section NonePast

variable {today : Time} {dates : List Time} (h : NonePast today dates)

include h

theorem NonePast.notMem {k : ℤ} (hk : k < today) : k ∉ dayKeySet dates := by
  intro hmem
  rw [dayKeySet, List.mem_toFinset, List.mem_map] at hmem
  obtain ⟨d, hd, rfl⟩ := hmem
  exact absurd (h d hd) (not_le.mpr hk)

theorem NonePast.dampedWindow (history : List SalesPoint) (since : Time) {asOf : Time}
    (hasOf : asOf ≤ today) :
    Forecast.dampedWindow history since asOf (dayKeySet dates) =
      Forecast.dampedWindow history since asOf (dayKeySet []) := by
  have hfilter : (history.filter fun p =>
      inWindow since asOf p.date ∧ dayKeyOf p.date ∉ dayKeySet dates) =
        history.filter fun p =>
          inWindow since asOf p.date ∧ dayKeyOf p.date ∉ dayKeySet [] := by
    refine List.filter_congr fun p _ => decide_eq_decide.mpr (and_congr_right fun hp => ?_)
    have hpast : dayKeyOf p.date < today :=
      ((dayKeyOf_le p.date).1.trans_lt (inWindow_eq_true.mp hp).2).trans_le hasOf
    exact iff_of_true (h.notMem hpast) (List.not_mem_nil)
  unfold Forecast.dampedWindow dayTotals
  rw [hfilter]

theorem NonePast.blockedDaysInWindow {stockoutDates : List Time} (hstockouts : stockoutDates.Nodup)
    (hday : ∀ d ∈ stockoutDates, DAY_MS ∣ d) (since : Time) :
    Forecast.blockedDaysInWindow stockoutDates dates since today =
      Forecast.blockedDaysInWindow stockoutDates [] since today := by
  have hkeys : ((dayKeySet stockoutDates ∪ dayKeySet dates).filter fun k =>
      inWindow since today k) =
        (dayKeySet stockoutDates).filter fun k => inWindow since today k := by
    ext k
    rw [Finset.mem_filter, Finset.mem_filter, Finset.mem_union, and_congr_left_iff]
    intro hk
    exact or_iff_left (h.notMem (inWindow_eq_true.mp hk).2)
  have hout : Forecast.blockedDaysInWindow stockoutDates [] since today =
      ((dayKeySet stockoutDates).filter fun k => inWindow since today k).card := by
    rw [blockedDaysInWindow_eq today hstockouts (by simpa using hday), List.append_nil,
      dayKeySet_of_midnights hday]
  by_cases hdates : dates = []
  · rw [hdates]
  · rw [hout, Forecast.blockedDaysInWindow, if_neg hdates, countDayKeysInWindow, hkeys]

theorem NonePast.gapDaysInWindow (history : List SalesPoint) (since : Time) {asOf : Time}
    (hasOf : asOf ≤ today) (minGap : ℤ) :
    Forecast.gapDaysInWindow history since asOf minGap dates =
      Forecast.gapDaysInWindow history since asOf minGap [] := by
  unfold Forecast.gapDaysInWindow
  dsimp only
  set sorted := sortByDate (history.filter fun p => inWindow since asOf p.date) with hsorted
  have hgaps : (steps (sorted.map SalesPoint.date)).map (gapBetween minGap (dayKeySet dates)) =
      (steps (sorted.map SalesPoint.date)).map (gapBetween minGap (dayKeySet [])) := by
    refine List.map_congr_left fun step hstep => ?_
    -- the later sale of a gap is in the window, and what is excluded comes after that
    obtain ⟨p, hp, hdate⟩ := List.mem_map.mp (mem_of_mem_steps hstep).2
    rw [hsorted, sortByDate, List.mem_insertionSort, List.mem_filter] at hp
    have hlast : step.2 ≤ today :=
      hdate ▸ ((inWindow_eq_true.mp hp.2).2.le.trans hasOf)
    have hnone : ((dayKeySet dates).filter fun k => step.1 < k ∧ k < step.2) =
        (dayKeySet []).filter fun k => step.1 < k ∧ k < step.2 := by
      rw [show dayKeySet [] = ∅ from rfl, Finset.filter_empty, Finset.filter_eq_empty_iff]
      exact fun k hk hbetween => h.notMem (hbetween.2.trans_le hlast) hk
    unfold gapBetween
    rw [hnone]
  rw [hgaps]

theorem NonePast.uncoveredGapDays (history : List SalesPoint) (since : Time)
    (snapshotsSince : Option Time) :
    Forecast.uncoveredGapDays history since today snapshotsSince dates =
      Forecast.uncoveredGapDays history since today snapshotsSince [] := by
  unfold Forecast.uncoveredGapDays
  split
  · rfl
  · rw [h.gapDaysInWindow history since (min_le_right _ _)]

/-- No bulk day is looked for on a day that is still to come. -/
theorem NonePast.debulkSeries (htoday : DAY_MS ∣ today) (history : List SalesPoint) :
    Forecast.debulkSeries history (some today) dates =
      Forecast.debulkSeries history (some today) [] := by
  have hevidence : bulkEvidence history (some today) (dayKeySet dates) =
      bulkEvidence history (some today) (dayKeySet []) := by
    refine List.filter_congr fun p _ => decide_eq_decide.mpr (and_congr_right fun hp => ?_)
    rw [Option.all_some, decide_eq_true_iff, dayKeyOf_eq_self.mpr htoday] at hp
    exact iff_of_true (h.notMem hp) List.not_mem_nil
  unfold Forecast.debulkSeries
  rw [hevidence]

/-! ### Rates -/

theorem NonePast.weightedDailyRateAdjusted (history : List SalesPoint) :
    Forecast.weightedDailyRateAdjusted history today dates =
      Forecast.weightedDailyRateAdjusted history today [] := by
  have hcount : ∀ since, countDayKeysInWindow (dayKeySet dates) since today = 0 := by
    intro since
    rw [countDayKeysInWindow, Nat.cast_eq_zero, Finset.card_eq_zero, Finset.filter_eq_empty_iff]
    exact fun k hk hwindow => h.notMem (inWindow_eq_true.mp hwindow).2 hk
  have hnone : ∀ since, countDayKeysInWindow (dayKeySet []) since today = 0 := fun _ => rfl
  simp only [Forecast.weightedDailyRateAdjusted, h.dampedWindow _ _ le_rfl,
    h.gapDaysInWindow _ _ le_rfl, hcount, hnone]

theorem NonePast.weightedDailyRateCensored (history : List SalesPoint) {stockoutDates : List Time}
    (hstockouts : stockoutDates.Nodup) (hday : ∀ d ∈ stockoutDates, DAY_MS ∣ d)
    (snapshotsSince : Option Time) :
    Forecast.weightedDailyRateCensored history stockoutDates today dates snapshotsSince =
      Forecast.weightedDailyRateCensored history stockoutDates today [] snapshotsSince := by
  simp only [Forecast.weightedDailyRateCensored, h.weightedDailyRateAdjusted,
    h.dampedWindow _ _ le_rfl, h.blockedDaysInWindow hstockouts hday, h.uncoveredGapDays]

theorem NonePast.rateOverWindow (history : List SalesPoint) (windowDays : ℤ)
    {stockoutDates : List Time} (hstockouts : stockoutDates.Nodup)
    (hday : ∀ d ∈ stockoutDates, DAY_MS ∣ d) :
    Forecast.rateOverWindow history today windowDays stockoutDates dates =
      Forecast.rateOverWindow history today windowDays stockoutDates [] := by
  simp only [rateOverWindow_eq, h.dampedWindow _ _ le_rfl, h.blockedDaysInWindow hstockouts hday]

end NonePast

/-! ## The median baseline -/

section Median

variable {start asOf : Time}

/-- The dates that are listed between two are between them. -/
theorem bounds_of_mem_dayKeys {since upTo k : ℤ} (h : k ∈ dayKeys since upTo) :
    since ≤ k ∧ k < upTo := by
  obtain ⟨i, hi, rfl⟩ := List.mem_map.mp h
  rw [List.mem_range] at hi
  unfold DAY_MS at *
  omega

/-- A bucket lies between the start of the window and its end. -/
theorem weeksOf_congr (byDay : List (ℤ × ℚ)) {blocked blocked' : Finset ℤ}
    (h : ∀ k, start ≤ k → k < asOf → (k ∈ blocked ↔ k ∈ blocked')) :
    weeksOf byDay blocked start asOf = weeksOf byDay blocked' start asOf := by
  unfold weeksOf
  dsimp only
  refine List.map_congr_left fun i _ => ?_
  unfold weekOf
  rw [List.filter_congr fun k hk => decide_eq_decide.mpr (not_congr (h k ?_ ?_))]
  · exact (le_max_left _ _).trans (bounds_of_mem_dayKeys hk).1
  · refine (bounds_of_mem_dayKeys hk).2.trans_le (sub_le_self _ ?_)
    exact mul_nonneg (Int.natCast_nonneg i) (by decide)

/-- The rate of a window depends on the excluded days and the days out of stock that are in it. -/
theorem medianRate_congr (valid : List SalesPoint) (inferenceEnd : Time)
    {excluded excluded' stockouts stockouts' : Finset ℤ}
    (hexcluded : ∀ k, start ≤ k → k < asOf → (k ∈ excluded ↔ k ∈ excluded'))
    (hstockouts : ∀ k, start ≤ k → k < asOf → (k ∈ stockouts ↔ k ∈ stockouts'))
    (hstart : DAY_MS ∣ start) :
    medianRate valid start asOf inferenceEnd excluded stockouts =
      medianRate valid start asOf inferenceEnd excluded' stockouts' := by
  set rows := valid.filter fun p => start ≤ dayKeyOf p.date with hrows
  set byDay := tally (rows.map fun p => (dayKeyOf p.date, p.quantity)) with hbyDay
  have hweeks : weeksOf byDay (medianBlocked rows byDay start inferenceEnd excluded stockouts)
      start asOf =
        weeksOf byDay (medianBlocked rows byDay start inferenceEnd excluded' stockouts')
          start asOf := by
    refine weeksOf_congr byDay fun k hk hlt => ?_
    unfold medianBlocked
    simp only [Finset.mem_filter, Finset.mem_union, hexcluded k hk hlt, hstockouts k hk hlt]
  have hwindow : dampedWindow valid start asOf excluded =
      dampedWindow valid start asOf excluded' := by
    unfold dampedWindow dayTotals
    rw [List.filter_congr fun p _ => decide_eq_decide.mpr (and_congr_right fun hp => ?_)]
    have hdates := inWindow_eq_true.mp hp
    rw [hexcluded _ ((le_dayKeyOf hstart).mpr hdates.1)
      ((dayKeyOf_le p.date).1.trans_lt hdates.2)]
  unfold medianRate
  dsimp only
  rw [← hrows, ← hbyDay, hweeks, hwindow]

/-- The start of a window of the median baseline is a day key. -/
theorem dvd_medianStart (valid : List SalesPoint) {last : Time} (hlast : DAY_MS ∣ last) (days : ℤ) :
    DAY_MS ∣ max ((valid.map fun p => dayKeyOf p.date).foldl min last) (daysBefore last days) := by
  have hmin : ∀ (keys : List Time) (first : Time), (∀ k ∈ keys, DAY_MS ∣ k) → DAY_MS ∣ first →
      DAY_MS ∣ keys.foldl min first := by
    intro keys first hkeys hfirst
    refine List.foldlRecOn keys min hfirst fun a ha k hk => ?_
    rcases min_choice a k with hmin | hmin
    · rwa [hmin]
    · rw [hmin]
      exact hkeys k hk
  have hfirst := hmin (valid.map fun p => dayKeyOf p.date) last (fun k hk => by
    obtain ⟨p, _, rfl⟩ := List.mem_map.mp hk
    exact dvd_dayKeyOf p.date) hlast
  rcases max_choice ((valid.map fun p => dayKeyOf p.date).foldl min last)
    (daysBefore last days) with hmax | hmax
  · rwa [hmax]
  · rw [hmax]
    exact dvd_daysBefore hlast days

end Median

theorem NonePast.weightedDailyRateMedianCensored {today : Time} {dates : List Time}
    (h : NonePast today dates) (htoday : DAY_MS ∣ today) (history : List SalesPoint)
    (stockoutDates : List Time) (snapshotsSince : Option Time) :
    Forecast.weightedDailyRateMedianCensored history stockoutDates today dates snapshotsSince =
      Forecast.weightedDailyRateMedianCensored history stockoutDates today [] snapshotsSince := by
  unfold Forecast.weightedDailyRateMedianCensored
  dsimp only
  rw [dayKeyOf_eq_self.mpr htoday]
  split
  · rfl
  · refine weigh_congr fun w _ => medianRate_congr _ _ (fun k _ hk => ?_) (fun _ _ _ => Iff.rfl)
      (dvd_medianStart _ htoday w.1)
    exact iff_of_false (h.notMem hk) List.not_mem_nil

/-! ## Days out of stock before the year -/

section SameStockouts

variable {today : Time} {snapshotsSince : Option Time} {dates others : List Time}
  (h : SameStockouts today snapshotsSince dates others)

include h

theorem SameStockouts.mem_iff {d : Time} (hd : daysBefore today LOOK_BACK_DAYS ≤ d) :
    d ∈ dates ↔ d ∈ others := by
  have hmem : ∀ l : List Time,
      d ∈ l ↔ d ∈ l.filter fun d => daysBefore today LOOK_BACK_DAYS ≤ d := by
    intro l
    rw [List.mem_filter, decide_eq_true_iff, and_iff_left hd]
  rw [hmem dates, hmem others, h.recent]

theorem SameStockouts.mem_dayKeySet_iff {k : ℤ} (hk : daysBefore today LOOK_BACK_DAYS ≤ k) :
    k ∈ dayKeySet dates ↔ k ∈ dayKeySet others := by
  simp only [dayKeySet, List.mem_toFinset, List.mem_map]
  refine exists_congr fun d => and_congr_left fun hdk => h.mem_iff ?_
  exact hk.trans (hdk ▸ (dayKeyOf_le d).1)

theorem SameStockouts.blockedDaysInWindow {since : Time}
    (hsince : daysBefore today LOOK_BACK_DAYS ≤ since) :
    Forecast.blockedDaysInWindow dates [] since today =
      Forecast.blockedDaysInWindow others [] since today := by
  have hfilter : ∀ l : List Time, (l.filter fun d => inWindow since today d) =
      (l.filter fun d => daysBefore today LOOK_BACK_DAYS ≤ d).filter fun d =>
        inWindow since today d := by
    intro l
    rw [List.filter_filter]
    refine List.filter_congr fun d _ => ?_
    cases hwindow : inWindow since today d with
    | false => rfl
    | true =>
        rw [Bool.true_and, eq_comm, decide_eq_true_iff]
        exact hsince.trans (inWindow_eq_true.mp hwindow).1
  rw [Forecast.blockedDaysInWindow, Forecast.blockedDaysInWindow, if_pos rfl, if_pos rfl,
    censoredDaysInWindow, censoredDaysInWindow, hfilter dates, hfilter others, h.recent]

/-- Without snapshots neither list has a day. -/
theorem SameStockouts.nil_of_none (hnone : snapshotsSince = none) : dates = [] ∧ others = [] := by
  subst hnone
  refine ⟨not_not.mp fun hne => ?_, not_not.mp fun hne => ?_⟩
  · exact absurd (h.proved hne) Bool.false_ne_true
  · exact absurd (h.othersProved hne) Bool.false_ne_true

theorem SameStockouts.nil_and_none_iff :
    (dates = [] ∧ snapshotsSince = none) ↔ (others = [] ∧ snapshotsSince = none) :=
  and_congr_left fun hnone => iff_of_true (h.nil_of_none hnone).1 (h.nil_of_none hnone).2

theorem SameStockouts.weightedDailyRateCensored (history : List SalesPoint) :
    Forecast.weightedDailyRateCensored history dates today [] snapshotsSince =
      Forecast.weightedDailyRateCensored history others today [] snapshotsSince := by
  unfold Forecast.weightedDailyRateCensored
  simp only [h.nil_and_none_iff]
  split
  · rfl
  split
  · rfl
  · refine weigh_congr fun w hw => ?_
    -- no window of the blend is longer than the year
    have hdays : w.1 ≤ LOOK_BACK_DAYS := by
      revert w
      decide
    rw [h.blockedDaysInWindow (daysBefore_le_daysBefore today hdays)]

theorem SameStockouts.rateOverWindow (history : List SalesPoint) {windowDays : ℤ}
    (hdays : windowDays ≤ LOOK_BACK_DAYS) :
    Forecast.rateOverWindow history today windowDays dates [] =
      Forecast.rateOverWindow history today windowDays others [] := by
  simp only [rateOverWindow_eq, h.blockedDaysInWindow (daysBefore_le_daysBefore today hdays)]

theorem SameStockouts.weightedDailyRateMedianCensored (htoday : DAY_MS ∣ today)
    (history : List SalesPoint) :
    Forecast.weightedDailyRateMedianCensored history dates today [] snapshotsSince =
      Forecast.weightedDailyRateMedianCensored history others today [] snapshotsSince := by
  cases hsnapshots : snapshotsSince with
  | none => rw [(h.nil_of_none hsnapshots).1, (h.nil_of_none hsnapshots).2]
  | some snapshot =>
      unfold Forecast.weightedDailyRateMedianCensored
      dsimp only
      rw [dayKeyOf_eq_self.mpr htoday]
      split
      · rfl
      · refine weigh_congr fun w hw => medianRate_congr _ _ (fun _ _ _ => Iff.rfl)
          (fun k hk _ => h.mem_dayKeySet_iff ?_) (dvd_medianStart _ htoday w.1)
        have hdays : w.1 ≤ LOOK_BACK_DAYS := by
          clear hk
          revert w
          decide
        exact ((daysBefore_le_daysBefore today hdays).trans (le_max_right _ _)).trans hk

end SameStockouts

/-! ## The run rate -/

section RunRate

variable {today : Time} (htoday : DAY_MS ∣ today) (history : List SalesPoint)
  {stockoutDates : List Time} (snapshotsSince : Option Time) (method : BaselineMethod)

include htoday

/-- Excluded days that are still to come leave the rate. -/
theorem runRateDaily_of_nonePast {dates : List Time} (h : NonePast today dates)
    (hstockouts : stockoutDates.Nodup) (hday : ∀ d ∈ stockoutDates, DAY_MS ∣ d) :
    runRateDaily history today stockoutDates dates snapshotsSince method false =
      runRateDaily history today stockoutDates [] snapshotsSince method false := by
  simp only [runRateDaily, dayKeyOf_eq_self.mpr htoday, Bool.false_eq_true, if_false,
    h.rateOverWindow _ _ hstockouts hday, h.weightedDailyRateMedianCensored htoday,
    h.weightedDailyRateCensored _ hstockouts hday, h.weightedDailyRateAdjusted]

/-- So do days out of stock before the year. -/
theorem runRateDaily_of_sameStockouts {dates others : List Time}
    (h : SameStockouts today snapshotsSince dates others) :
    runRateDaily history today dates [] snapshotsSince method false =
      runRateDaily history today others [] snapshotsSince method false := by
  have hwindow : ∀ span : ℚ, newProductWindow span ≤ LOOK_BACK_DAYS := fun span =>
    (min_le_left _ _).trans (by decide)
  have hasked : (dates ≠ [] ∨ snapshotsSince.isSome = true) ↔
      (others ≠ [] ∨ snapshotsSince.isSome = true) := by
    rw [or_iff_right_of_imp h.proved, or_iff_right_of_imp h.othersProved]
  simp only [runRateDaily, dayKeyOf_eq_self.mpr htoday, Bool.false_eq_true, if_false,
    h.rateOverWindow _ (hwindow _), h.weightedDailyRateMedianCensored htoday,
    h.weightedDailyRateCensored, hasked]

/-- Bulk days are looked for on completed days, so they are capped alike before and after today is
left out. -/
theorem filter_debulkSeries (excludedDates : List Time) :
    (debulkSeries history (some today) excludedDates).series.filter (fun p => p.date < today) =
      (debulkSeries (history.filter fun p => p.date < today) (some today)
        excludedDates).series := by
  have hevidence : bulkEvidence history (some today) (dayKeySet excludedDates) =
      bulkEvidence (history.filter fun p => p.date < today) (some today)
        (dayKeySet excludedDates) := by
    unfold bulkEvidence
    rw [List.filter_filter]
    refine List.filter_congr fun p _ => ?_
    rw [Option.all_some, dayKeyOf_eq_self.mpr htoday, ← Bool.decide_and, decide_eq_decide]
    simp only [decide_eq_true_iff, dayKeyOf_lt htoday]
    exact ⟨fun h => ⟨h, h.1⟩, And.left⟩
  rw [debulkSeries_series, debulkSeries_series, ← hevidence, List.filter_map]
  congr 1
  refine List.filter_congr fun p _ => ?_
  rw [Function.comp_apply, debulkPoint_date]

/-- The run rate is the rate of the completed days once their bulk days are capped. -/
theorem runRateDaily_eq (excludedDates : List Time) (damping : Bool) :
    runRateDaily history today stockoutDates excludedDates snapshotsSince method damping =
      runRateDaily ((if damping then (debulkSeries history (some today) excludedDates).series
        else history).filter fun p => p.date < today) today stockoutDates excludedDates
          snapshotsSince method false := by
  cases damping with
  | false =>
      simp only [runRateDaily, Bool.false_eq_true, if_false, dayKeyOf_eq_self.mpr htoday,
        List.filter_filter, Bool.and_self]
  | true =>
      have hseries := filter_debulkSeries htoday history excludedDates
      -- capping keeps the dates, so what is completed stays completed
      have hcompleted : ((debulkSeries history (some today) excludedDates).series.filter
          fun p => p.date < today).filter (fun p => p.date < today) =
            (debulkSeries (history.filter fun p => p.date < today) (some today)
              excludedDates).series := by
        rw [List.filter_filter]
        simp only [Bool.and_self, hseries]
      simp only [runRateDaily, Bool.false_eq_true, if_false, if_true, dayKeyOf_eq_self.mpr htoday,
        hcompleted]

/-- A class that forecasts by the run rate, and any class under the median baseline, sells at the
run rate. -/
theorem demandRateFor_eq_runRateDaily {demand : DemandMethod} (excludedDates : List Time)
    (hdemand : demand = .runRate ∨ method = .median) :
    demandRateFor demand history today stockoutDates excludedDates snapshotsSince method false =
      runRateDaily history today stockoutDates excludedDates snapshotsSince method false := by
  have hcompleted : runRateDaily (history.filter fun p => p.date < today) today stockoutDates
      excludedDates snapshotsSince method false =
        runRateDaily history today stockoutDates excludedDates snapshotsSince method false :=
    (runRateDaily_eq htoday history snapshotsSince method excludedDates false).symm
  simp only [demandRateFor, Bool.false_eq_true, if_false, dayKeyOf_eq_self.mpr htoday]
  cases method with
  | median => rw [if_pos rfl, hcompleted]
  | mean =>
      obtain rfl | hmedian := hdemand
      · rw [if_neg (by decide), if_neg (by decide), hcompleted]
      · cases hmedian

end RunRate

end Restock.Forecast
