import Mathlib.Algebra.Order.BigOperators.Group.List
import Restock.Forecast.SteadyDays
import Restock.Series.Groups

/-!
# Histories with the same sales

Two histories may list the sales of a day in different rows, as they do when a day trades in
several places. They have the same sales when they have rows on the same dates and, on each
date, sold and returned the same units.

* `SameSales` — such histories;
* `SameSales.demandRateFor` — they sell at the same rate;
* `SameSales.debulkSeries` — their cleaned series have the same sales.
-/

namespace Restock.Forecast

open Series

/-- What a row of this quantity sold. -/
def soldPart (q : ℚ) : ℚ :=
  if 0 < q then q else 0

/-- What a row of this quantity took back. -/
def returnedPart (q : ℚ) : ℚ :=
  if 0 < q then 0 else q

/-- What a part of the rows comes to, each row weighted by its date. -/
def weighted (weight : Time → ℚ) (part : ℚ → ℚ) (rows : List SalesPoint) : ℚ :=
  (rows.map fun p => weight p.date * part p.quantity).sum

/-- Two histories have rows on the same dates, and sold and took back the same on each. -/
structure SameSales (rows others : List SalesPoint) : Prop where
  dates : ∀ d, d ∈ rows.map SalesPoint.date ↔ d ∈ others.map SalesPoint.date
  sold : ∀ weight, weighted weight soldPart rows = weighted weight soldPart others
  returned : ∀ weight, weighted weight returnedPart rows = weighted weight returnedPart others

/-- Where the snapshots reach back to the first half day of a window, both histories have two
rows before them or neither does. -/
def SameSlice (rows others : List SalesPoint) (since : Time) (snapshotsSince : Option Time) :
    Prop :=
  ∀ snapshot, snapshotsSince = some snapshot → daysBetween since snapshot < 1 / 2 →
    ((rows.filter fun p => inWindow since snapshot p.date).length < 2 ↔
      (others.filter fun p => inWindow since snapshot p.date).length < 2)

/-! ## Rate windows -/

theorem jsRound_lt_one {q : ℚ} : jsRound q < 1 ↔ q < 1 / 2 := by
  rw [jsRound_lt, Int.cast_one, sub_half]

theorem one_le_of_mem_RATE_WINDOWS {w : ℤ × ℚ} (hw : w ∈ RATE_WINDOWS) : 1 ≤ w.1 := by
  revert w
  decide

theorem weigh_congr {windows : List (ℤ × ℚ)} {rate rate' : ℤ → ℚ}
    (h : ∀ w ∈ windows, rate w.1 = rate' w.1) : weigh windows rate = weigh windows rate' := by
  rw [weigh, weigh, List.map_congr_left fun w hw => by rw [h w hw]]

/-- Less than half a day after a window has begun it is not over. -/
theorem lt_of_short {asOf snapshot : Time} {days : ℤ} (hdays : 1 ≤ days)
    (hshort : daysBetween (daysBefore asOf days) snapshot < 1 / 2) : snapshot < asOf := by
  by_contra hafter
  have hwhole := daysBetween_le (daysBefore asOf days) (not_lt.mp hafter)
  have hone : (1 : ℚ) ≤ days := by exact_mod_cast hdays
  rw [daysBetween_daysBefore] at hwhole
  linarith

/-- Rows of completed days: a slice of less than half a day is over by then. -/
theorem SameSlice.completed {rows others : List SalesPoint} {today : Time} {days : ℤ}
    {snapshotsSince : Option Time} (hdays : 1 ≤ days)
    (h : SameSlice rows others (daysBefore today days) snapshotsSince) :
    SameSlice (rows.filter fun p => p.date < today) (others.filter fun p => p.date < today)
      (daysBefore today days) snapshotsSince := by
  intro snapshot hsnapshot hshort
  have hbefore := lt_of_short hdays hshort
  have hfilter : ∀ rows : List SalesPoint,
      (rows.filter fun p => p.date < today).filter
          (fun p => inWindow (daysBefore today days) snapshot p.date)
        = rows.filter fun p => inWindow (daysBefore today days) snapshot p.date := by
    intro rows
    rw [List.filter_filter]
    refine List.filter_congr fun p _ => ?_
    rw [Bool.and_eq_left_iff_imp, inWindow_eq_true, decide_eq_true_eq]
    exact fun hwindow => hwindow.2.trans hbefore
  rw [hfilter, hfilter]
  exact h snapshot hsnapshot hshort

/-! ## Weighted sums -/

section Weighted

variable {K : Type} [DecidableEq K] (weight : Time → ℚ) (part : ℚ → ℚ) (rows : List SalesPoint)

theorem soldPart_add_returnedPart (q : ℚ) : soldPart q + returnedPart q = q := by
  unfold soldPart returnedPart
  split <;> ring

theorem soldPart_nonneg (q : ℚ) : 0 ≤ soldPart q := by
  unfold soldPart
  split <;> linarith

theorem returnedPart_nonpos (q : ℚ) : returnedPart q ≤ 0 := by
  unfold returnedPart
  split <;> linarith

section OneSign

variable {q : ℚ}

theorem soldPart_of_nonneg (h : 0 ≤ q) : soldPart q = q := by
  unfold soldPart
  split <;> linarith

theorem soldPart_of_nonpos (h : q ≤ 0) : soldPart q = 0 :=
  if_neg (not_lt.mpr h)

theorem returnedPart_of_nonneg (h : 0 ≤ q) : returnedPart q = 0 := by
  unfold returnedPart
  split <;> linarith

theorem returnedPart_of_nonpos (h : q ≤ 0) : returnedPart q = q :=
  if_neg (not_lt.mpr h)

end OneSign

/-- Rows come to what they sold and what they took back. -/
theorem weighted_id :
    weighted weight id rows
      = weighted weight soldPart rows + weighted weight returnedPart rows := by
  rw [weighted, weighted, weighted, ← List.sum_map_add]
  refine congrArg List.sum (List.map_congr_left fun p _ => ?_)
  rw [← mul_add, soldPart_add_returnedPart, id]

theorem sumQty_eq_weighted : sumQty rows = weighted 1 id rows := by
  simp [sumQty, weighted]

/-- The rows of some dates: the other dates have no weight. -/
theorem weighted_filter (keep : Time → Bool) :
    weighted weight part (rows.filter fun p => keep p.date)
      = weighted (fun d => if keep d = true then weight d else 0) part rows := by
  induction rows with
  | nil => rfl
  | cons p rows ih =>
      rw [List.filter_cons]
      by_cases hp : keep p.date = true
      · rw [if_pos hp, weighted, weighted, List.map_cons, List.map_cons, List.sum_cons,
          List.sum_cons, if_pos hp]
        exact congrArg _ ih
      · rw [if_neg hp, ih, weighted, weighted, List.map_cons, List.sum_cons, if_neg hp, zero_mul,
          zero_add]

/-- The total of a key: the other dates have no weight. -/
theorem total_eq_weighted (key : Time → K) (k : K) :
    total (rows.map fun p => (key p.date, part p.quantity)) k
      = weighted (fun d => if key d = k then 1 else 0) part rows := by
  induction rows with
  | nil => rfl
  | cons p rows ih =>
      rw [List.map_cons, total_cons, ih, weighted, weighted, List.map_cons, List.sum_cons]
      by_cases hp : key p.date = k <;> simp [hp]

end Weighted

/-! ## Gaps between sorted rows -/

section Sorted

variable (rows : List SalesPoint)

theorem perm_sortByDate : (sortByDate rows).Perm rows :=
  List.perm_insertionSort _ rows

@[simp] theorem length_sortByDate : (sortByDate rows).length = rows.length :=
  (perm_sortByDate rows).length_eq

@[simp] theorem sumQty_sortByDate : sumQty (sortByDate rows) = sumQty rows :=
  ((perm_sortByDate rows).map _).sum_eq

/-- The dates of sorted rows are sorted. -/
theorem sorted_dates : ((sortByDate rows).map SalesPoint.date).Pairwise (· ≤ ·) := by
  rw [List.pairwise_map]
  exact List.pairwise_insertionSort (fun a b : SalesPoint => a.date ≤ b.date) rows

/-- A date repeated is no gap. -/
theorem gapBetween_self {minGap : ℤ} (hmin : 0 ≤ minGap) (excluded : Finset ℤ) (d : Time) :
    gapBetween minGap excluded (d, d) = 0 := by
  have hzero : jsRound (daysBetween d d) = 0 := by
    rw [daysBetween_eq ((sub_self d).trans (zero_mul DAY_MS).symm), jsRound_intCast]
  rw [gapBetween, hzero]
  exact if_neg (not_lt.mpr hmin)

/-- The gap days of a window of some days: fewer than two rows have no gap. -/
theorem gapDaysInWindow_eq {since asOf : Time} (minGap : ℤ) (excludedDates : List Time)
    (hdays : 1 ≤ jsRound (daysBetween since asOf)) :
    gapDaysInWindow rows since asOf minGap excludedDates
      = if sumQty (rows.filter fun p => inWindow since asOf p.date)
            < (jsRound (daysBetween since asOf) : ℚ) / 2 then 0
        else min ((steps ((sortByDate (rows.filter fun p => inWindow since asOf p.date)).map
            SalesPoint.date)).map (gapBetween minGap (dayKeySet excludedDates))).sum
          (jsRound (daysBetween since asOf) - 1) := by
  rw [gapDaysInWindow]
  dsimp only
  rw [sumQty_sortByDate, length_sortByDate]
  by_cases hfew : (rows.filter fun p => inWindow since asOf p.date).length < 2
  · have hnone : steps ((sortByDate (rows.filter fun p => inWindow since asOf p.date)).map
        SalesPoint.date) = [] := by
      refine List.eq_nil_of_length_eq_zero ?_
      rw [steps, List.length_zip, List.length_tail, List.length_map, length_sortByDate]
      omega
    rw [if_pos hfew, hnone, List.map_nil, List.sum_nil, min_eq_left (by omega), ite_self]
  · rw [if_neg hfew]

/-- The inferred gap keys are those of neighbours that differ, in a stretch that sold enough. -/
theorem mem_inferredGapKeys_iff {start inferenceEnd k : Time} :
    k ∈ inferredGapKeys rows start inferenceEnd ↔
      (0 < daysBetween start inferenceEnd ∧
        1 / 2 ≤ sumQty (rows.filter fun p => dayKeyOf p.date < inferenceEnd)
          / daysBetween start inferenceEnd) ∧
      ∃ a b, a ≠ b ∧
        (a, b) ∈ steps ((sortByDate (rows.filter fun p => dayKeyOf p.date < inferenceEnd)).map
          SalesPoint.date) ∧ k ∈ gapKeys (a, b) := by
  have hdiffer : ∀ a b : Time, k ∈ gapKeys (a, b) → a ≠ b := by
    rintro a b hk rfl
    rw [gapKeys, if_pos (by norm_num [DAY_MS])] at hk
    exact List.not_mem_nil hk
  have hfew : ∀ a b : Time, (a, b) ∈ steps ((sortByDate (rows.filter fun p =>
      dayKeyOf p.date < inferenceEnd)).map SalesPoint.date) →
      2 ≤ (sortByDate (rows.filter fun p => dayKeyOf p.date < inferenceEnd)).length := by
    intro a b hab
    have hlength := List.length_pos_of_mem hab
    rw [steps, List.length_zip, List.length_tail, List.length_map] at hlength
    omega
  rw [inferredGapKeys, sumQty_sortByDate]
  constructor
  · intro hk
    split at hk
    case isTrue hsells =>
      obtain ⟨⟨a, b⟩, hab, hk⟩ := List.mem_flatMap.mp hk
      exact ⟨hsells.2, a, b, hdiffer a b hk, hab, hk⟩
    case isFalse => exact absurd hk List.not_mem_nil
  · rintro ⟨hsells, a, b, _, hab, hk⟩
    rw [if_pos ⟨hfew a b hab, hsells⟩]
    exact List.mem_flatMap.mpr ⟨(a, b), hab, hk⟩

end Sorted

/-! ## Cleaned rows -/

section Bulk

variable (evidence : List SalesPoint)

/-- A row of a series once its days are capped on this evidence. -/
def debulkPoint (point : SalesPoint) : SalesPoint :=
  match (bulkCaps evidence).find? fun cap => cap.date = dayKeyOf point.date with
  | some cap =>
      if 0 < point.quantity then { point with quantity := point.quantity * bulkFactor evidence cap }
      else point
  | none => point

/-- The factor on what is sold on a date: one on a day that is not capped. -/
def bulkScale (d : Time) : ℚ :=
  (((bulkCaps evidence).find? fun cap => cap.date = dayKeyOf d).map (bulkFactor evidence)).getD 1

theorem debulkSeries_series (history : List SalesPoint) (asOf : Option Time)
    (excludedDates : List Time) :
    (debulkSeries history asOf excludedDates).series
      = history.map (debulkPoint (bulkEvidence history asOf (dayKeySet excludedDates))) := rfl

@[simp] theorem debulkPoint_date (point : SalesPoint) :
    (debulkPoint evidence point).date = point.date := by
  unfold debulkPoint
  split
  · split <;> rfl
  · rfl

theorem debulkPoint_quantity (point : SalesPoint) :
    (debulkPoint evidence point).quantity
      = if 0 < point.quantity then point.quantity * bulkScale evidence point.date
        else point.quantity := by
  unfold debulkPoint bulkScale
  split
  case h_1 cap hcap =>
    rw [hcap]
    split <;> rfl
  case h_2 hnone =>
    rw [hnone, Option.map_none, Option.getD_none, mul_one, ite_self]

/-- The median positive day of the evidence. -/
def bulkBaseline : ℚ :=
  median (((bulkTotals evidence id).map Prod.snd).filter (0 < ·))

/-- A cap is of a day with a total above the threshold. -/
theorem exists_day_of_mem_bulkCaps {cap : BulkCap} (hcap : cap ∈ bulkCaps evidence) :
    ∃ day ∈ bulkTotals evidence id,
      max BULK_ABS_FLOOR (BULK_MULT * bulkBaseline evidence) < day.2 ∧
        bulkCap (bulkBaseline evidence) day = cap := by
  rw [bulkCaps] at hcap
  split at hcap
  · obtain ⟨day, hday, rfl⟩ := List.mem_map.mp hcap
    obtain ⟨hmem, hlarge⟩ := List.mem_filter.mp hday
    exact ⟨day, hmem, of_decide_eq_true hlarge, rfl⟩
  · exact absurd hcap List.not_mem_nil

/-- A day is capped where the median day is positive. -/
theorem bulkBaseline_pos {cap : BulkCap} (hcap : cap ∈ bulkCaps evidence) :
    0 < bulkBaseline evidence := by
  rw [bulkCaps] at hcap
  split at hcap
  case isTrue hpos => exact hpos
  case isFalse => exact absurd hcap List.not_mem_nil

theorem totalIn_bulkTotals (part : ℚ → ℚ) (k : ℤ) : totalIn (bulkTotals evidence part) k
    = weighted (fun d => if dayKeyOf d = k then 1 else 0) part evidence := by
  rw [bulkTotals, totalIn_tally, total_eq_weighted]

/-- A bulk day took nothing in but sales: what it took back is no gain. -/
theorem totalIn_returnedPart_nonpos (k : ℤ) : totalIn (bulkTotals evidence returnedPart) k ≤ 0 := by
  rw [totalIn_bulkTotals, ← neg_nonneg, weighted, List.sum_neg, List.map_map]
  refine List.sum_nonneg fun x hx => ?_
  obtain ⟨p, _, rfl⟩ := List.mem_map.mp hx
  refine neg_nonneg.mpr (mul_nonpos_of_nonneg_of_nonpos ?_ (returnedPart_nonpos _))
  split <;> norm_num

/-- A bulk day sold at least its total, and that is above the floor. -/
theorem floor_lt_of_mem_bulkCaps {cap : BulkCap} (hcap : cap ∈ bulkCaps evidence) :
    BULK_ABS_FLOOR < cap.original ∧
      cap.original ≤ totalIn (bulkTotals evidence soldPart) cap.date := by
  obtain ⟨day, hday, hlarge, rfl⟩ := exists_day_of_mem_bulkCaps evidence hcap
  refine ⟨(le_max_left _ _).trans_lt hlarge, ?_⟩
  have hreturned := totalIn_returnedPart_nonpos evidence day.1
  have hsum := weighted_id (fun d => if dayKeyOf d = day.1 then 1 else 0) evidence
  have htotal : totalIn (bulkTotals evidence id) day.1 = day.2 :=
    totalIn_of_mem (nodup_keys_tally _) hday
  rw [← totalIn_bulkTotals, ← totalIn_bulkTotals, ← totalIn_bulkTotals, htotal] at hsum
  show day.2 ≤ totalIn (bulkTotals evidence soldPart) day.1
  linarith

/-- A bulk day sold something. -/
theorem bulkSold_pos {cap : BulkCap} (hcap : cap ∈ bulkCaps evidence) :
    0 < totalIn (bulkTotals evidence soldPart) cap.date := by
  obtain ⟨hfloor, hsold⟩ := floor_lt_of_mem_bulkCaps evidence hcap
  rw [BULK_ABS_FLOOR] at hfloor
  linarith

/-- What is left of a bulk day's sales is positive: the cap is above what was taken back. -/
theorem bulkFactor_pos {cap : BulkCap} (hcap : cap ∈ bulkCaps evidence) :
    0 < bulkFactor evidence cap := by
  obtain ⟨hfloor, _⟩ := floor_lt_of_mem_bulkCaps evidence hcap
  have hreturned := totalIn_returnedPart_nonpos evidence cap.date
  have hcapped : BULK_ABS_FLOOR - 1 ≤ cap.capped := by
    obtain ⟨day, _, _, rfl⟩ := exists_day_of_mem_bulkCaps evidence hcap
    have hunits : BULK_ABS_FLOOR < day.2 := hfloor
    exact le_min (by linarith) (le_max_left _ _)
  rw [BULK_ABS_FLOOR] at hcapped
  have hleft : 0 < cap.capped - totalIn (bulkTotals evidence returnedPart) cap.date := by linarith
  exact div_pos hleft (bulkSold_pos evidence hcap)

/-- A day is capped once. -/
theorem bulkCap_unique {cap other : BulkCap} (hcap : cap ∈ bulkCaps evidence)
    (hother : other ∈ bulkCaps evidence) (hdate : cap.date = other.date) : cap = other := by
  obtain ⟨day, hday, _, rfl⟩ := exists_day_of_mem_bulkCaps evidence hcap
  obtain ⟨day', hday', _, rfl⟩ := exists_day_of_mem_bulkCaps evidence hother
  have hkey : day.1 = day'.1 := hdate
  have hunits : day.2 = day'.2 := by
    rw [← totalIn_of_mem (nodup_keys_tally _) hday, ← totalIn_of_mem (nodup_keys_tally _) hday',
      hkey]
  rw [Prod.ext hkey hunits]

theorem bulkScale_pos (d : Time) : 0 < bulkScale evidence d := by
  unfold bulkScale
  cases hcap : (bulkCaps evidence).find? fun cap => cap.date = dayKeyOf d with
  | none => exact one_pos
  | some cap => exact bulkFactor_pos evidence (List.mem_of_find?_eq_some hcap)

variable (rows : List SalesPoint) (weight : Time → ℚ)

theorem map_date_debulkPoint :
    (rows.map (debulkPoint evidence)).map SalesPoint.date = rows.map SalesPoint.date := by
  rw [List.map_map]
  exact List.map_congr_left fun p _ => debulkPoint_date evidence p

theorem weighted_soldPart_debulkPoint :
    weighted weight soldPart (rows.map (debulkPoint evidence))
      = weighted (fun d => weight d * bulkScale evidence d) soldPart rows := by
  rw [weighted, weighted, List.map_map]
  refine congrArg List.sum (List.map_congr_left fun p _ => ?_)
  have hscale := bulkScale_pos evidence p.date
  rw [Function.comp_apply, debulkPoint_date, debulkPoint_quantity]
  by_cases hp : 0 < p.quantity
  · rw [if_pos hp, soldPart, soldPart, if_pos hp, if_pos (mul_pos hp hscale)]
    ring
  · rw [if_neg hp, soldPart, if_neg hp, mul_zero, mul_zero]

theorem weighted_returnedPart_debulkPoint :
    weighted weight returnedPart (rows.map (debulkPoint evidence))
      = weighted weight returnedPart rows := by
  rw [weighted, weighted, List.map_map]
  refine congrArg List.sum (List.map_congr_left fun p _ => ?_)
  have hscale := bulkScale_pos evidence p.date
  rw [Function.comp_apply, debulkPoint_date, debulkPoint_quantity]
  by_cases hp : 0 < p.quantity
  · rw [if_pos hp, returnedPart, returnedPart, if_pos hp, if_pos (mul_pos hp hscale)]
  · rw [if_neg hp]

end Bulk

namespace SameSales

variable {K : Type} [DecidableEq K] {rows others : List SalesPoint}

/-! ## Instances -/

/-- Rows in another order have the same sales. -/
theorem of_perm (h : rows.Perm others) : SameSales rows others where
  dates _ := (h.map _).mem_iff
  sold _ := (h.map _).sum_eq
  returned _ := (h.map _).sum_eq

section Rows

variable (h : SameSales rows others)

include h

/-- The rows of some dates have the same sales. -/
theorem filter (keep : Time → Bool) :
    SameSales (rows.filter fun p => keep p.date) (others.filter fun p => keep p.date) where
  dates d := by
    have hfilter : ∀ rows : List SalesPoint,
        d ∈ (rows.filter fun p => keep p.date).map SalesPoint.date ↔
          d ∈ rows.map SalesPoint.date ∧ keep d = true := by
      intro rows
      simp only [List.mem_map, List.mem_filter]
      constructor
      · rintro ⟨p, ⟨hp, hkeep⟩, rfl⟩
        exact ⟨⟨p, hp, rfl⟩, hkeep⟩
      · rintro ⟨⟨p, hp, rfl⟩, hkeep⟩
        exact ⟨p, ⟨hp, hkeep⟩, rfl⟩
    rw [hfilter, hfilter, h.dates]
  sold weight := by rw [weighted_filter, weighted_filter, h.sold]
  returned weight := by rw [weighted_filter, weighted_filter, h.returned]

/-! ## Totals -/

theorem units (weight : Time → ℚ) : weighted weight id rows = weighted weight id others := by
  rw [weighted_id, weighted_id, h.sold, h.returned]

theorem sumQty : Forecast.sumQty rows = Forecast.sumQty others := by
  rw [sumQty_eq_weighted, sumQty_eq_weighted, h.units]

theorem nil_iff : rows = [] ↔ others = [] := by
  rw [← List.map_eq_nil_iff (f := SalesPoint.date), ← List.map_eq_nil_iff (f := SalesPoint.date),
    List.eq_nil_iff_forall_not_mem, List.eq_nil_iff_forall_not_mem]
  simp only [h.dates]

omit [DecidableEq K] in
/-- The keys of the dates are the same. -/
theorem mem_keys (key : Time → K) (k : K) :
    k ∈ rows.map (fun p => key p.date) ↔ k ∈ others.map fun p => key p.date := by
  have hkeys : ∀ rows : List SalesPoint,
      rows.map (fun p => key p.date) = (rows.map SalesPoint.date).map key := by
    intro rows
    rw [List.map_map]
    rfl
  rw [hkeys, hkeys, List.mem_map, List.mem_map]
  simp only [h.dates]

/-- The totals by a key of the dates are the same. -/
theorem total (key : Time → K) (k : K) :
    Series.total (rows.map fun p => (key p.date, p.quantity)) k
      = Series.total (others.map fun p => (key p.date, p.quantity)) k :=
  (total_eq_weighted id rows key k).trans
    ((h.units _).trans (total_eq_weighted id others key k).symm)

/-- The tallies by a key of the dates are the same, up to order. -/
theorem tally (key : Time → K) :
    (Series.tally (rows.map fun p => (key p.date, p.quantity))).Perm
      (Series.tally (others.map fun p => (key p.date, p.quantity))) := by
  refine tally_congr (fun k => ?_) (h.total key)
  rw [List.map_map, List.map_map]
  exact h.mem_keys key k

/-- The rows that sold have the same sales. -/
theorem soldRows :
    SameSales (rows.filter fun p => 0 < p.quantity) (others.filter fun p => 0 < p.quantity) := by
  have hsold : ∀ (rows : List SalesPoint) (weight : Time → ℚ),
      weighted weight soldPart (rows.filter fun p => 0 < p.quantity)
        = weighted weight soldPart rows := by
    intro rows weight
    induction rows with
    | nil => rfl
    | cons p rows ih =>
        by_cases hp : 0 < p.quantity
        · rw [List.filter_cons_of_pos (by simpa using hp), weighted, List.map_cons, List.sum_cons,
            weighted, List.map_cons, List.sum_cons]
          exact congrArg _ ih
        · rw [List.filter_cons_of_neg (by simpa using hp), ih, weighted, weighted, List.map_cons,
            List.sum_cons, soldPart, if_neg hp, mul_zero, zero_add]
  have hreturned : ∀ (rows : List SalesPoint) (weight : Time → ℚ),
      weighted weight returnedPart (rows.filter fun p => 0 < p.quantity) = 0 := by
    intro rows weight
    refine List.sum_eq_zero fun x hx => ?_
    obtain ⟨p, hp, rfl⟩ := List.mem_map.mp hx
    have hpos : 0 < p.quantity := by simpa using (List.mem_filter.mp hp).2
    rw [returnedPart, if_pos hpos, mul_zero]
  -- a date has a row that sold exactly when what it sold is positive
  have hdates : ∀ (rows : List SalesPoint) (d : Time),
      d ∈ (rows.filter fun p => 0 < p.quantity).map SalesPoint.date ↔
        0 < weighted (fun e => if e = d then 1 else 0) soldPart rows := by
    intro rows d
    induction rows with
    | nil => simp [weighted]
    | cons p rows ih =>
        have hrest : 0 ≤ weighted (fun e => if e = d then 1 else 0) soldPart rows := by
          refine List.sum_nonneg fun x hx => ?_
          obtain ⟨p, _, rfl⟩ := List.mem_map.mp hx
          exact mul_nonneg (by dsimp only; split <;> norm_num) (soldPart_nonneg _)
        rw [weighted, List.map_cons, List.sum_cons]
        change _ ↔ 0 < _ + weighted (fun e => if e = d then 1 else 0) soldPart rows
        by_cases hp : 0 < p.quantity
        · rw [List.filter_cons_of_pos (by simpa using hp), List.map_cons, List.mem_cons, ih,
            soldPart, if_pos hp]
          by_cases hd : p.date = d
          · rw [if_pos hd, one_mul]
            exact ⟨fun _ => by linarith, fun _ => Or.inl hd.symm⟩
          · rw [if_neg hd, zero_mul, zero_add]
            exact or_iff_right fun heq => hd heq.symm
        · rw [List.filter_cons_of_neg (by simpa using hp), ih, soldPart, if_neg hp, mul_zero,
            zero_add]
  exact
    { dates := fun d => by rw [hdates, hdates, h.sold]
      sold := fun weight => by rw [hsold, hsold, h.sold]
      returned := fun weight => by rw [hreturned, hreturned] }

/-- The dates of the sorted rows are the same. -/
theorem mem_sorted_dates (d : Time) :
    d ∈ (sortByDate rows).map SalesPoint.date ↔ d ∈ (sortByDate others).map SalesPoint.date := by
  rw [((perm_sortByDate rows).map _).mem_iff, ((perm_sortByDate others).map _).mem_iff]
  exact h.dates d

/-! ## Windows -/

theorem dampedWindow (since asOf : Time) (excluded : Finset ℤ) :
    Forecast.dampedWindow rows since asOf excluded
      = Forecast.dampedWindow others since asOf excluded := by
  have hwindow := h.filter fun d => inWindow since asOf d ∧ dayKeyOf d ∉ excluded
  exact damp_perm ((hwindow.tally dayKeyOf).map Prod.snd)

/-- What the gaps between the dates add up to. -/
theorem gapSum {minGap : ℤ} (hmin : 0 ≤ minGap) (excluded : Finset ℤ) :
    ((steps ((sortByDate rows).map SalesPoint.date)).map (gapBetween minGap excluded)).sum
      = ((steps ((sortByDate others).map SalesPoint.date)).map (gapBetween minGap excluded)).sum :=
  sum_steps_congr _ (fun d => gapBetween_self hmin excluded d) (sorted_dates rows)
    (sorted_dates others) h.mem_sorted_dates

/-- The gap days of a window. A window that rounds to no day asks besides whether it has two
rows at all. -/
theorem gapDaysInWindow {since asOf : Time} {minGap : ℤ} (hmin : 0 ≤ minGap)
    (excludedDates : List Time)
    (hlength : jsRound (daysBetween since asOf) < 1 →
      ((rows.filter fun p => inWindow since asOf p.date).length < 2 ↔
        (others.filter fun p => inWindow since asOf p.date).length < 2)) :
    Forecast.gapDaysInWindow rows since asOf minGap excludedDates
      = Forecast.gapDaysInWindow others since asOf minGap excludedDates := by
  have hwindow := h.filter (inWindow since asOf)
  by_cases hdays : 1 ≤ jsRound (daysBetween since asOf)
  · rw [gapDaysInWindow_eq _ _ _ hdays, gapDaysInWindow_eq _ _ _ hdays, hwindow.sumQty,
      hwindow.gapSum hmin]
  · have hcount := hlength (not_le.mp hdays)
    rw [Forecast.gapDaysInWindow, Forecast.gapDaysInWindow]
    dsimp only
    rw [length_sortByDate, length_sortByDate, sumQty_sortByDate, sumQty_sortByDate, hwindow.sumQty,
      hwindow.gapSum hmin]
    simp only [hcount]

/-! ## Rates -/

/-- The gap days of the slice of a window that the snapshots do not reach. -/
theorem uncoveredGapDays {asOf : Time} {days : ℤ} (hdays : 1 ≤ days)
    {snapshotsSince : Option Time} (excludedDates : List Time)
    (hslice : SameSlice rows others (daysBefore asOf days) snapshotsSince) :
    Forecast.uncoveredGapDays rows (daysBefore asOf days) asOf snapshotsSince excludedDates
      = Forecast.uncoveredGapDays others (daysBefore asOf days) asOf snapshotsSince
          excludedDates := by
  cases hsnapshots : snapshotsSince with
  | none => rfl
  | some since =>
      rw [Forecast.uncoveredGapDays, Forecast.uncoveredGapDays]
      split
      · rfl
      · refine h.gapDaysInWindow (by norm_num) _ fun hshort => ?_
        -- a slice of less than half a day does not end with the window
        have hmin : min since asOf = since := by
          refine min_eq_left (not_lt.mp fun hlt => ?_)
          rw [min_eq_right hlt.le, daysBetween_daysBefore, jsRound_intCast] at hshort
          exact absurd hdays (not_le.mpr hshort)
        rw [hmin] at hshort ⊢
        exact hslice since hsnapshots (jsRound_lt_one.mp hshort)

theorem weightedDailyRateAdjusted (asOf : Time) (excludedDates : List Time) :
    Forecast.weightedDailyRateAdjusted rows asOf excludedDates
      = Forecast.weightedDailyRateAdjusted others asOf excludedDates := by
  have hgap : ∀ w ∈ RATE_WINDOWS,
      Forecast.gapDaysInWindow rows (daysBefore asOf w.1) asOf 7 excludedDates
        = Forecast.gapDaysInWindow others (daysBefore asOf w.1) asOf 7 excludedDates := by
    intro w hw
    refine h.gapDaysInWindow (by norm_num) _ fun hshort => ?_
    rw [daysBetween_daysBefore, jsRound_intCast] at hshort
    exact absurd (one_le_of_mem_RATE_WINDOWS hw) (not_le.mpr hshort)
  simp only [Forecast.weightedDailyRateAdjusted, h.nil_iff, h.dampedWindow]
  refine if_congr Iff.rfl rfl (weigh_congr fun w hw => ?_)
  rw [hgap w hw]

theorem weightedDailyRateCensored (stockoutDates : List Time) (asOf : Time)
    (excludedDates : List Time) {snapshotsSince : Option Time}
    (hslice : ∀ w ∈ RATE_WINDOWS, SameSlice rows others (daysBefore asOf w.1) snapshotsSince) :
    Forecast.weightedDailyRateCensored rows stockoutDates asOf excludedDates snapshotsSince
      = Forecast.weightedDailyRateCensored others stockoutDates asOf excludedDates
          snapshotsSince := by
  simp only [Forecast.weightedDailyRateCensored, h.nil_iff, h.dampedWindow,
    h.weightedDailyRateAdjusted]
  refine if_congr Iff.rfl rfl (if_congr Iff.rfl rfl (weigh_congr fun w hw => ?_))
  rw [h.uncoveredGapDays (one_le_of_mem_RATE_WINDOWS hw) _ (hslice w hw)]

/-! ## The median baseline -/

/-- The inferred gaps are those between the dates: fewer than two rows have none. -/
theorem mem_inferredGapKeys (start inferenceEnd k : Time) :
    k ∈ Forecast.inferredGapKeys rows start inferenceEnd ↔
      k ∈ Forecast.inferredGapKeys others start inferenceEnd := by
  have hunknown := h.filter fun d => dayKeyOf d < inferenceEnd
  rw [mem_inferredGapKeys_iff, mem_inferredGapKeys_iff, hunknown.sumQty]
  refine and_congr Iff.rfl (exists_congr fun a => exists_congr fun b =>
    and_congr_right fun hab => and_congr ?_ Iff.rfl)
  exact mem_steps_congr hab (sorted_dates _) (sorted_dates _) hunknown.mem_sorted_dates

theorem medianBlocked (start inferenceEnd : Time) (excluded stockouts : Finset ℤ) :
    Forecast.medianBlocked rows (Series.tally (rows.map fun p => (dayKeyOf p.date, p.quantity)))
        start inferenceEnd excluded stockouts
      = Forecast.medianBlocked others
          (Series.tally (others.map fun p => (dayKeyOf p.date, p.quantity))) start inferenceEnd
          excluded stockouts := by
  have hgaps : (Forecast.inferredGapKeys rows start inferenceEnd).toFinset
      = (Forecast.inferredGapKeys others start inferenceEnd).toFinset := by
    ext k
    rw [List.mem_toFinset, List.mem_toFinset]
    exact h.mem_inferredGapKeys start inferenceEnd k
  rw [Forecast.medianBlocked, Forecast.medianBlocked, hgaps]
  simp only [(h.tally dayKeyOf).mem_iff]

theorem weeksOf (blocked : Finset ℤ) (start asOf : Time) :
    Forecast.weeksOf (Series.tally (rows.map fun p => (dayKeyOf p.date, p.quantity))) blocked start
        asOf
      = Forecast.weeksOf (Series.tally (others.map fun p => (dayKeyOf p.date, p.quantity))) blocked
          start asOf := by
  have htotal : totalIn (Series.tally (rows.map fun p => (dayKeyOf p.date, p.quantity)))
      = totalIn (Series.tally (others.map fun p => (dayKeyOf p.date, p.quantity))) := by
    funext k
    rw [totalIn_tally, totalIn_tally]
    exact h.total dayKeyOf k
  simp only [Forecast.weeksOf, weekOf, htotal]

theorem medianRate (start asOf inferenceEnd : Time) (excluded stockouts : Finset ℤ) :
    Forecast.medianRate rows start asOf inferenceEnd excluded stockouts
      = Forecast.medianRate others start asOf inferenceEnd excluded stockouts := by
  have hrows := h.filter fun d => start ≤ dayKeyOf d
  simp only [Forecast.medianRate, h.dampedWindow, hrows.medianBlocked, hrows.weeksOf]

theorem weightedDailyRateMedianCensored (stockoutDates : List Time) (asOf : Time)
    (excludedDates : List Time) (snapshotsSince : Option Time) :
    Forecast.weightedDailyRateMedianCensored rows stockoutDates asOf excludedDates snapshotsSince
      = Forecast.weightedDailyRateMedianCensored others stockoutDates asOf excludedDates
          snapshotsSince := by
  have hvalid := h.filter fun d => d < asOf ∧ dayKeyOf d < dayKeyOf asOf
  simp only [Forecast.weightedDailyRateMedianCensored, hvalid.nil_iff, hvalid.medianRate,
    foldl_min_congr (hvalid.mem_keys dayKeyOf)]

/-! ## The run rate -/

theorem historySpanDays (today : Time) :
    Forecast.historySpanDays rows today = Forecast.historySpanDays others today := by
  rw [Forecast.historySpanDays, Forecast.historySpanDays, min?_congr h.dates]

theorem rateOverWindow (today : Time) (windowDays : ℤ) (stockoutDates excludedDates : List Time) :
    Forecast.rateOverWindow rows today windowDays stockoutDates excludedDates
      = Forecast.rateOverWindow others today windowDays stockoutDates excludedDates := by
  simp only [Forecast.rateOverWindow, h.dampedWindow]

theorem runRateDaily (today : Time) (stockoutDates excludedDates : List Time)
    {snapshotsSince : Option Time} (method : BaselineMethod)
    (hslice : ∀ w ∈ RATE_WINDOWS,
      SameSlice rows others (daysBefore (dayKeyOf today) w.1) snapshotsSince) :
    Forecast.runRateDaily rows today stockoutDates excludedDates snapshotsSince method false
      = Forecast.runRateDaily others today stockoutDates excludedDates snapshotsSince method
          false := by
  have hcompleted := h.filter fun d => d < dayKeyOf today
  have hslices := fun w hw => (hslice w hw).completed (one_le_of_mem_RATE_WINDOWS hw)
  simp only [Forecast.runRateDaily, Bool.false_eq_true, if_false, hcompleted.historySpanDays,
    hcompleted.rateOverWindow, hcompleted.weightedDailyRateMedianCensored,
    hcompleted.weightedDailyRateAdjusted]
  rw [hcompleted.weightedDailyRateCensored _ _ _ hslices]

theorem demandRateFor (demand : DemandMethod) (today : Time)
    (stockoutDates excludedDates : List Time) {snapshotsSince : Option Time}
    (method : BaselineMethod)
    (hslice : ∀ w ∈ RATE_WINDOWS,
      SameSlice rows others (daysBefore (dayKeyOf today) w.1) snapshotsSince) :
    Forecast.demandRateFor demand rows today stockoutDates excludedDates snapshotsSince method false
      = Forecast.demandRateFor demand others today stockoutDates excludedDates snapshotsSince
          method false := by
  have hcompleted := h.filter fun d => d < dayKeyOf today
  have hslices : ∀ w ∈ RATE_WINDOWS,
      SameSlice (rows.filter fun p => p.date < dayKeyOf today)
        (others.filter fun p => p.date < dayKeyOf today)
        (daysBefore (dayKeyOf (dayKeyOf today)) w.1) snapshotsSince := by
    intro w hw
    rw [dayKeyOf_dayKeyOf]
    exact (hslice w hw).completed (one_le_of_mem_RATE_WINDOWS hw)
  simp only [Forecast.demandRateFor, Bool.false_eq_true, if_false, hcompleted.rateOverWindow]
  rw [hcompleted.runRateDaily _ _ _ _ hslices, hcompleted.runRateDaily _ _ _ _ hslices]

/-- What the rows demonstrate: only those that sold count. -/
theorem demonstratedDailyRate :
    Forecast.demonstratedDailyRate rows = Forecast.demonstratedDailyRate others := by
  have hsold := h.soldRows
  simp only [Forecast.demonstratedDailyRate, min?_congr hsold.dates, max?_congr hsold.dates,
    hsold.sumQty]

/-- Some date that passes a test has a row that sold. -/
theorem any_sold (test : Time → Bool) :
    (rows.any fun p => 0 < p.quantity ∧ test p.date = true)
      = others.any fun p => 0 < p.quantity ∧ test p.date = true := by
  have hany : ∀ rows : List SalesPoint,
      (rows.any fun p => 0 < p.quantity ∧ test p.date = true) = true ↔
        ∃ d ∈ (rows.filter fun p => 0 < p.quantity).map SalesPoint.date, test d = true := by
    intro rows
    simp [and_assoc]
  rw [Bool.eq_iff_iff, hany, hany]
  simp only [h.soldRows.dates]

/-! ## Bulk days -/

/-- The day totals of what was sold or taken back are the same. -/
theorem bulkTotals (part : ℚ → ℚ)
    (hpart : ∀ weight, weighted weight part rows = weighted weight part others) :
    (Forecast.bulkTotals rows part).Perm (Forecast.bulkTotals others part) := by
  refine tally_congr (fun k => ?_) fun k => ?_
  · rw [List.map_map, List.map_map]
    exact h.mem_keys dayKeyOf k
  · rw [total_eq_weighted, total_eq_weighted, hpart]

/-- The same days are capped, in the same way. -/
theorem bulkCaps : (Forecast.bulkCaps rows).Perm (Forecast.bulkCaps others) := by
  have hdays := h.bulkTotals id h.units
  have hmedian : median (((Forecast.bulkTotals rows id).map Prod.snd).filter (0 < ·))
      = median (((Forecast.bulkTotals others id).map Prod.snd).filter (0 < ·)) :=
    median_perm ((hdays.map _).filter _)
  rw [Forecast.bulkCaps, Forecast.bulkCaps, hmedian]
  split
  · exact (hdays.filter _).map _
  · exact List.Perm.nil

theorem bulkFactor (cap : BulkCap) :
    Forecast.bulkFactor rows cap = Forecast.bulkFactor others cap := by
  have htotal : ∀ part, (∀ weight, weighted weight part rows = weighted weight part others) →
      totalIn (Forecast.bulkTotals rows part) cap.date
        = totalIn (Forecast.bulkTotals others part) cap.date := by
    intro part hpart
    rw [Forecast.bulkTotals, Forecast.bulkTotals, totalIn_tally, totalIn_tally, total_eq_weighted,
      total_eq_weighted, hpart]
  exact congrArg₂ (fun negative positive => (cap.capped - negative) / positive)
    (htotal _ h.returned) (htotal _ h.sold)

theorem bulkScale (d : Time) : Forecast.bulkScale rows d = Forecast.bulkScale others d := by
  have hfind : (Forecast.bulkCaps rows).find? (fun cap => cap.date = dayKeyOf d)
      = (Forecast.bulkCaps others).find? fun cap => cap.date = dayKeyOf d := by
    refine find?_perm h.bulkCaps fun cap hcap other hother hdate hdate' => ?_
    rw [decide_eq_true_eq] at hdate hdate'
    exact bulkCap_unique rows hcap hother (hdate.trans hdate'.symm)
  rw [Forecast.bulkScale, Forecast.bulkScale, hfind]
  exact congrArg (fun scale => (Option.map scale _).getD 1) (funext h.bulkFactor)

/-- Cleaned rows have the same sales. -/
theorem debulkPoint {evidence evidence' : List SalesPoint}
    (hevidence : SameSales evidence evidence') :
    SameSales (rows.map (Forecast.debulkPoint evidence))
        (others.map (Forecast.debulkPoint evidence'))
    where
  dates d := by
    rw [map_date_debulkPoint, map_date_debulkPoint]
    exact h.dates d
  sold weight := by
    rw [weighted_soldPart_debulkPoint, weighted_soldPart_debulkPoint, h.sold]
    simp only [hevidence.bulkScale]
  returned weight := by
    rw [weighted_returnedPart_debulkPoint, weighted_returnedPart_debulkPoint, h.returned]

end Rows

end SameSales

end Restock.Forecast
