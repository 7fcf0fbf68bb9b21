import Mathlib.Algebra.Order.BigOperators.Group.List
import Restock.Forecast.Backtest

/-!
# What the backtest sees

What a method says at a cutoff comes from the sales before it. The scale that its error is divided
by comes from the whole history: a large sale after the last one makes the scale of every window
larger, those of windows long before it included.

* `SameBefore` — two histories that agree before a cutoff;
* `NoLookAhead` — what is said and how it is scaled depend on the past alone;
* `densify_concat`, `le_naiveScale_concat` — a sale some days after the last one;
* `noLookAhead_iff` — the scale of no scored window depends on the past alone.
-/

namespace Restock.Forecast

/-- Two histories have the same sales before a cutoff. -/
def SameBefore (cutoff : Time) (history other : List SalesPoint) : Prop :=
  (history.filter fun p => p.date < cutoff) = other.filter fun p => p.date < cutoff

/-- Sales at a cutoff or later change neither what is said there nor the scales of the window. -/
structure NoLookAhead (opts : BacktestOptions) (products : List BacktestProduct)
    (cutoffs : List Time) (horizonDays : ℚ) : Prop where
  said : ∀ product ∈ products, ∀ cutoff ∈ cutoffs, ∀ other,
    SameBefore cutoff product.history other → ∀ method,
      methodDailyRate opts method other cutoff * horizonDays =
        methodDailyRate opts method product.history cutoff * horizonDays
  scale : ∀ product ∈ products, ∀ cutoff ∈ cutoffs,
    isScored product.history cutoff horizonDays = true → ∀ other,
    SameBefore cutoff product.history other → isScored other cutoff horizonDays = true →
      scaleWithFallback (densify other) naiveMaeScale =
          scaleWithFallback (densify product.history) naiveMaeScale ∧
        scaleWithFallback (densify other) naiveMseScale =
          scaleWithFallback (densify product.history) naiveMseScale

/-- What is said at a cutoff depends on the sales before it. -/
theorem methodDailyRate_congr {cutoff : Time} {history other : List SalesPoint}
    (h : SameBefore cutoff history other) (opts : BacktestOptions) (method : DemandMethod) :
    methodDailyRate opts method other cutoff = methodDailyRate opts method history cutoff := by
  rw [methodDailyRate, methodDailyRate, h]

/-! ## A sale some days after the last one -/

section Late

variable {first last : Time} {history : List SalesPoint} {gap : ℕ} {quantity : ℚ}

/-- Whole days add to a span. -/
theorem jsRound_daysBetween_add (first t : Time) (days : ℕ) :
    jsRound (daysBetween first (t + days * DAY_MS)) = jsRound (daysBetween first t) + days := by
  have hspan : daysBetween first (t + days * DAY_MS) = daysBetween first t + (days : ℤ) := by
    have hday := dayMs_pos_rat.ne'
    rw [daysBetween, daysBetween]
    push_cast
    field_simp
    ring
  rw [hspan, jsRound, jsRound, add_right_comm, Int.floor_add_intCast]

/-- Later dates are no fewer days away. -/
theorem jsRound_daysBetween_le (first : Time) {t u : Time} (h : t ≤ u) :
    jsRound (daysBetween first t) ≤ jsRound (daysBetween first u) := by
  exact Int.floor_le_floor (add_le_add_left (daysBetween_le first h) _)

/-- A sale some days after the last one adds as many days to the series, without sales but for its
own. -/
theorem densify_concat (hfirst : (history.map SalesPoint.date).min? = some first)
    (hlast : (history.map SalesPoint.date).max? = some last) (gap : ℕ) (quantity : ℚ) :
    densify (history ++ [{ date := last + (gap + 1 : ℕ) * DAY_MS, quantity }]) =
      densify history ++ List.replicate gap 0 ++ [quantity] := by
  set late : SalesPoint := { date := last + (gap + 1 : ℕ) * DAY_MS, quantity } with hlate
  obtain ⟨hfirstMem, hfirstLe⟩ := List.min?_eq_some_iff.mp hfirst
  obtain ⟨hlastMem, hlastLe⟩ := List.max?_eq_some_iff.mp hlast
  have hafter : last ≤ late.date := by
    have hpos : (0 : ℤ) ≤ (gap + 1 : ℕ) * DAY_MS := by
      unfold DAY_MS
      omega
    exact le_add_of_nonneg_right hpos
  have hfirst' : ((history ++ [late]).map SalesPoint.date).min? = some first := by
    rw [List.map_append, List.min?_eq_some_iff]
    refine ⟨List.mem_append_left _ hfirstMem, fun t ht => ?_⟩
    rcases List.mem_append.mp ht with ht | ht
    · exact hfirstLe t ht
    · rw [List.mem_singleton.mp ht]
      exact (hfirstLe last hlastMem).trans hafter
  have hlast' : ((history ++ [late]).map SalesPoint.date).max? = some late.date := by
    rw [List.map_append, List.max?_eq_some_iff]
    refine ⟨List.mem_append_right _ List.mem_cons_self, fun t ht => ?_⟩
    rcases List.mem_append.mp ht with ht | ht
    · exact (hlastLe t ht).trans hafter
    · exact (List.mem_singleton.mp ht).le
  set span := jsRound (daysBetween first last) with hspan
  have hspanNonneg : 0 ≤ span := by
    have h := jsRound_daysBetween_le first (hfirstLe last hlastMem)
    have hzero : jsRound (daysBetween first first) = 0 := by
      rw [daysBetween, sub_self, Int.cast_zero, zero_div]
      exact jsRound_intCast 0
    omega
  have hlateSpan : jsRound (daysBetween first late.date) = span + (gap + 1 : ℕ) :=
    jsRound_daysBetween_add first last (gap + 1)
  have hsales : ∀ p ∈ history, jsRound (daysBetween first p.date) ≤ span := fun p hp =>
    jsRound_daysBetween_le first (hlastLe p.date (List.mem_map_of_mem hp))
  rw [densify, densify, hfirst', hlast', hfirst, hlast]
  dsimp only
  rw [hlateSpan]
  have hlength : (span + (gap + 1 : ℕ)).toNat + 1 = (span.toNat + 1) + (gap + 1) := by omega
  rw [hlength, List.range_add, List.map_append, List.map_map, List.append_assoc]
  refine congrArg₂ _ (List.map_congr_left fun i hi => ?_) ?_
  · -- a day of the old series
    have hi := List.mem_range.mp hi
    have hother : ¬ jsRound (daysBetween first late.date) = (i : ℤ) := by omega
    rw [List.filter_append, List.filter_cons_of_neg (by simpa using hother), List.filter_nil,
      List.append_nil]
  · rw [List.range_succ, List.map_append]
    refine congrArg₂ _ ?_ ?_
    · refine List.eq_replicate_iff.mpr ⟨by simp, fun v hv => ?_⟩
      obtain ⟨i, hi, rfl⟩ := List.mem_map.mp hv
      have hi := List.mem_range.mp hi
      rw [Function.comp_apply, List.filter_eq_nil_iff.mpr]
      · rfl
      · intro p hp hday
        have hday := of_decide_eq_true hday
        rcases List.mem_append.mp hp with hp | hp
        · have := hsales p hp
          omega
        · rw [List.mem_singleton.mp hp] at hday
          omega
    · have hnone : (history.filter fun p =>
          jsRound (daysBetween first p.date) = ((span.toNat + 1 + gap : ℕ) : ℤ)) = [] := by
        refine List.filter_eq_nil_iff.mpr fun p hp hday => ?_
        have hday := of_decide_eq_true hday
        have := hsales p hp
        omega
      have hown : jsRound (daysBetween first late.date) = ((span.toNat + 1 + gap : ℕ) : ℤ) := by
        omega
      rw [List.map_singleton, Function.comp_apply, List.filter_append, hnone, List.nil_append,
        List.filter_cons_of_pos (by simpa using hown), List.filter_nil, List.map_singleton,
        List.sum_singleton]

end Late

/-! ## The scale of the longer series -/

/-- The scale of a series that ends with a large value after some days of nothing is as large. -/
theorem le_naiveScale_concat (loss : ℚ → ℚ) (hloss : ∀ d, 0 ≤ loss d) (daily : List ℚ) {m gap : ℕ}
    (hm : 0 < m) (hgap : m ≤ gap) {quantity bound : ℚ} (hbound : EPS < bound)
    (hquantity : bound * (daily.length + gap + 1 - m : ℕ) ≤ loss quantity) :
    ∃ scale, naiveScale loss (daily ++ List.replicate gap 0 ++ [quantity]) m = some scale ∧
      bound ≤ scale := by
  set series := daily ++ List.replicate gap 0 ++ [quantity] with hseries
  have hlength : series.length = daily.length + gap + 1 := by
    rw [hseries, List.length_append, List.length_append, List.length_replicate,
      List.length_singleton]
  have hcount : series.length - m = (daily.length + gap - m) + 1 := by omega
  have hnonneg : ∀ n : ℕ, 0 ≤ ((List.range n).map fun i =>
      loss (series.getD (i + m) 0 - series.getD i 0)).sum := by
    refine fun n => List.sum_nonneg fun v hv => ?_
    obtain ⟨i, -, rfl⟩ := List.mem_map.mp hv
    exact hloss _
  -- the last change is from a day of nothing to the large value
  have hlast : series.getD (daily.length + gap - m + m) 0 = quantity := by
    rw [Nat.sub_add_cancel (by omega), hseries, List.getD_eq_getElem?_getD,
      List.getElem?_append_right (by simp)]
    simp
  have hbefore : series.getD (daily.length + gap - m) 0 = 0 := by
    rw [hseries, List.append_assoc, List.getD_eq_getElem?_getD,
      List.getElem?_append_right (by omega)]
    have hlt : daily.length + gap - m - daily.length < gap := by omega
    rw [List.getElem?_append_left (by simpa using hlt), List.getElem?_replicate, if_pos hlt]
    rfl
  have hsum : loss quantity ≤ ((List.range (series.length - m)).map fun i =>
      loss (series.getD (i + m) 0 - series.getD i 0)).sum := by
    rw [hcount, List.range_succ, List.map_append, List.sum_append, List.map_singleton,
      List.sum_singleton, hlast, hbefore, sub_zero]
    exact le_add_of_nonneg_left (hnonneg _)
  have hpos : (0 : ℚ) < (series.length - m : ℕ) := by
    rw [hcount]
    exact Nat.cast_pos.mpr (Nat.succ_pos _)
  have hscale : bound ≤ ((List.range (series.length - m)).map fun i =>
      loss (series.getD (i + m) 0 - series.getD i 0)).sum / (series.length - m : ℕ) := by
    rw [le_div_iff₀ hpos, hlength]
    rw [hlength] at hsum
    exact hquantity.trans hsum
  refine ⟨_, ?_, hscale⟩
  rw [naiveScale, if_neg (by omega)]
  exact if_pos (hbound.trans_le hscale)

/-! ## No window is scaled by its past alone -/

section Scored

variable {history : List SalesPoint} {cutoff : Time} {horizonDays : ℚ}

/-- The last date is at least the start of the loop and every date. -/
theorem foldl_lastDate_le (m : Time) (rest : List SalesPoint) :
    (history.foldl (fun m p => if m < p.date then p.date else m) m) ≤
      (history ++ rest).foldl (fun m p => if m < p.date then p.date else m) m := by
  rw [List.foldl_append]
  generalize history.foldl (fun m p => if m < p.date then p.date else m) m = m
  induction rest generalizing m with
  | nil => exact le_refl m
  | cons p rest ih =>
      refine le_trans ?_ (ih _)
      dsimp only
      split
      case isTrue h => exact h.le
      case isFalse => exact le_refl m

/-- More sales do not end the scoring of a window. -/
theorem isScored_append (h : isScored history cutoff horizonDays = true)
    (rest : List SalesPoint) : isScored (history ++ rest) cutoff horizonDays = true := by
  rw [isScored, decide_eq_true_iff] at h ⊢
  refine ⟨?_, h.2.trans (add_le_add_left (foldl_lastDate_le 0 rest) DAY_MS)⟩
  rw [List.length_append]
  omega

/-- Every scored window has a later sale that leaves its past as it is and changes its scale. -/
theorem exists_late_sale (h : isScored history cutoff horizonDays = true) :
    ∃ late : SalesPoint, cutoff ≤ late.date ∧
      scaleWithFallback (densify (history ++ [late])) naiveMaeScale ≠
        scaleWithFallback (densify history) naiveMaeScale := by
  have hne : history.map SalesPoint.date ≠ [] := by
    rw [isScored, decide_eq_true_iff] at h
    exact fun hnil => h.1 (by rw [List.map_eq_nil_iff.mp hnil]; rfl)
  obtain ⟨first, hfirst⟩ := Option.isSome_iff_exists.mp (List.isSome_min?_of_ne_nil hne)
  obtain ⟨last, hlast⟩ := Option.isSome_iff_exists.mp (List.isSome_max?_of_ne_nil hne)
  -- a gap of a week, or more where the cutoff is later still
  set gap : ℕ := 7 + (cutoff - last).toNat with hgap
  set old : ℚ := (scaleWithFallback (densify history) naiveMaeScale).getD 0 with hold
  set quantity : ℚ := (|old| + 1) * ((densify history).length + gap + 1 - 7 : ℕ) with hquantity
  refine ⟨{ date := last + (gap + 1 : ℕ) * DAY_MS, quantity }, ?_, ?_⟩
  · have hreach : (cutoff : ℤ) - last ≤ (gap + 1 : ℕ) := by
      have htoNat := Int.self_le_toNat (cutoff - last)
      rw [hgap]
      push_cast
      linarith
    have hdays : ((gap + 1 : ℕ) : ℤ) ≤ (gap + 1 : ℕ) * DAY_MS :=
      le_mul_of_one_le_right (Int.natCast_nonneg _) (by decide)
    exact sub_le_iff_le_add'.mp (hreach.trans hdays)
  · rw [densify_concat hfirst hlast]
    have hbound : EPS < |old| + 1 := by
      have habs := abs_nonneg old
      rw [EPS]
      linarith
    have hlarge : (|old| + 1) * ((densify history).length + gap + 1 - 7 : ℕ) ≤ |quantity| :=
      le_abs_self quantity
    have hweek : 7 ≤ gap := by omega
    obtain ⟨scale, hscale, hle⟩ := le_naiveScale_concat (fun d => |d|) abs_nonneg
      (densify history) (by omega : 0 < 7) hweek hbound hlarge
    intro heq
    have hsame : old = scale := by
      rw [hold, ← heq, scaleWithFallback, naiveMaeScale, SEASON_DAYS, hscale, Option.some_or,
        Option.getD_some]
    have hlt := le_abs_self old
    linarith

/-- A sale at a cutoff or later is not before it. -/
theorem sameBefore_concat {late : SalesPoint} (h : cutoff ≤ late.date) :
    SameBefore cutoff history (history ++ [late]) := by
  rw [SameBefore, List.filter_append, List.filter_cons_of_neg (by simpa using h), List.filter_nil,
    List.append_nil]

end Scored

/-- **The backtest looks ahead at every window it scores.** For every catalogue, cutoffs and
horizon, what is said at a cutoff depends on the sales before it, but the scale of a window depends
on the sales before the cutoff alone exactly when no window is scored: every cutoff is skipped for
every product. -/
theorem noLookAhead_iff (opts : BacktestOptions) (products : List BacktestProduct)
    (cutoffs : List Time) (horizonDays : ℚ) :
    NoLookAhead opts products cutoffs horizonDays ↔
      ∀ product ∈ products, ∀ cutoff ∈ cutoffs,
        ¬ isScored product.history cutoff horizonDays = true := by
  constructor
  · intro hblind product hproduct cutoff hcutoff hscored
    obtain ⟨late, hlate, hchanged⟩ := exists_late_sale hscored
    exact hchanged (hblind.scale product hproduct cutoff hcutoff hscored _
      (sameBefore_concat hlate) (isScored_append hscored [late])).1
  · intro hskipped
    constructor
    case said =>
      intro product _ cutoff _ other hsame method
      rw [methodDailyRate_congr hsame]
    case scale =>
      intro product hproduct cutoff hcutoff hscored
      exact absurd hscored (hskipped product hproduct cutoff hcutoff)

/-- A product that sold one on a day, one forty days later, and then what it did. -/
private def quietTee (later : List SalesPoint) : BacktestProduct where
  productId := 0
  history := [{ date := 0, quantity := 1 }, { date := 40 * DAY_MS, quantity := 1 }] ++ later

/-- A sale of a hundred eight days after the last one, and after the window: what is said and what
happened in the window are as before, and its scaled error is less than a fortieth of that. -/
theorem noLookAhead_lateSale :
    let late : SalesPoint := { date := 48 * DAY_MS, quantity := 100 }
    let scoresOf := fun product => (walkForwardBacktest Js.rational [product] [10 * DAY_MS] 30
      {}).byClass.map fun row => (row.method, row.saidUnits, row.happenedUnits, row.scaleFree.mase)
    SameBefore (10 * DAY_MS) (quietTee []).history (quietTee [late]).history ∧
      (scoresOf (quietTee [])).take 2 = [(.runRate, 3, 0, some 51), (.recentHeavy, 1, 0, some 17)] ∧
      (scoresOf (quietTee [late])).take 2 =
        [(.runRate, 3, 0, some (126 / 103)), (.recentHeavy, 1, 0, some (42 / 103))] ∧
      ¬ NoLookAhead {} [quietTee []] [10 * DAY_MS] 30 := by
  have hsame : SameBefore (10 * DAY_MS) (quietTee []).history
      (quietTee [{ date := 48 * DAY_MS, quantity := 100 }]).history := rfl
  refine ⟨hsame, by decide +kernel, by decide +kernel, fun h => ?_⟩
  have hscale := (h.scale (quietTee []) (List.mem_singleton_self _) (10 * DAY_MS)
    (List.mem_singleton_self _) (by decide +kernel)
    (quietTee [{ date := 48 * DAY_MS, quantity := 100 }]).history hsame (by decide +kernel)).1
  exact absurd hscale (by decide +kernel)

end Restock.Forecast
