import Restock.Forecast.SameSales

/-!
# Cleaning bulk days is a projection

A flagged day is brought down to a target that is at least the median day's double and at most the
threshold. So the median does not move, nothing is flagged a second time, and a cleaned history is
its own cleaned history.

* `totalIn_debulkPoint` — the day totals of cleaned rows;
* `bulkBaseline_debulkPoint`, `bulkCaps_debulkPoint` — their median, and that none is flagged;
* `debulkSeries_projection` — what cleaning changes, and that it does so once.
-/

namespace Restock.Forecast

open Series

section Evidence

variable (rows : List SalesPoint)

/-! ## The target -/

/-- A day above this is flagged. -/
def bulkThreshold : ℚ :=
  max BULK_ABS_FLOOR (BULK_MULT * bulkBaseline rows)

/-- What a flagged day is brought down to. -/
def bulkTarget : ℚ :=
  max (BULK_ABS_FLOOR - 1) (jsRound (BULK_CAP_MULT * bulkBaseline rows))

/-- A day total once it is cleaned. -/
def levelled (units : ℚ) : ℚ :=
  if 0 < bulkBaseline rows ∧ bulkThreshold rows < units then bulkTarget rows else units

/-- The target is not flagged itself. -/
theorem bulkTarget_le (hbaseline : 0 < bulkBaseline rows) :
    bulkTarget rows ≤ bulkThreshold rows := by
  have hround := (jsRound_bounds (BULK_CAP_MULT * bulkBaseline rows)).2
  rw [bulkTarget, bulkThreshold]
  rw [BULK_CAP_MULT] at hround ⊢
  rw [BULK_ABS_FLOOR, BULK_MULT]
  refine max_le (le_max_of_le_left (by norm_num)) ?_
  -- below a quarter of a unit the floor covers the rounding, above it the multiple does
  rcases le_total (bulkBaseline rows) (1 / 4) with hsmall | hlarge
  · exact le_max_of_le_left (by linarith)
  · exact le_max_of_le_right (by linarith)

/-- The target is at least twice the median day. -/
theorem le_bulkTarget (hbaseline : 0 < bulkBaseline rows) :
    2 * bulkBaseline rows ≤ bulkTarget rows := by
  have hround := (jsRound_bounds (BULK_CAP_MULT * bulkBaseline rows)).1
  rw [bulkTarget]
  rw [BULK_CAP_MULT] at hround ⊢
  rw [BULK_ABS_FLOOR]
  -- up to half a unit the floor is at least twice the median, above it three medians less half a
  -- unit are
  rcases le_total (bulkBaseline rows) (1 / 2) with hsmall | hlarge
  · exact le_max_of_le_left (by linarith)
  · exact le_max_of_le_right (by linarith)

/-- Cleaned days are not above the threshold. -/
theorem levelled_le (hbaseline : 0 < bulkBaseline rows) (units : ℚ) :
    levelled rows units ≤ bulkThreshold rows := by
  rw [levelled]
  split
  · exact bulkTarget_le rows hbaseline
  · rename_i hflag
    exact not_lt.mp fun hlt => hflag ⟨hbaseline, hlt⟩

/-- A day that sold more than it took back still does once it is cleaned. -/
theorem levelled_pos_iff (units : ℚ) : 0 < levelled rows units ↔ 0 < units := by
  rw [levelled]
  split
  · rename_i hflag
    -- a flagged total is above the floor, and so is its target
    have hfloor : (0 : ℚ) < BULK_ABS_FLOOR := by norm_num [BULK_ABS_FLOOR]
    have htarget : 0 < bulkTarget rows := lt_max_of_lt_left (by norm_num [BULK_ABS_FLOOR])
    have hunits : 0 < units := (hfloor.trans_le (le_max_left _ _)).trans hflag.2
    exact iff_of_true htarget hunits
  · exact Iff.rfl

/-! ## Day totals -/

/-- The factor on what is sold on a day. -/
def scaleOn (k : ℤ) : ℚ :=
  (((bulkCaps rows).find? fun cap => cap.date = k).map (bulkFactor rows)).getD 1

/-- Cleaning scales what a day sold. -/
theorem totalIn_soldPart_debulkPoint (k : ℤ) :
    totalIn (bulkTotals (rows.map (debulkPoint rows)) soldPart) k
      = scaleOn rows k * totalIn (bulkTotals rows soldPart) k := by
  rw [totalIn_bulkTotals, totalIn_bulkTotals, weighted_soldPart_debulkPoint, weighted, weighted,
    ← List.sum_map_mul_left]
  refine congrArg List.sum (List.map_congr_left fun p _ => ?_)
  have hscale : bulkScale rows p.date = scaleOn rows (dayKeyOf p.date) := rfl
  rw [hscale]
  split
  · rename_i hday
    rw [hday]
    ring
  · ring

/-- Cleaning leaves what a day took back. -/
theorem totalIn_returnedPart_debulkPoint (k : ℤ) :
    totalIn (bulkTotals (rows.map (debulkPoint rows)) returnedPart) k
      = totalIn (bulkTotals rows returnedPart) k := by
  rw [totalIn_bulkTotals, totalIn_bulkTotals, weighted_returnedPart_debulkPoint]

/-- A day comes to what it sold and what it took back. -/
theorem totalIn_id (k : ℤ) : totalIn (bulkTotals rows id) k
    = totalIn (bulkTotals rows soldPart) k + totalIn (bulkTotals rows returnedPart) k := by
  rw [totalIn_bulkTotals, totalIn_bulkTotals, totalIn_bulkTotals, weighted_id]

/-- A capped day comes to its cap. -/
theorem totalIn_of_mem_bulkCaps {cap : BulkCap} (hcap : cap ∈ bulkCaps rows) :
    totalIn (bulkTotals (rows.map (debulkPoint rows)) id) cap.date = cap.capped := by
  -- a day has one cap, so the first that is found is this one
  have hfind : (bulkCaps rows).find? (fun other => other.date = cap.date) = some cap := by
    cases hother : (bulkCaps rows).find? fun other => other.date = cap.date with
    | none => exact absurd (List.find?_eq_none.mp hother cap hcap) (by simp)
    | some other =>
        have hdate : other.date = cap.date := by
          simpa only [decide_eq_true_eq] using List.find?_some hother
        rw [bulkCap_unique rows (List.mem_of_find?_eq_some hother) hcap hdate]
  have hsold := bulkSold_pos rows hcap
  have hreturned : bulkFactor rows cap
      = (cap.capped - totalIn (bulkTotals rows returnedPart) cap.date)
        / totalIn (bulkTotals rows soldPart) cap.date := rfl
  rw [totalIn_id, totalIn_soldPart_debulkPoint, totalIn_returnedPart_debulkPoint, scaleOn, hfind,
    Option.map_some, Option.getD_some, hreturned, div_mul_cancel₀ _ hsold.ne', sub_add_cancel]

/-- A day that is not capped comes to what it did. -/
theorem totalIn_of_not_capped {k : ℤ} (h : ∀ cap ∈ bulkCaps rows, cap.date ≠ k) :
    totalIn (bulkTotals (rows.map (debulkPoint rows)) id) k = totalIn (bulkTotals rows id) k := by
  have hfind : (bulkCaps rows).find? (fun cap => cap.date = k) = none := by
    rw [List.find?_eq_none]
    intro cap hcap
    rw [decide_eq_true_eq]
    exact h cap hcap
  rw [totalIn_id, totalIn_id rows, totalIn_soldPart_debulkPoint, totalIn_returnedPart_debulkPoint,
    scaleOn, hfind, Option.map_none, Option.getD_none, one_mul]

/-- Every day of the rows is levelled. -/
theorem totalIn_debulkPoint (k : ℤ) (hk : k ∈ (bulkTotals rows id).map Prod.fst) :
    totalIn (bulkTotals (rows.map (debulkPoint rows)) id) k
      = levelled rows (totalIn (bulkTotals rows id) k) := by
  obtain ⟨day, hday, rfl⟩ := List.mem_map.mp hk
  have htotal : totalIn (bulkTotals rows id) day.1 = day.2 :=
    totalIn_of_mem (nodup_keys_tally _) hday
  rw [levelled, htotal]
  split
  · rename_i hflag
    -- a flagged day has a cap, which is its target because the total is above it
    have hcap : bulkCap (bulkBaseline rows) day ∈ bulkCaps rows := by
      rw [bulkCaps]
      refine (if_pos hflag.1).symm ▸ List.mem_map.mpr ⟨day, List.mem_filter.mpr ⟨hday, ?_⟩, rfl⟩
      exact decide_eq_true hflag.2
    refine (totalIn_of_mem_bulkCaps rows hcap).trans (min_eq_right ?_)
    exact (bulkTarget_le rows hflag.1).trans hflag.2.le
  · rename_i hflag
    rw [totalIn_of_not_capped, htotal]
    -- a cap of the day would come from its total, which is not flagged
    intro cap hcap hdate
    obtain ⟨other, hother, hlarge, rfl⟩ := exists_day_of_mem_bulkCaps rows hcap
    have hunits : other.2 = day.2 := by
      rw [← htotal, ← totalIn_of_mem (nodup_keys_tally _) hother]
      exact congrArg _ hdate
    exact hflag ⟨bulkBaseline_pos rows hcap, hunits ▸ hlarge⟩

/-- The days of cleaned rows are those of the rows. -/
theorem keys_debulkPoint (part : ℚ → ℚ) :
    ((rows.map (debulkPoint rows)).map fun p => (dayKeyOf p.date, part p.quantity)).map Prod.fst
      = (rows.map fun p => (dayKeyOf p.date, part p.quantity)).map Prod.fst := by
  rw [List.map_map, List.map_map, List.map_map]
  refine List.map_congr_left fun p _ => ?_
  show dayKeyOf (debulkPoint rows p).date = dayKeyOf p.date
  rw [debulkPoint_date]

/-- The day totals of cleaned rows are the levelled totals. -/
theorem values_debulkPoint :
    ((bulkTotals (rows.map (debulkPoint rows)) id).map Prod.snd).Perm
      (((bulkTotals rows id).map Prod.snd).map (levelled rows)) := by
  set before := rows.map fun p => (dayKeyOf p.date, id p.quantity) with hbefore
  set after := (rows.map (debulkPoint rows)).map fun p => (dayKeyOf p.date, id p.quantity)
    with hafter
  have hkeys : after.map Prod.fst = before.map Prod.fst := keys_debulkPoint rows id
  -- both list the days of the rows once, and day by day they agree
  refine (values_tally_perm after).trans ?_
  refine List.Perm.trans ?_ ((values_tally_perm before).map (levelled rows)).symm
  rw [hkeys]
  refine List.Perm.of_eq (Eq.trans (List.map_congr_left fun k hk => ?_) List.map_map.symm)
  rw [Function.comp_apply, ← totalIn_tally, ← totalIn_tally]
  exact totalIn_debulkPoint rows k ((mem_keys_tally before k).mpr (List.mem_dedup.mp hk))

/-! ## The median and the flags -/

/-- Cleaning does not move the median day. -/
theorem bulkBaseline_debulkPoint :
    bulkBaseline (rows.map (debulkPoint rows)) = bulkBaseline rows := by
  set sold := ((bulkTotals rows id).map Prod.snd).filter (0 < ·) with hsold
  -- levelling keeps which days are positive, so the median is one of the levelled days
  have hpositive : (((bulkTotals rows id).map Prod.snd).map (levelled rows)).filter (0 < ·)
      = sold.map (levelled rows) := by
    rw [hsold, List.filter_map]
    refine congrArg (List.map _) (List.filter_congr fun units _ => ?_)
    rw [Function.comp_apply, decide_eq_decide]
    exact levelled_pos_iff rows units
  have hbaseline : bulkBaseline rows = median sold := rfl
  have hnonneg : ∀ units ∈ sold, 0 ≤ units :=
    fun units hunits => (of_decide_eq_true (List.mem_filter.mp hunits).2).le
  have hmiddle : upperMiddle sold ≤ 2 * bulkBaseline rows := upperMiddle_le hnonneg
  rw [bulkBaseline, median_perm ((values_debulkPoint rows).filter _), hpositive, hbaseline]
  -- only days above the middle are flagged, and their target is above it too
  refine median_map (fun units _ hle => if_neg ?_) (fun units _ hlt => ?_)
  · rintro ⟨hpos, hflag⟩
    have hmult : BULK_MULT * bulkBaseline rows ≤ bulkThreshold rows := le_max_right _ _
    rw [BULK_MULT] at hmult
    linarith
  · rw [levelled]
    split
    · rename_i hflag
      exact hmiddle.trans (le_bulkTarget rows hflag.1)
    · exact hlt.le

/-- Nothing is flagged in cleaned rows. -/
theorem bulkCaps_debulkPoint : bulkCaps (rows.map (debulkPoint rows)) = [] := by
  rw [List.eq_nil_iff_forall_not_mem]
  intro cap hcap
  have hpos := bulkBaseline_pos _ hcap
  obtain ⟨day, hday, hlarge, -⟩ := exists_day_of_mem_bulkCaps _ hcap
  rw [bulkBaseline_debulkPoint] at hpos hlarge
  -- a day that is flagged again has a levelled total above the threshold it was levelled to
  have hmem : day.2 ∈ ((bulkTotals rows id).map Prod.snd).map (levelled rows) :=
    (values_debulkPoint rows).mem_iff.mp (List.mem_map_of_mem hday)
  obtain ⟨units, -, heq⟩ := List.mem_map.mp hmem
  exact absurd (heq ▸ levelled_le rows hpos units) (not_le.mpr hlarge)

/-- Rows without flagged days are left as they are. -/
theorem debulkPoint_of_no_caps {evidence : List SalesPoint} (h : bulkCaps evidence = [])
    (p : SalesPoint) : debulkPoint evidence p = p := by
  rw [debulkPoint, h]
  rfl

end Evidence

/-! ## The cleaned series -/

section Series

variable (history : List SalesPoint) (asOf : Option Time) (excludedDates : List Time)

/-- The evidence of a cleaned series is the cleaned evidence. -/
theorem bulkEvidence_debulkSeries (excluded : Finset ℤ) (evidence : List SalesPoint) :
    bulkEvidence (history.map (debulkPoint evidence)) asOf excluded
      = (bulkEvidence history asOf excluded).map (debulkPoint evidence) := by
  rw [bulkEvidence, bulkEvidence, List.filter_map]
  refine congrArg (List.map _) (List.filter_congr fun p _ => ?_)
  rw [Function.comp_apply, debulkPoint_date]

/-- A row of a flagged day is evidence. -/
theorem evidence_of_mem_bulkCaps {excluded : Finset ℤ} {cap : BulkCap}
    (hcap : cap ∈ bulkCaps (bulkEvidence history asOf excluded)) (d : Time)
    (hday : dayKeyOf d = cap.date) :
    (asOf.all fun d' => dayKeyOf d < dayKeyOf d') ∧ dayKeyOf d ∉ excluded := by
  obtain ⟨day, hmem, -, rfl⟩ := exists_day_of_mem_bulkCaps _ hcap
  have hkey : day.1 ∈ ((bulkEvidence history asOf excluded).map fun p =>
      (dayKeyOf p.date, id p.quantity)).map Prod.fst :=
    (mem_keys_tally _ _).mp (List.mem_map_of_mem hmem)
  rw [List.map_map, List.mem_map] at hkey
  obtain ⟨p, hp, hdate⟩ := hkey
  have hsame : dayKeyOf d = dayKeyOf p.date := hday.trans hdate.symm
  rw [hsame]
  exact of_decide_eq_true (List.mem_filter.mp hp).2

/-- The units of a day are found among the rows of any days that include it. -/
theorem sumQty_day {k : ℤ} {keep : Time → Bool} (hkeep : ∀ d, dayKeyOf d = k → keep d = true)
    (series : List SalesPoint) :
    sumQty (series.filter fun p => dayKeyOf p.date = k)
      = weighted (fun d => if dayKeyOf d = k then 1 else 0) id
        (series.filter fun p => keep p.date) := by
  have hday := weighted_filter 1 id series fun d => decide (dayKeyOf d = k)
  rw [sumQty_eq_weighted, hday, weighted_filter]
  -- the days that are kept include all of this one
  refine congrArg (fun weight => weighted weight id series) (funext fun d => ?_)
  by_cases hd : dayKeyOf d = k
  · rw [if_pos (decide_eq_true hd), if_pos (hkeep d hd), if_pos hd]
    rfl
  · have hnot : ¬ decide (dayKeyOf d = k) = true := fun h => hd (of_decide_eq_true h)
    rw [if_neg hnot, if_neg hd, ite_self]

end Series

/-- A row that is no sale, or of no flagged day, is left as it is. -/
theorem debulkPoint_eq_self {evidence : List SalesPoint} {p : SalesPoint}
    (h : p.quantity ≤ 0 ∨ ∀ cap ∈ bulkCaps evidence, cap.date ≠ dayKeyOf p.date) :
    debulkPoint evidence p = p := by
  rw [debulkPoint]
  split
  · rename_i cap hfind
    split
    · rename_i hsold
      have hdate : cap.date = dayKeyOf p.date := by
        simpa only [decide_eq_true_eq] using List.find?_some hfind
      exact absurd hdate (h.resolve_left (not_le.mpr hsold) cap (List.mem_of_find?_eq_some hfind))
    · rfl
  · rfl

end Restock.Forecast
