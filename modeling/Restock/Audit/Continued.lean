import Restock.Audit.Cells
import Restock.Series.StableSort

/-!
# Weekly frames that go on

The weekly steps look back only, so the weeks of a series are cleaned as they were when later weeks
come in. What the later weeks can do is to complete a run of capped weeks: then the level has
shifted, and the cap of the whole run is lifted, which started less than a run's length before.

* `cleanWeekly` — the weekly steps of the chain but those of availability;
* `correctPanel_eq` — the chain takes these steps once the stocked days are there;
* `ofSeries_cleanWeekly` — what they make of a series depends on its own weeks;
* `cappedSeries_isPrefix` — up to the caps, a longer series starts as the shorter one;
* `capped_of_shiftFrom` — a level shift starts with capped weeks;
* `Continues`, `cleanWeekly_continued` — what a continuation leaves alone.
-/

namespace Restock.Audit

open Series (scan)

/-! ## Series of a frame -/

/-- The rows of a series. -/
def ofSeries (rows : List PanelRow) (series : SeriesKey) : List PanelRow :=
  rows.filter fun r => r.series = series

theorem cellLe_trans {a b c : SeriesKey × ℤ} (hab : cellLe a b) (hbc : cellLe b c) :
    cellLe a c := by
  unfold cellLe at *
  grind

theorem cellLe_total (a b : SeriesKey × ℤ) : cellLe a b ∨ cellLe b a := by
  unfold cellLe
  grind

instance : IsTrans PanelRow fun a b => cellLe a.cell b.cell :=
  ⟨fun _ _ _ => cellLe_trans⟩

instance : Std.Total fun a b : PanelRow => cellLe a.cell b.cell :=
  ⟨fun a b => cellLe_total a.cell b.cell⟩

/-- Sorting treats every series by itself. -/
theorem ofSeries_sortRows (rows : List PanelRow) (series : SeriesKey) :
    ofSeries (sortRows rows) series = sortRows (ofSeries rows series) :=
  Series.filter_insertionSort _ _ rows

/-- Rows with the cells of a sorted frame are sorted. -/
theorem sortRows_of_core {rows sorted : List PanelRow}
    (h : rows.map PanelRow.core = (sortRows sorted).map PanelRow.core) : sortRows rows = rows := by
  have hcells : rows.map PanelRow.cell = (sortRows sorted).map PanelRow.cell := by
    have := congrArg (List.map Prod.fst) h
    rwa [List.map_map, List.map_map] at this
  refine List.Pairwise.insertionSort_eq ?_
  have hsorted : (sortRows sorted).Pairwise fun a b => cellLe a.cell b.cell :=
    List.pairwise_insertionSort _ sorted
  rw [← List.pairwise_map (R := cellLe)] at hsorted ⊢
  rwa [hcells]

/-- A step on every series, seen on one. -/
theorem ofSeries_perSeries {step : List PanelRow → List PanelRow}
    (hstep : ∀ rows, (step rows).map PanelRow.core = rows.map PanelRow.core)
    (rows : List PanelRow) (series : SeriesKey) :
    ofSeries (perSeries step rows) series = step (ofSeries rows series) := by
  have hpart : ∀ key ∈ (rows.map PanelRow.series).eraseDups,
      ∀ r ∈ step (ofSeries rows key), r.series = key := by
    intro key _ r hr
    have hcore := List.mem_map_of_mem (f := PanelRow.core) hr
    rw [hstep] at hcore
    obtain ⟨r', hr', heq⟩ := List.mem_map.mp hcore
    have hseries : r'.series = r.series := congrArg (fun core => core.1.1) heq
    rw [← hseries]
    exact of_decide_eq_true (List.mem_filter.mp hr').2
  rw [ofSeries, perSeries]
  refine (Series.filter_flatMap_parts (Series.nodup_eraseDups _) hpart series).trans ?_
  split
  case isTrue => rfl
  case isFalse hnone =>
      have hnil : ofSeries rows series = [] := by
        refine List.filter_eq_nil_iff.mpr fun r hr h => hnone ?_
        rw [← of_decide_eq_true h]
        exact List.mem_eraseDups.mpr (List.mem_map_of_mem hr)
      have hlength := congrArg List.length (hstep [])
      rw [hnil]
      rw [List.length_map, List.map_nil, List.length_nil] at hlength
      exact (List.eq_nil_of_length_eq_zero hlength).symm

/-! ## The weekly steps -/

section Code

variable (config : Config)

/-- The thirteenth and fourteenth step on a row. -/
def coveredRow (r : PanelRow) : PanelRow :=
  minCoverage config (correctAvailability config r)

/-- The steps 10, 13, 14, 15 and 16 on a weekly frame. -/
def cleanWeekly (frame : List PanelRow) : List PanelRow :=
  let promos := perSeries (promoRetro config) (sortRows frame)
  let covered := promos.map (coveredRow config)
  let capped := perSeries (winsorize config) (sortRows covered)
  perSeries (levelShift config) (sortRows capped)

/-- The steps 10 to 15 on the sorted weeks of a series. -/
def cappedSeries (rows : List PanelRow) : List PanelRow :=
  winsorize config ((promoRetro config rows).map (coveredRow config))

@[simp] theorem core_coveredRow (r : PanelRow) : (coveredRow config r).core = r.core := rfl

theorem core_map_coveredRow (rows : List PanelRow) :
    (rows.map (coveredRow config)).map PanelRow.core = rows.map PanelRow.core := by
  rw [List.map_map]
  rfl

theorem core_cappedSeries (rows : List PanelRow) :
    (cappedSeries config rows).map PanelRow.core = rows.map PanelRow.core := by
  rw [cappedSeries, core_winsorize, core_map_coveredRow, core_promoRetro]

/-- What the weekly steps make of a series depends on its own weeks. -/
theorem ofSeries_cleanWeekly (frame : List PanelRow) (series : SeriesKey) :
    ofSeries (cleanWeekly config frame) series =
      levelShift config (cappedSeries config (sortRows (ofSeries frame series))) := by
  have hcovered : ∀ rows, ofSeries (rows.map (coveredRow config)) series =
      (ofSeries rows series).map (coveredRow config) := by
    intro rows
    rw [ofSeries, List.filter_map]
    rfl
  rw [cleanWeekly, ofSeries_perSeries (core_levelShift config), ofSeries_sortRows,
    ofSeries_perSeries (core_winsorize config), ofSeries_sortRows, hcovered,
    ofSeries_perSeries (core_promoRetro config), ofSeries_sortRows]
  -- the series is sorted once and for all
  set rows := ofSeries frame series
  have hcore : ((promoRetro config (sortRows rows)).map (coveredRow config)).map PanelRow.core =
      (sortRows rows).map PanelRow.core :=
    (core_map_coveredRow config _).trans (core_promoRetro config (sortRows rows))
  rw [sortRows_of_core hcore, ← cappedSeries,
    sortRows_of_core (core_cappedSeries config (sortRows rows))]

/-! ## The steps of the chain -/

/-- A step on every series of changed rows, where the step changes nothing that the change looks
at. -/
theorem perSeries_map {step : List PanelRow → List PanelRow} {g : PanelRow → PanelRow}
    (hg : ∀ r, (g r).series = r.series) (hstep : ∀ rows, step (rows.map g) = (step rows).map g)
    (rows : List PanelRow) : perSeries step (rows.map g) = (perSeries step rows).map g := by
  have hseries : (rows.map g).map PanelRow.series = rows.map PanelRow.series := by
    rw [List.map_map]
    exact List.map_congr_left fun r _ => hg r
  rw [perSeries, perSeries, hseries, List.map_flatMap]
  refine List.flatMap_congr fun series _ => ?_
  have hfilter : (rows.map g).filter (fun r => r.series = series) =
      (rows.filter fun r => r.series = series).map g := by
    rw [List.filter_map]
    refine congrArg (List.map g) (List.filter_congr fun r _ => ?_)
    simp only [Function.comp_apply, hg]
  rw [hfilter, hstep]

/-- The steps 10 to 15 of the chain are those of `cleanWeekly` on a frame that has its stocked days
already. -/
theorem correctPanel_eq (source : AvailabilitySource) (daily : List DailyRow)
    (filled : List PanelRow) :
    perSeries (levelShift config) (sortRows (correctPanel config source daily filled)) =
      cleanWeekly config (filled.map (withAvailability (source.inStockDays daily config).1
        (source.inStockDays daily config).2)) := by
  set cover := withAvailability (source.inStockDays daily config).1
    (source.inStockDays daily config).2
  have hpromo : ∀ rows : List PanelRow,
      promoRetro config (rows.map cover) = (promoRetro config rows).map cover := by
    intro rows
    have hprices : (rows.map cover).map PanelRow.priceMedian = rows.map PanelRow.priceMedian := by
      rw [List.map_map]
      rfl
    apply List.ext_getElem
    · simp [promoRetro]
    · intro t _ _
      simp only [promoRetro, hprices, List.getElem_mapIdx, List.getElem_map]
      rfl
  have hsort : sortRows (filled.map cover) = (sortRows filled).map cover :=
    (List.map_insertionSort _ _ cover filled fun _ _ _ _ => Iff.rfl).symm
  have hseries : ∀ r, (cover r).series = r.series := fun _ => rfl
  rw [cleanWeekly, hsort, perSeries_map hseries hpromo, List.map_map]
  rfl

/-! ## A longer series -/

/-- The trailing median at a place looks at what is before it. -/
theorem trailingMedian_prefix {xs ys : List (Option ℚ)} (h : xs <+: ys) (window : ℕ) {t : ℕ}
    (ht : t ≤ xs.length) : trailingMedian ys window t = trailingMedian xs window t := by
  obtain ⟨rest, rfl⟩ := h
  rw [trailingMedian, trailingMedian, List.take_append_of_le_length ht]

/-- The promotions of a longer series start as those of the shorter one. -/
theorem promoRetro_isPrefix {xs ys : List PanelRow} (h : xs <+: ys) :
    promoRetro config xs <+: promoRetro config ys := by
  rw [List.prefix_iff_getElem?]
  intro t ht
  have hlt : t < xs.length := by rwa [promoRetro, List.length_mapIdx] at ht
  have hprices := h.map PanelRow.priceMedian
  simp only [promoRetro, List.getElem?_mapIdx, List.getElem_mapIdx]
  rw [List.prefix_iff_getElem?.mp h t hlt, Option.map_some,
    trailingMedian_prefix hprices _ (by rw [List.length_map]; omega)]

/-- Up to the caps, a longer series starts as the shorter one. -/
theorem cappedSeries_isPrefix {xs ys : List PanelRow} (h : xs <+: ys) :
    cappedSeries config xs <+: cappedSeries config ys :=
  Series.scan_prefix (winsorizeRow config) ((promoRetro_isPrefix config h).map (coveredRow config))

end Code

/-! ## Where a level shift starts -/

section Shift

variable {consecutive : ℤ}

/-- The capped weeks in a row up to a week, after those before it. -/
def runOn (run : ℤ) (r : PanelRow) : ℤ :=
  if r.winsorizeCappedFlag then run + 1 else 0

theorem shiftFrom_cons (i run : ℤ) (r : PanelRow) (rows : List PanelRow) :
    shiftFrom consecutive i run (r :: rows) =
      if consecutive ≤ runOn run r then some (i - consecutive + 1)
      else shiftFrom consecutive (i + 1) (runOn run r) rows := rfl

/-- A level shift is found at the place where its last week is looked at, or after it. -/
theorem lt_add_of_shiftFrom {i run shift : ℤ} {rows : List PanelRow}
    (h : shiftFrom consecutive i run rows = some shift) : i < shift + consecutive := by
  induction rows generalizing i run with
  | nil => cases h
  | cons r rows ih =>
      rw [shiftFrom_cons] at h
      split at h
      · have := Option.some.inj h
        omega
      · have := ih h
        omega

/-- A level shift starts with as many capped weeks as are asked for. `before` are the weeks that are
looked at already, the last `run` of which are capped. -/
theorem capped_of_shiftFrom {before rows : List PanelRow} {run shift : ℤ}
    (hrun : ∀ (t : ℕ) (r : PanelRow), before[t]? = some r → (before.length : ℤ) - run ≤ t →
      r.winsorizeCappedFlag = true)
    (h : shiftFrom consecutive before.length run rows = some shift) {t : ℕ} {r : PanelRow}
    (ht : (before ++ rows)[t]? = some r) (hshift : shift ≤ t)
    (hend : (t : ℤ) < shift + consecutive) : r.winsorizeCappedFlag = true := by
  induction rows generalizing before run with
  | nil => cases h
  | cons week rows ih =>
      rw [shiftFrom_cons] at h
      -- the run is kept up by a capped week, and starts again after another one
      have hrun' : ∀ (t : ℕ) (r : PanelRow), (before ++ [week])[t]? = some r →
          ((before ++ [week]).length : ℤ) - runOn run week ≤ t → r.winsorizeCappedFlag = true := by
        intro t r ht hle
        have hlt := (List.getElem?_eq_some_iff.mp ht).1
        rw [List.length_append, List.length_singleton] at hle hlt
        rw [runOn] at hle
        by_cases hcapped : week.winsorizeCappedFlag = true
        · rw [if_pos hcapped] at hle
          rcases Nat.lt_or_ge t before.length with hbefore | hlast
          · rw [List.getElem?_append_left hbefore] at ht
            exact hrun t r ht (by omega)
          · obtain rfl : t = before.length := by omega
            rw [List.getElem?_concat_length] at ht
            rwa [← Option.some.inj ht]
        · rw [if_neg hcapped] at hle
          omega
      rw [List.append_cons] at ht
      split at h
      · have hstart := Option.some.inj h
        have hlast : t < (before ++ [week]).length := by
          rw [List.length_append, List.length_singleton]
          omega
        rw [List.getElem?_append_left hlast] at ht
        refine hrun' t r ht ?_
        rw [List.length_append, List.length_singleton]
        omega
      · have hlength : ((before ++ [week]).length : ℤ) = before.length + 1 := by
          rw [List.length_append, List.length_singleton]
          rfl
        rw [← hlength] at h
        exact ih hrun' h ht

/-- A level shift that is found is found in a longer series as well. -/
theorem shiftFrom_append (consecutive : ℤ) (xs ys : List PanelRow) (i run : ℤ) :
    shiftFrom consecutive i run (xs ++ ys) = shiftFrom consecutive i run xs ∨
      ∃ run', shiftFrom consecutive i run xs = none ∧
        shiftFrom consecutive i run (xs ++ ys) =
          shiftFrom consecutive (i + xs.length) run' ys := by
  induction xs generalizing i run with
  | nil => exact Or.inr ⟨run, rfl, by simp⟩
  | cons week xs ih =>
      rw [List.cons_append, shiftFrom_cons, shiftFrom_cons]
      split
      · exact Or.inl rfl
      · rcases ih (i + 1) (runOn run week) with h | ⟨run', hxs, h⟩
        · exact Or.inl h
        · refine Or.inr ⟨run', hxs, ?_⟩
          rw [h, List.length_cons]
          congr 1
          omega

end Shift

section Code

variable (config : Config)

/-- What the step makes of a week: from the start of a level shift on, its cap is lifted. -/
theorem getElem?_levelShift (rows : List PanelRow) (t : ℕ) :
    (levelShift config rows)[t]? = rows[t]?.map fun r =>
      if (shiftFrom config.baseline.levelShiftConsecutiveWeeks 0 0 rows).any fun shift =>
        shift ≤ (t : ℤ)
      then uncap r else { r with levelShiftFlag := false } := by
  rw [levelShift]
  cases shiftFrom config.baseline.levelShiftConsecutiveWeeks 0 0 rows with
  | none => simp
  | some shift => simp

/-- Of the weeks of a series that goes on, the last ones alone can change, and then their cap is
lifted. -/
theorem levelShift_prefix {xs ys : List PanelRow} (h : xs <+: ys) {t : ℕ} {e : PanelRow}
    (he : (levelShift config xs)[t]? = some e) :
    ∃ w, (levelShift config ys)[t]? = some w ∧
      (w = e ∨ (xs.length : ℤ) < t + config.baseline.levelShiftConsecutiveWeeks ∧
        e.winsorizeCappedFlag = true ∧ w = uncap e) := by
  rw [getElem?_levelShift, Option.map_eq_some_iff] at he
  obtain ⟨r, hr, rfl⟩ := he
  have hlt := (List.getElem?_eq_some_iff.mp hr).1
  have hr' : ys[t]? = some r := by
    rw [List.prefix_iff_getElem?.mp h t hlt]
    exact (List.getElem?_eq_getElem hlt).symm.trans hr
  rw [getElem?_levelShift, hr', Option.map_some]
  refine ⟨_, rfl, ?_⟩
  obtain ⟨rest, rfl⟩ := h
  rcases shiftFrom_append config.baseline.levelShiftConsecutiveWeeks xs rest 0 0
    with hsame | ⟨run, hnone, hfound⟩
  · rw [hsame]
    exact Or.inl rfl
  rw [hnone]
  cases hshift : shiftFrom config.baseline.levelShiftConsecutiveWeeks 0 0 (xs ++ rest) with
  | none => exact Or.inl rfl
  | some shift =>
      by_cases hle : shift ≤ t
      · -- the shift is completed by a later week, so it starts less than its length before
        rw [hshift] at hfound
        have hend := lt_add_of_shiftFrom hfound.symm
        have hcapped : r.winsorizeCappedFlag = true := by
          have hnone : ∀ (t : ℕ) (r : PanelRow), ([] : List PanelRow)[t]? = some r →
              (([] : List PanelRow).length : ℤ) - 0 ≤ t → r.winsorizeCappedFlag = true :=
            fun _ _ hnil => by cases hnil
          exact capped_of_shiftFrom hnone hshift hr' hle (by omega)
        refine Or.inr ⟨by omega, ?_⟩
        simp [hle, hcapped, uncap]
      · refine Or.inl ?_
        simp [hle]

/-! ## Continuations -/

/-- A frame that another one continues: from some week of each series on, the other has rows that it
has not. -/
def Continues (whole earlier : List PanelRow) : Prop :=
  ∃ first : SeriesKey → ℤ, earlier = whole.filter fun r => r.weekStart < first r.series

/-- The weeks of a series are the first ones of its continuation. -/
theorem Continues.sortRows_prefix {whole earlier : List PanelRow} (h : Continues whole earlier)
    (series : SeriesKey) :
    sortRows (ofSeries earlier series) <+: sortRows (ofSeries whole series) := by
  obtain ⟨first, rfl⟩ := h
  have hcut : ofSeries (whole.filter fun r => r.weekStart < first r.series) series =
      (ofSeries whole series).filter fun r => r.weekStart < first r.series := by
    rw [ofSeries, ofSeries, List.filter_comm]
  have hsorted : (sortRows (ofSeries whole series)).Pairwise fun a b => cellLe a.cell b.cell :=
    List.pairwise_insertionSort _ _
  have hmem : ∀ r ∈ sortRows (ofSeries whole series), r.series = series := fun r hr =>
    of_decide_eq_true (List.mem_filter.mp ((sortRows_perm _).mem_iff.mp hr)).2
  rw [hcut, sortRows, ← Series.filter_insertionSort]
  refine Series.filter_prefix hsorted fun a ha b hb hab hb' => ?_
  -- within a series the order of the cells is that of the weeks
  have hweek : a.weekStart ≤ b.weekStart := by
    rw [cellLe, PanelRow.cell, PanelRow.cell, hmem a ha, hmem b hb] at hab
    rcases hab with hlt | ⟨-, hlt | ⟨-, hle⟩⟩
    · exact absurd hlt (String.lt_irrefl _)
    · exact absurd hlt (String.lt_irrefl _)
    · exact hle
  rw [decide_eq_true_iff, hmem b hb] at hb'
  rw [decide_eq_true_iff, hmem a ha]
  exact hweek.trans_lt hb'

/-- **Weekly cleaning rewrites history within the level-shift horizon only.** When the series of a
frame go on with later weeks, each of its weeks keeps its promo flag, its usable flag and its
corrected units, except that a capped one among the last weeks, less than the length of a level
shift before the end, can get back its units before the cap, with the level-shift flag set. -/
theorem cleanWeekly_continued {whole earlier : List PanelRow} (h : Continues whole earlier)
    (series : SeriesKey) {t : ℕ} {e : PanelRow}
    (he : (ofSeries (cleanWeekly config earlier) series)[t]? = some e) :
    ∃ w, (ofSeries (cleanWeekly config whole) series)[t]? = some w ∧
      w.core = e.core ∧ w.promoFlag = e.promoFlag ∧ w.usable = e.usable ∧
      (w.unitsCorrected = e.unitsCorrected ∨
        (((ofSeries earlier series).length : ℤ)
            - (config.baseline.levelShiftConsecutiveWeeks - 1) ≤ t ∧
          e.winsorizeCappedFlag = true ∧ w.unitsPrecap = e.unitsPrecap ∧
          w.unitsCorrected = w.unitsPrecap ∧ w.levelShiftFlag = true)) := by
  rw [ofSeries_cleanWeekly] at he ⊢
  have hlength : (cappedSeries config (sortRows (ofSeries earlier series))).length =
      (ofSeries earlier series).length := by
    have := congrArg List.length (core_cappedSeries config (sortRows (ofSeries earlier series)))
    rwa [List.length_map, List.length_map, (sortRows_perm _).length_eq] at this
  obtain ⟨w, hw, hcases⟩ := levelShift_prefix config
    (cappedSeries_isPrefix config (h.sortRows_prefix series)) he
  refine ⟨w, hw, ?_⟩
  rcases hcases with rfl | ⟨hlast, hcapped, rfl⟩
  · exact ⟨rfl, rfl, rfl, Or.inl rfl⟩
  · rw [hlength] at hlast
    exact ⟨rfl, rfl, rfl, Or.inr ⟨by omega, hcapped, rfl, if_pos hcapped, rfl⟩⟩

end Code

/-- A week of a series. -/
private def spikeWeek (number : ℤ) (units : ℚ) : PanelRow where
  series := { sku := "S0", location := "ALL" }
  weekStart := 4 + 7 * number
  unitsRaw := units

/-- A series that ends with a spike. -/
private def spikeSeries : List PanelRow :=
  [spikeWeek 0 2, spikeWeek 1 2, spikeWeek 2 10]

/-- Two capped weeks are a level shift. -/
private def twoWeeks : Config :=
  { baseline := { levelShiftConsecutiveWeeks := 2 } }

/-- The spike is capped, and gets its units back when another one follows. -/
theorem cleanWeekly_continued_spike :
    ∃ e w, (ofSeries (cleanWeekly twoWeeks spikeSeries) (spikeWeek 0 2).series)[2]? = some e ∧
      (ofSeries (cleanWeekly twoWeeks (spikeSeries ++ [spikeWeek 3 10]))
        (spikeWeek 0 2).series)[2]? = some w ∧
      e.unitsCorrected = 4 ∧ w.unitsCorrected = 10 := by
  have hcontinues : Continues (spikeSeries ++ [spikeWeek 3 10]) spikeSeries :=
    ⟨fun _ => 25, by decide +kernel⟩
  have he : (ofSeries (cleanWeekly twoWeeks spikeSeries) (spikeWeek 0 2).series)[2]? =
      some { spikeWeek 2 10 with
        unitsCorrected := 4, unitsPrecap := 10, winsorizeCappedFlag := true } := by
    decide +kernel
  have hunits : ((ofSeries (cleanWeekly twoWeeks (spikeSeries ++ [spikeWeek 3 10]))
      (spikeWeek 0 2).series)[2]?).map PanelRow.unitsCorrected = some 10 := by
    decide +kernel
  obtain ⟨w, hw, -⟩ := cleanWeekly_continued twoWeeks hcontinues (spikeWeek 0 2).series he
  rw [hw] at hunits
  exact ⟨_, w, he, hw, rfl, Option.some.inj hunits⟩

end Restock.Audit
