import Mathlib.Data.Finset.Max
import Restock.Audit.Chain
import Restock.Series.Loops

/-!
# The cells of the panel

A row of the panel is told by its cell, the series and the week, and carries its raw units. The
steps after the fill keep both, and the fill adds nothing but empty cells between those that have
lines.

* `PanelRow.core`, `panel_core_perm` — the cells and raw units of the emitted panel are those of the
  filled frame;
* `mem_aggregateWeekly`, `mem_fillZeroWeeks` — the cells that have lines, and those of the filled
  frame;
* `unitsRaw_of_mem_fillZeroWeeks`, `nodup_cells_fillZeroWeeks` — what their raw units are, and that
  no cell is there twice.
-/

namespace Restock.Audit

open Series (flatMap_filter_eraseDups_perm)

/-! ## Steps that keep cells and raw units -/

/-- The cell of a row with its raw units. -/
def PanelRow.core (r : PanelRow) : (SeriesKey × ℤ) × ℚ :=
  (r.cell, r.unitsRaw)

/-- Sorting keeps the rows. -/
theorem sortRows_perm (rows : List PanelRow) : (sortRows rows).Perm rows :=
  List.perm_insertionSort _ _

/-- A step that keeps the rows of every series keeps the rows of the frame. -/
theorem perSeries_core_perm {step : List PanelRow → List PanelRow}
    (hstep : ∀ rows, (step rows).map PanelRow.core = rows.map PanelRow.core)
    (rows : List PanelRow) :
    ((perSeries step rows).map PanelRow.core).Perm (rows.map PanelRow.core) := by
  have hparts : (perSeries step rows).map PanelRow.core =
      ((rows.map PanelRow.series).eraseDups.flatMap fun series =>
        rows.filter fun r => r.series = series).map PanelRow.core := by
    rw [perSeries, List.map_flatMap, List.map_flatMap]
    exact List.flatMap_congr fun series _ => hstep _
  rw [hparts]
  exact (flatMap_filter_eraseDups_perm PanelRow.series rows).map PanelRow.core

/-- A step that changes every row by its place keeps cells and raw units when each change does. -/
theorem core_mapIdx {f : ℕ → PanelRow → PanelRow} (hf : ∀ t r, (f t r).core = r.core)
    (rows : List PanelRow) : (rows.mapIdx f).map PanelRow.core = rows.map PanelRow.core := by
  apply List.ext_getElem
  · simp
  · intro t _ _
    simp [hf]

section Code

variable (config : Config)

theorem core_promoRetro (rows : List PanelRow) :
    (promoRetro config rows).map PanelRow.core = rows.map PanelRow.core := by
  rw [promoRetro]
  apply core_mapIdx
  intro t r
  rfl

theorem core_levelShift (rows : List PanelRow) :
    (levelShift config rows).map PanelRow.core = rows.map PanelRow.core := by
  rw [levelShift]
  split
  · refine core_mapIdx (fun t r => ?_) rows
    split <;> rfl
  · rw [List.map_map]
    rfl

/-- A turn of the cap's loop keeps the cell and the raw units. -/
theorem core_winsorizeRow (before : List PanelRow) (r : PanelRow) :
    (winsorizeRow config before r).core = r.core := by
  rw [winsorizeRow]
  dsimp only
  split
  · rfl
  · split
    · split <;> rfl
    · rfl

theorem core_winsorize (rows : List PanelRow) :
    (winsorize config rows).map PanelRow.core = rows.map PanelRow.core := by
  have hcore := Series.map_scan (winsorizeRow config) (fun _ core => core) PanelRow.core
    PanelRow.core (core_winsorizeRow config) rows
  exact hcore.trans (Series.scan_eq_self fun _ _ _ => rfl)

/-- The steps after the fill keep the cells and raw units of the frame. -/
theorem correctPanel_core_perm (source : AvailabilitySource) (daily : List DailyRow)
    (filled : List PanelRow) :
    ((correctPanel config source daily filled).map PanelRow.core).Perm
      (filled.map PanelRow.core) := by
  have hsort : ∀ rows : List PanelRow,
      ((sortRows rows).map PanelRow.core).Perm (rows.map PanelRow.core) :=
    fun rows => (sortRows_perm rows).map _
  refine (perSeries_core_perm (core_winsorize config) _).trans ((hsort _).trans ?_)
  rw [List.map_map]
  exact (perSeries_core_perm (core_promoRetro config) _).trans (hsort _)

/-- The emitted panel has the cells and raw units of the filled frame. -/
theorem panel_core_perm {py : Py} {source : AvailabilitySource} {frame : TxFrame}
    {skuMapping : List (String × String)} {bundleMap : List (String × List (String × ℚ))}
    {result : CleanResult}
    (h : runChain config py source frame skuMapping bundleMap = some result) :
    ∃ tx, runTxSteps py config frame skuMapping bundleMap = some tx ∧
      result.excluded = tx.excluded ∧
      (result.panel.map PanelRow.core).Perm
        ((fillZeroWeeks (aggregateWeekly tx.lines)).map PanelRow.core) := by
  rw [runChain, Option.bind_eq_bind, Option.bind_eq_some_iff] at h
  obtain ⟨tx, htx, h⟩ := h
  dsimp only at h
  refine ⟨tx, htx, ?_⟩
  split at h
  case isTrue => cases h
  case isFalse =>
  split at h
  case isTrue => cases h
  case isFalse =>
      rw [Option.pure_def, Option.some.injEq] at h
      rw [← h]
      dsimp only
      refine ⟨rfl, ?_⟩
      have hshift := perSeries_core_perm (core_levelShift config)
        (sortRows (correctPanel config source (dailySpine tx.lines)
          (fillZeroWeeks (aggregateWeekly tx.lines))))
      exact ((sortRows_perm _).map _).trans (hshift.trans (((sortRows_perm _).map _).trans
        (correctPanel_core_perm config source _ _)))

end Code

/-! ## Cells with lines -/

section Aggregate

variable (lines : List FlaggedLine)

theorem mem_cellsOf (cell : SeriesKey × ℤ) :
    cell ∈ cellsOf lines ↔ ∃ l ∈ lines, l.line.cell = cell := by
  rw [cellsOf, List.mem_insertionSort, List.mem_eraseDups, List.mem_map]

/-- The units of a cell: those of its lines, floored at zero. -/
def cellUnits (cell : SeriesKey × ℤ) : ℚ :=
  max 0 ((lines.filter fun l => l.line.cell = cell).map fun l => l.line.qty).sum

/-- The rows of the weekly frame are the cells that have a line. -/
theorem mem_aggregateWeekly (r : PanelRow) :
    r ∈ aggregateWeekly lines ↔
      (∃ l ∈ lines, l.line.cell = r.cell) ∧ r = weeklyRow lines r.cell := by
  rw [aggregateWeekly, List.mem_map]
  constructor
  · rintro ⟨cell, hcell, rfl⟩
    exact ⟨(mem_cellsOf lines cell).mp hcell, rfl⟩
  · rintro ⟨hcell, hr⟩
    exact ⟨r.cell, (mem_cellsOf lines r.cell).mpr hcell, hr.symm⟩

theorem unitsRaw_weeklyRow (cell : SeriesKey × ℤ) :
    (weeklyRow lines cell).unitsRaw = cellUnits lines cell := by
  rw [weeklyRow, cellUnits]
  dsimp only
  split
  case isTrue h => exact (max_eq_left h.le).symm
  case isFalse h => exact (max_eq_right (not_lt.mp h)).symm

/-- A week of the weekly frame starts on a Monday. -/
theorem monday_of_mem_aggregateWeekly {r : PanelRow} (h : r ∈ aggregateWeekly lines) :
    (r.weekStart + 3) % 7 = 0 := by
  obtain ⟨⟨l, _, hcell⟩, _⟩ := (mem_aggregateWeekly lines r).mp h
  have hweek : mondayOf (dayOf l.line.date) = r.weekStart := congrArg Prod.snd hcell
  rw [← hweek, mondayOf]
  omega

/-! ## The filled frame -/

theorem mem_weeksBetween (first last week : ℤ) :
    week ∈ weeksBetween first last ↔ first ≤ week ∧ week ≤ last ∧ (week - first) % 7 = 0 := by
  rw [weeksBetween, List.mem_map]
  constructor
  · rintro ⟨k, hk, rfl⟩
    rw [List.mem_range] at hk
    omega
  · rintro ⟨hfirst, hlast, hmod⟩
    refine ⟨((week - first) / 7).toNat, ?_, ?_⟩
    · rw [List.mem_range]
      omega
    · omega

theorem nodup_weeksBetween (first last : ℤ) : (weeksBetween first last).Nodup := by
  refine List.nodup_range.map fun a b hab => ?_
  have : first + 7 * (a : ℤ) = first + 7 * (b : ℤ) := hab
  omega

/-- Rows have a first and a last week. -/
theorem exists_first_last {own : List PanelRow} (h : own ≠ []) :
    ∃ first ∈ own, ∃ last ∈ own, (∀ r ∈ own, first.weekStart ≤ r.weekStart) ∧
      ∀ r ∈ own, r.weekStart ≤ last.weekStart := by
  obtain ⟨first, hfirst, hmin⟩ := own.toFinset.exists_min_image PanelRow.weekStart
    (List.toFinset_nonempty_iff own |>.mpr h)
  obtain ⟨last, hlast, hmax⟩ := own.toFinset.exists_max_image PanelRow.weekStart
    (List.toFinset_nonempty_iff own |>.mpr h)
  simp only [List.mem_toFinset] at hfirst hmin hlast hmax
  exact ⟨first, hfirst, last, hlast, hmin, hmax⟩

/-- The rows of a series: the weeks from its first to its last, each with the row it had or an
empty one. -/
theorem mem_filledWeeks (own : List PanelRow) (series : SeriesKey) (r : PanelRow) :
    r ∈ filledWeeks own series ↔
      ∃ first ∈ own, ∃ last ∈ own, (∀ r' ∈ own, first.weekStart ≤ r'.weekStart) ∧
        (∀ r' ∈ own, r'.weekStart ≤ last.weekStart) ∧
        ∃ week, first.weekStart ≤ week ∧ week ≤ last.weekStart ∧
          (week - first.weekStart) % 7 = 0 ∧
          r = (own.find? fun r => r.weekStart = week).getD
            { series, weekStart := week, unitsRaw := 0, filledZeroFlag := true } := by
  rw [filledWeeks]
  cases hmin : (own.map PanelRow.weekStart).min? with
  | none =>
      -- a series without a row has no weeks
      have hnil : own = [] := by simpa using hmin
      simp [hnil]
  | some first =>
      cases hmax : (own.map PanelRow.weekStart).max? with
      | none =>
          have hnil : own = [] := by simpa using hmax
          simp [hnil]
      | some last =>
          obtain ⟨hfirst, hle⟩ := List.min?_eq_some_iff.mp hmin
          obtain ⟨hlast, hge⟩ := List.max?_eq_some_iff.mp hmax
          obtain ⟨a, ha, rfl⟩ := List.mem_map.mp hfirst
          obtain ⟨b, hb, rfl⟩ := List.mem_map.mp hlast
          dsimp only
          rw [List.mem_map]
          constructor
          · rintro ⟨week, hweek, rfl⟩
            obtain ⟨h₁, h₂, h₃⟩ := (mem_weeksBetween _ _ _).mp hweek
            exact ⟨a, ha, b, hb, fun r hr => hle _ (List.mem_map_of_mem hr),
              fun r hr => hge _ (List.mem_map_of_mem hr), week, h₁, h₂, h₃, rfl⟩
          · rintro ⟨a', ha', b', hb', hle', hge', week, h₁, h₂, h₃, rfl⟩
            -- the extremes of the weeks are unique
            have haa : a'.weekStart = a.weekStart :=
              le_antisymm (hle' a ha) (hle _ (List.mem_map_of_mem ha'))
            have hbb : b'.weekStart = b.weekStart :=
              le_antisymm (hge _ (List.mem_map_of_mem hb')) (hge' b hb)
            refine ⟨week, (mem_weeksBetween _ _ _).mpr ⟨?_, ?_, ?_⟩, rfl⟩
            · rw [← haa]
              exact h₁
            · rw [← hbb]
              exact h₂
            · rw [← haa]
              exact h₃

/-- A row of the filled frame is the row its cell had, or an empty one of a cell that had none. -/
theorem row_of_mem_filledWeeks {series : SeriesKey} {r : PanelRow}
    (h : r ∈ filledWeeks ((aggregateWeekly lines).filter fun r => r.series = series) series) :
    r.series = series ∧ r.unitsRaw = cellUnits lines r.cell := by
  obtain ⟨_, _, _, _, _, _, week, _, _, _, rfl⟩ := (mem_filledWeeks _ series r).mp h
  cases hfind : ((aggregateWeekly lines).filter fun r => r.series = series).find?
      fun r => r.weekStart = week with
  | some r =>
      obtain ⟨hmem, hseries⟩ := List.mem_filter.mp (List.mem_of_find?_eq_some hfind)
      obtain ⟨_, hrow⟩ := (mem_aggregateWeekly lines r).mp hmem
      refine ⟨of_decide_eq_true hseries, ?_⟩
      rw [Option.getD_some, ← unitsRaw_weeklyRow, ← hrow]
  | none =>
      refine ⟨rfl, ?_⟩
      -- no line is in the cell, so its lines sum to zero
      have hnone : (lines.filter fun l => l.line.cell = (series, week)) = [] := by
        rw [List.filter_eq_nil_iff]
        intro l hl hcell
        have hcell := of_decide_eq_true hcell
        refine List.find?_eq_none.mp hfind (weeklyRow lines (series, week)) ?_ (by simp [weeklyRow])
        rw [List.mem_filter, mem_aggregateWeekly]
        exact ⟨⟨⟨l, hl, hcell⟩, rfl⟩, by simp [weeklyRow]⟩
      rw [Option.getD_none, cellUnits, PanelRow.cell, hnone]
      simp

/-- A row of the filled frame has the units of its cell's lines. -/
theorem unitsRaw_of_mem_fillZeroWeeks {r : PanelRow}
    (h : r ∈ fillZeroWeeks (aggregateWeekly lines)) : r.unitsRaw = cellUnits lines r.cell := by
  obtain ⟨series, _, hr⟩ := List.mem_flatMap.mp h
  exact (row_of_mem_filledWeeks lines hr).2

/-- The week of a row of the filled frame. -/
theorem weekStart_getD_find? (own : List PanelRow) (series : SeriesKey) (week : ℤ) :
    ((own.find? fun r => r.weekStart = week).getD
      { series, weekStart := week, unitsRaw := 0, filledZeroFlag := true }).weekStart = week := by
  cases hfind : own.find? fun r => r.weekStart = week with
  | some r =>
      have hweek : decide (r.weekStart = week) = true :=
        List.find?_some (p := fun r : PanelRow => decide (r.weekStart = week)) hfind
      exact of_decide_eq_true hweek
  | none => rfl

/-- The cells of the filled frame: the Mondays of a series from its first line to its last. -/
theorem exists_mem_fillZeroWeeks (cell : SeriesKey × ℤ) :
    (∃ r ∈ fillZeroWeeks (aggregateWeekly lines), r.cell = cell) ↔
      (cell.2 + 3) % 7 = 0 ∧ ∃ l ∈ lines, ∃ l' ∈ lines, l.line.series = cell.1 ∧
        l'.line.series = cell.1 ∧ l.line.week ≤ cell.2 ∧ cell.2 ≤ l'.line.week := by
  have hrow : ∀ r : PanelRow, r ∈ (aggregateWeekly lines).filter (fun r => r.series = cell.1) ↔
      (∃ l ∈ lines, l.line.series = cell.1 ∧ l.line.week = r.weekStart) ∧
        r.series = cell.1 ∧ r = weeklyRow lines r.cell := by
    intro r
    rw [List.mem_filter, mem_aggregateWeekly, decide_eq_true_iff]
    constructor
    · rintro ⟨⟨⟨l, hl, hcell⟩, hr⟩, hseries⟩
      exact ⟨⟨l, hl, (congrArg Prod.fst hcell).trans hseries, congrArg Prod.snd hcell⟩, hseries, hr⟩
    · rintro ⟨⟨l, hl, hls, hlw⟩, hseries, hr⟩
      exact ⟨⟨⟨l, hl, Prod.ext (hls.trans hseries.symm) hlw⟩, hr⟩, hseries⟩
  have hline : ∀ l ∈ lines, l.line.series = cell.1 →
      weeklyRow lines l.line.cell ∈ (aggregateWeekly lines).filter fun r => r.series = cell.1 :=
    fun l hl hls => (hrow _).mpr ⟨⟨l, hl, hls, rfl⟩, hls, rfl⟩
  constructor
  · rintro ⟨r, hr, rfl⟩
    obtain ⟨series, _, hr⟩ := List.mem_flatMap.mp hr
    obtain rfl := (row_of_mem_filledWeeks lines hr).1
    obtain ⟨a, ha, b, hb, _, _, week, hfirst, hlast, hmod, heq⟩ := (mem_filledWeeks _ _ r).mp hr
    have hweek : r.weekStart = week := by
      rw [heq]
      exact weekStart_getD_find? _ _ _
    obtain ⟨⟨l, hl, hls, hlw⟩, _⟩ := (hrow a).mp ha
    obtain ⟨⟨l', hl', hls', hlw'⟩, _⟩ := (hrow b).mp hb
    have hmonday := monday_of_mem_aggregateWeekly lines (List.mem_filter.mp ha).1
    refine ⟨?_, l, hl, l', hl', hls, hls', ?_, ?_⟩
    · show (r.weekStart + 3) % 7 = 0
      omega
    · rw [hlw]
      exact hfirst.trans hweek.ge
    · rw [hlw']
      exact hweek.le.trans hlast
  · rintro ⟨hmonday, l, hl, l', hl', hls, hls', hle, hge⟩
    have ha := hline l hl hls
    have hb := hline l' hl' hls'
    obtain ⟨first, hfirst, last, hlast, hmin, hmax⟩ := exists_first_last (List.ne_nil_of_mem ha)
    -- the cell lies a whole number of weeks after the first row, and not after the last
    have hmonday' := monday_of_mem_aggregateWeekly lines (List.mem_filter.mp hfirst).1
    have hle' : first.weekStart ≤ cell.2 := (hmin _ ha).trans hle
    have hge' : cell.2 ≤ last.weekStart := hge.trans (hmax _ hb)
    have hmem := (mem_filledWeeks _ cell.1 _).mpr
      ⟨first, hfirst, last, hlast, hmin, hmax, cell.2, hle', hge', by omega, rfl⟩
    refine ⟨_, List.mem_flatMap.mpr ⟨cell.1, ?_, hmem⟩, ?_⟩
    · rw [List.mem_eraseDups, List.mem_map]
      exact ⟨_, (List.mem_filter.mp ha).1, hls⟩
    · exact Prod.ext (row_of_mem_filledWeeks lines hmem).1 (weekStart_getD_find? _ _ _)

/-- No cell of the filled frame is there twice. -/
theorem nodup_cells_fillZeroWeeks :
    ((fillZeroWeeks (aggregateWeekly lines)).map PanelRow.cell).Nodup := by
  rw [fillZeroWeeks, List.map_flatMap]
  refine List.nodup_flatMap.mpr ⟨fun series _ => ?_, ?_⟩
  · rw [filledWeeks]
    split
    · rw [List.map_map]
      refine (nodup_weeksBetween _ _).map fun a b hab => ?_
      have hweeks := congrArg Prod.snd hab
      rw [Function.comp_apply, Function.comp_apply, PanelRow.cell, PanelRow.cell,
        weekStart_getD_find?, weekStart_getD_find?] at hweeks
      exact hweeks
    · exact List.nodup_nil
  · refine (Series.nodup_eraseDups _).imp fun hne => ?_
    refine List.disjoint_left.mpr fun cell ha hb => ?_
    obtain ⟨a, hmema, rfl⟩ := List.mem_map.mp ha
    obtain ⟨b, hmemb, heq⟩ := List.mem_map.mp hb
    have hseries : b.series = a.series := congrArg Prod.fst heq
    rw [(row_of_mem_filledWeeks lines hmema).1, (row_of_mem_filledWeeks lines hmemb).1] at hseries
    exact hne hseries.symm

end Aggregate

end Restock.Audit
