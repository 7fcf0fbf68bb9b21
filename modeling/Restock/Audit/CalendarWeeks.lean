import Restock.Audit.Reconcile
import Restock.Audit.NaiveModels

/-!
# The weeks of the matrices

The columns of the matrices are the weeks that any series has a row for. Step 9 fills the weeks of
each series between its own first and last line, so that a week outside of all these is no column,
and a column offset is then no longer a number of weeks.

* `weekValue` — the usable value of a series in a week;
* `CalendarColumns` — the columns are consecutive Mondays, and the seasonal model reads the week
  that is 52 weeks before its target;
* `Unbroken` — every week between the first and the last line lies between two of some series;
* `mem_panelWeeks` — the columns of a cleaned panel;
* `calendarColumns_iff` — the columns are calendar weeks exactly when the lines are unbroken;
* `calendarColumns_apart` — two series with a gap between them.
-/

namespace Restock.Audit

open Selection (Aligned BatchModel maskedHistory naiveSeasonal naiveSeasonal_eq seasonalOf
  usableValues)

/-! ## Columns and weeks -/

/-- The usable value of a series in a week. -/
def weekValue (panel : List PanelRow) (series : SeriesKey) (week : ℤ) : Option ℚ :=
  (rowAt panel (series, week)).bind fun r => if r.usable then some r.unitsCorrected else none

/-- The columns of a panel's matrices are consecutive Mondays, so that at every origin and for every
target week the seasonal model forecasts, for the series that have enough, the value of the week
exactly 52 weeks before. More than 52 weeks ahead that week is not before the origin. -/
structure CalendarColumns (panel : List PanelRow) : Prop where
  mondays : ∀ week ∈ (buildMatrices panel).weeks, (week + 3) % 7 = 0
  consecutive : Series.IsStride 7 (buildMatrices panel).weeks
  seasonal : ∀ (minWeeks : ℤ) (origin i j h : ℕ) (series : SeriesKey) (target : ℤ)
    (values : List ℚ) (horizons : List ℕ), origin ≤ (buildMatrices panel).weeks.length →
    (buildMatrices panel).seriesIndex[i]? = some series → horizons[j]? = some h → 1 ≤ h →
    (buildMatrices panel).weeks[origin + h - 1]? = some target →
    (usableValues ((buildMatrices panel).yCorrected.slice origin)
      ((buildMatrices panel).usableMask.slice origin))[i]? = some values →
    minWeeks ≤ values.length →
    ((naiveSeasonal minWeeks 52).fitPredict ((buildMatrices panel).yCorrected.slice origin)
      ((buildMatrices panel).usableMask.slice origin) origin horizons).at i j =
      some (if h ≤ 52 then weekValue panel series (target - 7 * 52) else none)

/-- Every calendar week from that of the first line to that of the last lies between two lines of
one series. -/
def Unbroken (lines : List FlaggedLine) : Prop :=
  ∀ week : ℤ, (week + 3) % 7 = 0 → (∃ l ∈ lines, l.line.week ≤ week) →
    (∃ l ∈ lines, week ≤ l.line.week) →
    ∃ l ∈ lines, ∃ l' ∈ lines, l.line.series = l'.line.series ∧ l.line.week ≤ week ∧
      week ≤ l'.line.week

section Panel

variable (panel : List PanelRow)

theorem mem_panelWeeks (week : ℤ) :
    week ∈ panelWeeks panel ↔ ∃ r ∈ panel, r.weekStart = week := by
  rw [panelWeeks, List.mem_insertionSort, List.mem_eraseDups, List.mem_map]

theorem sorted_panelWeeks : (panelWeeks panel).Pairwise (· < ·) := by
  have hle : (panelWeeks panel).Pairwise (· ≤ ·) := List.pairwise_insertionSort _ _
  have hne : (panelWeeks panel).Pairwise (· ≠ ·) :=
    (List.perm_insertionSort _ _).nodup_iff.mpr (Series.nodup_eraseDups _)
  exact hle.imp₂ (fun _ _ hab hne => lt_of_le_of_ne hab hne) hne

theorem aligned_matrices {origin : ℕ} (horigin : origin ≤ (buildMatrices panel).weeks.length) :
    Aligned ((buildMatrices panel).yCorrected.slice origin)
      ((buildMatrices panel).usableMask.slice origin) origin := by
  have hlength : ((buildMatrices panel).yCorrected.slice origin).length =
      (buildMatrices panel).seriesIndex.length := by
    have h := congrArg List.length (buildMatrices panel).shapedCorrected
    rw [List.length_map, List.length_replicate] at h
    rw [Grid.slice, List.length_map, h]
  constructor
  · rw [hlength]
    exact (buildMatrices panel).shapedCorrected.slice horigin
  · rw [hlength]
    exact (buildMatrices panel).shapedUsable.slice horigin

variable {panel}

/-- The masked prefix of a series has in a column the usable value of its week. -/
theorem maskedHistory_matrices {i : ℕ} {series : SeriesKey} (origin : ℕ)
    (hseries : (panelSeries panel)[i]? = some series) :
    (maskedHistory ((buildMatrices panel).yCorrected.slice origin)
        ((buildMatrices panel).usableMask.slice origin))[i]? =
      some (((panelWeeks panel).take origin).map (weekValue panel series)) := by
  have hvalue : ∀ week : ℤ,
      (if ((rowAt panel (series, week)).map PanelRow.usable).getD false then
        ((rowAt panel (series, week)).map fun r => some r.unitsCorrected).getD none else none) =
      weekValue panel series week := by
    intro week
    rw [weekValue]
    cases rowAt panel (series, week) with
    | none => rfl
    | some r => rfl
  rw [maskedHistory, Grid.slice, Grid.slice, buildMatrices]
  dsimp only
  rw [pivot, pivot, List.map_map, List.map_map, List.getElem?_zipWith, List.getElem?_map,
    List.getElem?_map, hseries]
  simp only [Option.map_some, Function.comp_apply, ← List.map_take, List.zipWith_map,
    List.zipWith_self, hvalue]

/-- A series has no value in a week that is no column. -/
theorem weekValue_of_notMem {week : ℤ} (h : week ∉ panelWeeks panel) (series : SeriesKey) :
    weekValue panel series week = none := by
  rw [weekValue]
  cases hfind : rowAt panel (series, week) with
  | none => rfl
  | some r =>
    have hcell : r.cell = (series, week) := by
      simpa only [decide_eq_true_eq] using List.find?_some hfind
    exact absurd ((mem_panelWeeks panel week).mpr
      ⟨r, List.mem_of_find?_eq_some hfind, congrArg Prod.snd hcell⟩) h

/-- Where the columns are consecutive Mondays, so many columns are as many weeks. -/
theorem seasonal_of_stride (hstride : Series.IsStride 7 (panelWeeks panel)) {minWeeks : ℤ}
    {origin i j h : ℕ} {series : SeriesKey} {target : ℤ} {values : List ℚ} {horizons : List ℕ}
    (horigin : origin ≤ (panelWeeks panel).length)
    (hseries : (panelSeries panel)[i]? = some series) (hh : horizons[j]? = some h) (h1 : 1 ≤ h)
    (htarget : (panelWeeks panel)[origin + h - 1]? = some target)
    (hvalues : (usableValues ((buildMatrices panel).yCorrected.slice origin)
      ((buildMatrices panel).usableMask.slice origin))[i]? = some values)
    (henough : minWeeks ≤ values.length) :
    ((naiveSeasonal minWeeks 52).fitPredict ((buildMatrices panel).yCorrected.slice origin)
      ((buildMatrices panel).usableMask.slice origin) origin horizons).at i j =
      some (if h ≤ 52 then weekValue panel series (target - 7 * 52) else none) := by
  have hrow := maskedHistory_matrices origin hseries
  rw [usableValues, List.getElem?_map, hrow, Option.map_some, Option.some.injEq] at hvalues
  have hshort : ¬ (((((panelWeeks panel).take origin).map
      (weekValue panel series)).reduceOption.length : ℕ) : ℤ) < minWeeks := by
    rw [hvalues]
    omega
  rw [naiveSeasonal_eq _ _ (aligned_matrices panel horigin), Grid.at, List.getElem?_map, hrow,
    Option.map_some, Option.bind_some, List.getElem?_map, hh, Option.map_some, seasonalOf]
  simp only [if_neg hshort, List.length_map, List.length_take, min_eq_left horigin]
  by_cases h52 : h ≤ 52
  case neg =>
    rw [if_neg (by omega), if_neg h52]
  rw [if_pos h52]
  by_cases hlag : 52 ≤ origin + h - 1
  · -- The column read is so many before the target's.
    have hcol : (0 : ℤ) ≤ (origin : ℤ) + h - 1 - 52 ∧ (origin : ℤ) + h - 1 - 52 < origin := by
      omega
    have hnat : ((origin : ℤ) + h - 1 - 52).toNat = origin + h - 1 - 52 := by omega
    rw [if_pos hcol, hnat, List.getElem?_map, List.getElem?_take_of_lt (by omega),
      hstride.getElem?_sub htarget hlag, Option.map_some, Option.join_some]
    rfl
  · -- A season before the target there is no column.
    have hcol : ¬ ((0 : ℤ) ≤ (origin : ℤ) + h - 1 - 52 ∧ (origin : ℤ) + h - 1 - 52 < origin) := by
      omega
    have hweek : target - 7 * 52 ∉ panelWeeks panel :=
      hstride.sub_not_mem (by decide) htarget (not_le.mp hlag)
    rw [if_neg hcol, weekValue_of_notMem hweek]

end Panel

/-! ## Cleaned panels -/

section Run

variable {config : Config} {py : Py} {source : AvailabilitySource} {frame : TxFrame}
  {skuMapping : List (String × String)} {bundleMap : List (String × List (String × ℚ))}
  {result : CleanResult} {tx : TxSteps}

/-- The columns of a cleaned panel: the Mondays between two lines of one series. -/
theorem mem_panelWeeks_runChain
    (h : runChain config py source frame skuMapping bundleMap = some result)
    (htx : runTxSteps py config frame skuMapping bundleMap = some tx) (week : ℤ) :
    week ∈ panelWeeks result.panel ↔
      (week + 3) % 7 = 0 ∧ ∃ l ∈ tx.lines, ∃ l' ∈ tx.lines, l.line.series = l'.line.series ∧
        l.line.week ≤ week ∧ week ≤ l'.line.week := by
  obtain ⟨tx', htx', -, hperm⟩ := panel_core_perm config h
  obtain rfl : tx = tx' := Option.some.inj (htx.symm.trans htx')
  have hcells : ∀ cell : SeriesKey × ℤ, (∃ r ∈ result.panel, r.cell = cell) ↔
      ∃ r ∈ fillZeroWeeks (aggregateWeekly tx.lines), r.cell = cell := by
    intro cell
    have hmap : ∀ rows : List PanelRow, (∃ r ∈ rows, r.cell = cell) ↔
        ∃ c ∈ rows.map PanelRow.core, c.1 = cell := by
      intro rows
      simp only [List.mem_map, exists_exists_and_eq_and]
      rfl
    rw [hmap, hmap]
    simp only [hperm.mem_iff]
  rw [mem_panelWeeks]
  constructor
  · rintro ⟨r, hr, rfl⟩
    obtain ⟨hmonday, l, hl, l', hl', hs, hs', hle, hge⟩ :=
      (exists_mem_fillZeroWeeks tx.lines r.cell).mp ((hcells r.cell).mp ⟨r, hr, rfl⟩)
    exact ⟨hmonday, l, hl, l', hl', hs.trans hs'.symm, hle, hge⟩
  · rintro ⟨hmonday, l, hl, l', hl', hs, hle, hge⟩
    obtain ⟨r, hr, hcell⟩ := (hcells (l.line.series, week)).mpr
      ((exists_mem_fillZeroWeeks tx.lines _).mpr
        ⟨hmonday, l, hl, l', hl', rfl, hs.symm, hle, hge⟩)
    exact ⟨r, hr, congrArg Prod.snd hcell⟩

/-- The week of a line is a column. -/
theorem week_mem_panelWeeks
    (h : runChain config py source frame skuMapping bundleMap = some result)
    (htx : runTxSteps py config frame skuMapping bundleMap = some tx) {l : FlaggedLine}
    (hl : l ∈ tx.lines) : l.line.week ∈ panelWeeks result.panel := by
  refine (mem_panelWeeks_runChain h htx _).mpr ⟨?_, l, hl, l, hl, rfl, le_rfl, le_rfl⟩
  rw [TxLine.week, mondayOf]
  omega

/-- The columns are consecutive Mondays exactly when the lines are unbroken. -/
theorem isStride_panelWeeks_iff
    (h : runChain config py source frame skuMapping bundleMap = some result)
    (htx : runTxSteps py config frame skuMapping bundleMap = some tx) :
    Series.IsStride 7 (panelWeeks result.panel) ↔ Unbroken tx.lines := by
  have hmem := mem_panelWeeks_runChain h htx
  have hmonday : ∀ week ∈ panelWeeks result.panel, (week + 3) % 7 = 0 :=
    fun week hweek => ((hmem week).mp hweek).1
  rw [Series.isStride_iff (by decide) (sorted_panelWeeks _) fun x hx y hy => by
    have := hmonday x hx
    have := hmonday y hy
    omega]
  constructor
  · rintro hclosed week hweek ⟨l, hl, hle⟩ ⟨l', hl', hge⟩
    have hcol := week_mem_panelWeeks h htx hl
    have hmod := hmonday _ hcol
    exact ((hmem week).mp (hclosed week _ hcol _ (week_mem_panelWeeks h htx hl') hle hge
      (by omega))).2
  · -- What lies between two columns lies between the first of some lines and the last of some.
    intro hunbroken week x hx y hy hxw hwy hdvd
    obtain ⟨hxmod, l, hl, -, -, -, hle, -⟩ := (hmem x).mp hx
    obtain ⟨-, -, -, l', hl', -, -, hge⟩ := (hmem y).mp hy
    have hweek : (week + 3) % 7 = 0 := by omega
    exact (hmem week).mpr ⟨hweek, hunbroken week hweek ⟨l, hl, hle.trans hxw⟩
      ⟨l', hl', hwy.trans hge⟩⟩

/-- Of what the cleaning chain emits, the columns are calendar weeks exactly when every week between
the first and the last line that the transaction steps keep lies between two lines of some
series. -/
theorem calendarColumns_iff
    (h : runChain config py source frame skuMapping bundleMap = some result)
    (htx : runTxSteps py config frame skuMapping bundleMap = some tx) :
    CalendarColumns result.panel ↔ Unbroken tx.lines := by
  have hiff := isStride_panelWeeks_iff h htx
  constructor
  · exact fun hcolumns => hiff.mp hcolumns.consecutive
  · intro hunbroken
    have hstride := hiff.mpr hunbroken
    exact
      { mondays := fun week hweek => ((mem_panelWeeks_runChain h htx week).mp hweek).1
        consecutive := hstride
        seasonal := fun _ _ _ _ _ _ _ _ _ horigin hseries hh h1 htarget hvalues henough =>
          seasonal_of_stride hstride horigin hseries hh h1 htarget hvalues henough }

end Run

/-! ## Two series -/

/-- A mug that is sold in the first two weeks and a tee from some week on. -/
def mugAndTee (week : ℤ) : TxFrame where
  lines :=
    [{ label := 0, date := noonOf 0, sku := "MUG", location := "ALL", qty := 3 },
      { label := 1, date := noonOf 7, sku := "MUG", location := "ALL", qty := 2 },
      { label := 2, date := noonOf (7 * week), sku := "TEE", location := "ALL", qty := 5 },
      { label := 3, date := noonOf (7 * week + 7), sku := "TEE", location := "ALL", qty := 4 }]
  hasCustomerType := false
  hasLineType := false
  labels := (by decide : [0, 1, 2, 3].Nodup)

theorem calendarColumns_iff_together :
    ∃ result tx, runChain {} .decimal (inferred .decimal) (mugAndTee 2) [] [] = some result ∧
      runTxSteps .decimal {} (mugAndTee 2) [] [] = some tx ∧
      panelWeeks result.panel = [19723, 19730, 19737, 19744] ∧
      (CalendarColumns result.panel ↔ Unbroken tx.lines) := by
  have hweeks : (runChain {} .decimal (inferred .decimal) (mugAndTee 2) [] []).map
      (fun result => panelWeeks result.panel) = some [19723, 19730, 19737, 19744] := by
    decide +kernel
  obtain ⟨result, hresult, hweeks⟩ := Option.map_eq_some_iff.mp hweeks
  obtain ⟨tx, htx, -, -⟩ := panel_core_perm {} hresult
  exact ⟨result, tx, hresult, htx, hweeks, calendarColumns_iff hresult htx⟩

/-- Seven weeks in which neither is sold are no columns. -/
theorem calendarColumns_apart :
    ¬ ∀ (config : Config) (py : Py) (source : AvailabilitySource) (frame : TxFrame)
      (skuMapping : List (String × String)) (bundleMap : List (String × List (String × ℚ)))
      (result : CleanResult),
      runChain config py source frame skuMapping bundleMap = some result →
        CalendarColumns result.panel := by
  intro hclaim
  have hweeks : (runChain {} .decimal (inferred .decimal) (mugAndTee 9) [] []).map
      (fun result => panelWeeks result.panel) = some [19723, 19730, 19786, 19793] := by
    decide +kernel
  obtain ⟨result, hresult, hweeks⟩ := Option.map_eq_some_iff.mp hweeks
  have hcolumns := hclaim {} .decimal (inferred .decimal) (mugAndTee 9) [] [] result hresult
  have hnext := hcolumns.consecutive 1 19730 19786
  rw [show (buildMatrices result.panel).weeks = panelWeeks result.panel from rfl, hweeks] at hnext
  exact absurd (hnext rfl rfl) (by decide)

end Restock.Audit
