import Mathlib.Data.String.Basic
import Restock.Audit.Chain

/-!
# The matrices of a panel

`panel.build_matrices` pivots the long panel once. A row of a matrix is a series, a column is a
week; a cell that the panel has no row for is filled.

* `PanelMatrices`, `buildMatrices` — the matrices, which are aligned by construction;
* `usableWeeks` — `nested._usable_weeks`;
* `SameBefore` — panels that have the same series, weeks and usable flags, and agree on early weeks;
* `SameBefore.seriesIndex`, `SameBefore.weeks`, `SameBefore.usableMask`, `SameBefore.corrected_take`
  — what their matrices have in common.
-/

namespace Restock.Audit

/-- A matrix by rows. -/
abbrev Grid (α : Type) : Type := List (List α)

/-- Every row has its length. -/
def Grid.Shaped {α : Type} (grid : Grid α) (rows columns : ℕ) : Prop :=
  grid.map List.length = List.replicate rows columns

/-- A column up to which the rows of a grid are kept, `grid[:, :n]`. -/
def Grid.slice {α : Type} (grid : Grid α) (n : ℕ) : Grid α :=
  grid.map (List.take n)

/-- A cell of a grid. -/
def Grid.at {α : Type} (grid : Grid α) (i t : ℕ) : Option α :=
  grid[i]?.bind fun row => row[t]?

/-- A slice of an aligned grid has as many columns as it was asked for. -/
theorem Grid.Shaped.slice {α : Type} {grid : Grid α} {rows columns n : ℕ}
    (h : grid.Shaped rows columns) (hn : n ≤ columns) : (grid.slice n).Shaped rows n := by
  have hmin : ∀ row : List α, (row.take n).length = min n row.length := fun row =>
    List.length_take
  rw [Grid.Shaped, Grid.slice, List.map_map]
  calc grid.map (List.length ∘ List.take n)
      = (grid.map List.length).map (min n) := by
        rw [List.map_map]
        exact List.map_congr_left fun row _ => hmin row
    _ = List.replicate rows n := by rw [h, List.map_replicate, min_eq_left hn]

/-! ## Matrices -/

/-- `PanelMatrices`, with the matrices that a backtest reads. A value outside of a series' lifespan
is absent. -/
structure PanelMatrices where
  seriesIndex : List SeriesKey
  /-- The days of the weeks' Mondays, in order. -/
  weeks : List ℤ
  yCorrected : Grid (Option ℚ)
  usableMask : Grid Bool
  stockoutMask : Grid Bool
  shapedCorrected : yCorrected.Shaped seriesIndex.length weeks.length
  shapedUsable : usableMask.Shaped seriesIndex.length weeks.length
  shapedStockout : stockoutMask.Shaped seriesIndex.length weeks.length

/-- The order of series, by SKU and location. -/
def seriesLe (a b : SeriesKey) : Prop :=
  a.sku < b.sku ∨ (a.sku = b.sku ∧ a.location ≤ b.location)

instance : DecidableRel seriesLe := fun a b =>
  inferInstanceAs (Decidable (a.sku < b.sku ∨ (a.sku = b.sku ∧ a.location ≤ b.location)))

instance : Std.Total seriesLe where
  total a b := by
    rcases lt_trichotomy a.sku b.sku with h | h | h
    · exact Or.inl (Or.inl h)
    · rcases le_total a.location b.location with h' | h'
      · exact Or.inl (Or.inr ⟨h, h'⟩)
      · exact Or.inr (Or.inr ⟨h.symm, h'⟩)
    · exact Or.inr (Or.inl h)

instance : IsTrans SeriesKey seriesLe where
  trans a b c hab hbc := by
    rcases hab with h | ⟨h, hl⟩
    · rcases hbc with h' | ⟨h', -⟩
      · exact Or.inl (h.trans h')
      · exact Or.inl (h' ▸ h)
    · rcases hbc with h' | ⟨h', hl'⟩
      · exact Or.inl (h ▸ h')
      · exact Or.inr ⟨h.trans h', hl.trans hl'⟩

/-- Series that tie are the same. -/
theorem seriesLe_antisymm (a b : SeriesKey) (hab : seriesLe a b) (hba : seriesLe b a) : a = b := by
  rcases hab with h | ⟨h, hl⟩
  · rcases hba with h' | ⟨h', -⟩
    · exact absurd h' h.asymm
    · exact absurd h'.symm h.ne
  · rcases hba with h' | ⟨-, hl'⟩
    · exact absurd h.symm h'.ne
    · cases a
      cases b
      rw [SeriesKey.mk.injEq]
      exact ⟨h, le_antisymm hl hl'⟩

section Code

variable (panel : List PanelRow)

/-- The row of a cell. -/
def rowAt (cell : SeriesKey × ℤ) : Option PanelRow :=
  panel.find? fun r => r.cell = cell

/-- The distinct series of a panel, in order. -/
def panelSeries : List SeriesKey :=
  (panel.map PanelRow.series).eraseDups.insertionSort seriesLe

/-- The distinct weeks of a panel, in order. -/
def panelWeeks : List ℤ :=
  (panel.map PanelRow.weekStart).eraseDups.insertionSort (· ≤ ·)

variable {panel} in
/-- A series with a row is one of the panel's. -/
theorem mem_panelSeries_of_rowAt {series : SeriesKey} {week : ℤ} {row : PanelRow}
    (h : rowAt panel (series, week) = some row) : series ∈ panelSeries panel := by
  have hcell : row.cell = (series, week) := by
    simpa only [decide_eq_true_eq] using List.find?_some h
  rw [panelSeries, List.mem_insertionSort, List.mem_eraseDups]
  exact List.mem_map.mpr ⟨row, List.mem_of_find?_eq_some h, congrArg Prod.fst hcell⟩

/-- `_pivot`. -/
def pivot {α : Type} (value : PanelRow → α) (fill : α) : Grid α :=
  (panelSeries panel).map fun series =>
    (panelWeeks panel).map fun week => ((rowAt panel (series, week)).map value).getD fill

/-- `_hm_stockout`: the row is of a stockout of high or medium confidence. -/
def PanelRow.hmStockout (r : PanelRow) : Bool :=
  r.stockoutFlag && (r.stockoutConfidence = some .high || r.stockoutConfidence = some .medium)

/-- What is pivoted has a row for each series and a column for each week. -/
theorem shaped_pivot {α : Type} (value : PanelRow → α) (fill : α) :
    (pivot panel value fill).Shaped (panelSeries panel).length (panelWeeks panel).length := by
  rw [Grid.Shaped, pivot, List.map_map, List.eq_replicate_iff]
  refine ⟨List.length_map _, fun n hn => ?_⟩
  obtain ⟨series, -, rfl⟩ := List.mem_map.mp hn
  exact List.length_map _

/-- What is pivoted has at a series and a week the value of their row. -/
theorem pivot_at_eq {α : Type} (value : PanelRow → α) (fill : α) {i t : ℕ} {series : SeriesKey}
    {week : ℤ} (hseries : (panelSeries panel)[i]? = some series)
    (hweek : (panelWeeks panel)[t]? = some week) :
    (pivot panel value fill).at i t =
      some (((rowAt panel (series, week)).map value).getD fill) := by
  rw [Grid.at, pivot, List.getElem?_map, hseries, Option.map_some, Option.bind_some,
    List.getElem?_map, hweek, Option.map_some]

/-- `build_matrices`. -/
def buildMatrices : PanelMatrices where
  seriesIndex := panelSeries panel
  weeks := panelWeeks panel
  yCorrected := pivot panel (fun r => some r.unitsCorrected) none
  usableMask := pivot panel PanelRow.usable false
  stockoutMask := pivot panel PanelRow.hmStockout false
  shapedCorrected := shaped_pivot panel _ _
  shapedUsable := shaped_pivot panel _ _
  shapedStockout := shaped_pivot panel _ _

end Code

/-- `_usable_weeks`: the weeks up to the last one that is usable for any series. -/
def usableWeeks (mats : PanelMatrices) : ℕ :=
  ((List.range mats.weeks.length).filter fun t =>
    mats.usableMask.any fun row => row[t]? = some true).getLast?.elim 0 (· + 1)

/-! ## Panels that agree on early weeks -/

/-- Two panels with the same series, weeks and usable flags, which agree on the values of the weeks
at some places. -/
structure SameBefore (before : ℕ → Prop) (p q : List PanelRow) : Prop where
  cells : ∀ cell, cell ∈ p.map PanelRow.cell ↔ cell ∈ q.map PanelRow.cell
  usable : ∀ cell, (rowAt p cell).map PanelRow.usable = (rowAt q cell).map PanelRow.usable
  values : ∀ (t : ℕ) week, (panelWeeks p)[t]? = some week → before t →
    ∀ series, rowAt p (series, week) = rowAt q (series, week)

namespace SameBefore

variable {before : ℕ → Prop} {p q : List PanelRow} (h : SameBefore before p q)

include h

/-- A column of the cells has the same entries in both. -/
private theorem mem_map {α : Type} (f : SeriesKey × ℤ → α) (a : α) :
    a ∈ p.map (fun r => f r.cell) ↔ a ∈ q.map fun r => f r.cell := by
  have hcells : ∀ rows : List PanelRow,
      a ∈ rows.map (fun r => f r.cell) ↔ ∃ cell ∈ rows.map PanelRow.cell, f cell = a := by
    intro rows
    simp only [List.mem_map, exists_exists_and_eq_and]
  rw [hcells, hcells]
  simp only [h.cells]

theorem seriesIndex : panelSeries p = panelSeries q := by
  apply Series.insertionSort_eraseDups_congr _ seriesLe_antisymm
  exact h.mem_map Prod.fst

theorem mem_weekStart (week : ℤ) :
    week ∈ p.map PanelRow.weekStart ↔ week ∈ q.map PanelRow.weekStart :=
  h.mem_map Prod.snd week

theorem weeks : panelWeeks p = panelWeeks q := by
  apply Series.insertionSort_eraseDups_congr _ fun a b hab hba => le_antisymm hab hba
  exact h.mem_weekStart

/-- What depends on the usable flags alone is pivoted alike. -/
theorem usableMask : pivot p PanelRow.usable false = pivot q PanelRow.usable false := by
  rw [pivot, pivot, h.seriesIndex, h.weeks]
  simp only [h.usable]

/-- A column at one of the places is the same in both. -/
theorem pivot_at {α : Type} (value : PanelRow → α) (fill : α) (i : ℕ) {t : ℕ} (ht : before t) :
    (pivot p value fill).at i t = (pivot q value fill).at i t := by
  rw [Grid.at, Grid.at, pivot, pivot, List.getElem?_map, List.getElem?_map, h.seriesIndex]
  cases (panelSeries q)[i]? with
  | none => rfl
  | some series =>
      simp only [Option.map_some, Option.bind_some, List.getElem?_map]
      rw [← h.weeks]
      cases hweek : (panelWeeks p)[t]? with
      | none => rfl
      | some week => rw [Option.map_some, Option.map_some, h.values t week hweek ht series]

/-- Slices that end before the other places are the same. -/
theorem pivot_slice {α : Type} (value : PanelRow → α) (fill : α) {n : ℕ}
    (hn : ∀ t < n, before t) : (pivot p value fill).slice n = (pivot q value fill).slice n := by
  rw [Grid.slice, Grid.slice, pivot, pivot, List.map_map, List.map_map, h.seriesIndex]
  refine List.map_congr_left fun series _ => ?_
  ext t : 1
  simp only [Function.comp_apply, List.getElem?_take, List.getElem?_map]
  split
  · -- the column is one before the other places
    next ht =>
      rw [← h.weeks]
      cases hweek : (panelWeeks p)[t]? with
      | none => rfl
      | some week => rw [Option.map_some, Option.map_some, h.values t week hweek (hn t ht) series]
  · rfl

/-- As many weeks are usable. -/
theorem usableWeeks : usableWeeks (buildMatrices p) = usableWeeks (buildMatrices q) := by
  rw [Audit.usableWeeks, Audit.usableWeeks]
  show ((List.range (panelWeeks p).length).filter fun t =>
      (pivot p PanelRow.usable false).any fun row => row[t]? = some true).getLast?.elim 0 (· + 1) =
    ((List.range (panelWeeks q).length).filter fun t =>
      (pivot q PanelRow.usable false).any fun row => row[t]? = some true).getLast?.elim 0 (· + 1)
  rw [h.weeks, h.usableMask]

end SameBefore

end Restock.Audit
