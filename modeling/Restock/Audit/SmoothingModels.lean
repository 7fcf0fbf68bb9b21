import Restock.Audit.NaiveModels
import Restock.Series.Best
import Restock.Series.Averages

/-!
# The smoothing models

`models/smoothing.py`. The recursion runs over the weeks with a cell for each series and each
smoothing constant of a grid; the constant with the least error so far is picked for each series.

* `sesStep`, `sesGrid`, `pickAlpha` — the recursion and the choice;
* `compress` — the values of each row packed to the left, in rows as wide as the longest;
* `ses`, `theta` — the models M6 and M7;
* `sesLevel_eq` — its level is the exponentially smoothed one;
* `sesOf`, `thetaOf` — their rules.
-/

namespace Restock.Audit.Selection

open Series (best best_mem smooth smoothed sweep)

/-! ## The recursion -/

/-- A cell of `ses_grid`: the level, and its errors before each update. -/
structure SesCell where
  /-- Nothing before the first value. -/
  level : Option ℚ := none
  errSum : ℚ := 0
  errCnt : ℕ := 0
  deriving DecidableEq, Repr

/-- A week of the recursion. A missing value is skipped. -/
def sesStep (alpha : ℚ) (cell : SesCell) (y : Option ℚ) : SesCell :=
  match y, cell.level with
  | none, _ => cell
  | some y, none => { cell with level := some y }
  | some y, some level =>
      { level := some (level + alpha * (y - level))
        errSum := cell.errSum + |y - level|
        errCnt := cell.errCnt + 1 }

/-- The cells of a series, one for each smoothing constant, after a week. -/
def sesWeek (alphas : List ℚ) (cells : List SesCell) (y : Option ℚ) : List SesCell :=
  List.zipWith (fun alpha cell => sesStep alpha cell y) alphas cells

/-- `ses_grid`. -/
def sesGrid (history : Grid (Option ℚ)) (alphas : List ℚ) (weeks : ℕ) : List (List SesCell) :=
  sweep (alphas.map fun _ => {}) (sesWeek alphas) history weeks

/-- The mean error of a cell: nothing for fewer than two values. -/
def SesCell.mae (cell : SesCell) : Option ℚ :=
  if cell.errCnt = 0 then none else some (cell.errSum / max (cell.errCnt : ℚ) 1)

/-- The error of one cell is less than another's, where none is infinite. -/
def lessError : Option ℚ → Option ℚ → Bool
  | some a, some b => a < b
  | some _, none => true
  | none, _ => false

/-- `_pick_alpha`: the first constant with the least error, and its cell. -/
def pickAlpha (alphas : List ℚ) (cells : List SesCell) : Option (ℚ × SesCell) :=
  match List.zip alphas cells with
  | [] => none
  | first :: others => some (best (fun a b => lessError a.2.mae b.2.mae) first others)

/-- `np.linspace`. -/
def linspace (bounds : ℚ × ℚ) (n : ℕ) : List ℚ :=
  (List.range n).map fun k => bounds.1 + k * ((bounds.2 - bounds.1) / ((n : ℚ) - 1))

/-! ## M6 -/

/-- `SES`. -/
def ses (alphaBounds : ℚ × ℚ) (nGrid : ℕ) : BatchModel :=
  let alphas := linspace alphaBounds nGrid
  fitted false
    (fun y usable origin =>
      withheld (insufficientHistory y usable 8)
        ((sesGrid (maskedHistory y usable) alphas origin).map fun cells =>
          (pickAlpha alphas cells).bind fun picked => picked.2.level))
    fun level _ => level

/-- The cells of a series after its values. -/
def sesCells (alphas values : List ℚ) : List SesCell :=
  alphas.map fun alpha => values.foldl (fun cell y => sesStep alpha cell (some y)) {}

/-- The constant that is picked after some values. -/
def pickedAlpha (alphas values : List ℚ) : Option ℚ :=
  (pickAlpha alphas (sesCells alphas values)).map Prod.fst

/-- The level that is picked after some values. -/
def sesLevel (alphas values : List ℚ) : Option ℚ :=
  (pickAlpha alphas (sesCells alphas values)).bind fun picked => picked.2.level

/-- The rule of M6. -/
def sesOf (alphas : List ℚ) (values : List ℚ) (_ : ℕ) : Option ℚ :=
  if (values.length : ℤ) < 8 then none else sesLevel alphas values

/-- The cells of a series do not look at each other. -/
theorem foldl_sesWeek (alphas values : List ℚ) (cell : ℚ → SesCell) :
    values.foldl (fun cells y => sesWeek alphas cells (some y)) (alphas.map cell) =
      alphas.map fun alpha =>
        values.foldl (fun cell y => sesStep alpha cell (some y)) (cell alpha) := by
  induction values generalizing cell with
  | nil => rfl
  | cons y values ih =>
      have hweek : sesWeek alphas (alphas.map cell) (some y) =
          alphas.map fun alpha => sesStep alpha (cell alpha) (some y) := by
        rw [sesWeek, List.zipWith_map_right, List.zipWith_self]
      rw [List.foldl_cons, hweek, ih]
      rfl

/-- A missing value is skipped by all cells of a series. -/
theorem sesWeek_none {alphas : List ℚ} {cells : List SesCell}
    (h : cells.length = alphas.length) : sesWeek alphas cells none = cells := by
  rw [sesWeek]
  apply List.ext_getElem
  · rw [List.length_zipWith, h, min_self]
  · intro i hi hi'
    rw [List.getElem_zipWith, sesStep]

/-- After the weeks of a row, each cell has seen its values. -/
theorem foldl_sesWeek_row (alphas : List ℚ) (row : List (Option ℚ)) :
    row.foldl (sesWeek alphas) (alphas.map fun _ => {}) = sesCells alphas row.reduceOption := by
  have hgeneral : ∀ cells : List SesCell, cells.length = alphas.length →
      row.foldl (sesWeek alphas) cells =
        row.reduceOption.foldl (fun cells y => sesWeek alphas cells (some y)) cells := by
    induction row with
    | nil => exact fun _ _ => rfl
    | cons y row ih =>
        intro cells hcells
        cases y with
        | none =>
          rw [List.foldl_cons, sesWeek_none hcells, ih cells hcells,
            List.reduceOption_cons_of_none]
        | some y =>
          have hlength : (sesWeek alphas cells (some y)).length = alphas.length := by
            rw [sesWeek, List.length_zipWith, hcells, min_self]
          rw [List.foldl_cons, ih _ hlength, List.reduceOption_cons_of_some, List.foldl_cons]
  rw [hgeneral _ (List.length_map _), foldl_sesWeek]
  rfl

/-- The grid of a history has the cells of each row. -/
theorem sesGrid_eq {history : Grid (Option ℚ)} {weeks : ℕ} (alphas : List ℚ)
    (h : ∀ row ∈ history, row.length = weeks) :
    sesGrid history alphas weeks = history.map fun row => sesCells alphas row.reduceOption := by
  rw [sesGrid, Series.sweep_eq h]
  exact List.map_congr_left fun row _ => foldl_sesWeek_row alphas row

theorem ses_forecastsBy (alphaBounds : ℚ × ℚ) (nGrid : ℕ) :
    ForecastsBy (ses alphaBounds nGrid) (sesOf (linspace alphaBounds nGrid)) :=
  forecastsBy_fitted (fun values => sesOf (linspace alphaBounds nGrid) values 0)
    (fun y usable origin haligned => by
      rw [sesGrid_eq _ haligned.length_row, List.map_map]
      exact withheld_map fun _ => rfl) fun _ _ => rfl

/-- The level of a cell after values: they are smoothed exponentially. -/
theorem level_foldl_sesStep (alpha value : ℚ) (values : List ℚ) :
    ((value :: values).foldl (fun cell y => sesStep alpha cell (some y)) {}).level =
      some (smoothed alpha value values) := by
  have hgeneral : ∀ (cell : SesCell) (level : ℚ), cell.level = some level →
      (values.foldl (fun cell y => sesStep alpha cell (some y)) cell).level =
        some (smoothed alpha level values) := by
    induction values with
    | nil => exact fun _ _ h => h
    | cons y values ih =>
        intro cell level hlevel
        rw [List.foldl_cons, Series.smoothed_cons]
        exact ih _ _ (by simp only [sesStep, hlevel, smooth])
  exact hgeneral _ value rfl

/-- The constants with their cells. -/
theorem zip_sesCells (alphas values : List ℚ) :
    List.zip alphas (sesCells alphas values) = alphas.map fun alpha =>
      (alpha, values.foldl (fun cell y => sesStep alpha cell (some y)) {}) := by
  rw [sesCells]
  nth_rewrite 1 [← List.map_id alphas]
  rw [List.zip_map']
  rfl

/-- What is picked is a constant of the grid with its cell. -/
theorem pickAlpha_sesCells {alphas values : List ℚ} {alpha : ℚ} {cell : SesCell}
    (h : pickAlpha alphas (sesCells alphas values) = some (alpha, cell)) :
    alpha ∈ alphas ∧ cell = values.foldl (fun cell y => sesStep alpha cell (some y)) {} := by
  have hmem : (alpha, cell) ∈ List.zip alphas (sesCells alphas values) := by
    rw [pickAlpha] at h
    cases hzip : List.zip alphas (sesCells alphas values) with
    | nil => simp [hzip] at h
    | cons first others =>
      simp only [hzip, Option.some.injEq] at h
      exact h ▸ best_mem _ first others
  rw [zip_sesCells, List.mem_map] at hmem
  obtain ⟨a, ha, heq⟩ := hmem
  obtain ⟨rfl, rfl⟩ := Prod.mk.inj heq
  exact ⟨ha, rfl⟩

/-- The level that is picked after values, by the constant that is picked. -/
theorem sesLevel_eq (alphas : List ℚ) (value : ℚ) (values : List ℚ) :
    sesLevel alphas (value :: values) =
      (pickedAlpha alphas (value :: values)).map fun alpha => smoothed alpha value values := by
  rw [sesLevel, pickedAlpha]
  cases hpick : pickAlpha alphas (sesCells alphas (value :: values)) with
  | none => rfl
  | some picked =>
    have hcell := (pickAlpha_sesCells hpick).2
    rw [Option.bind_some, hcell, level_foldl_sesStep]
    rfl

theorem pickedAlpha_mem {alphas values : List ℚ} {alpha : ℚ}
    (h : pickedAlpha alphas values = some alpha) : alpha ∈ alphas := by
  obtain ⟨⟨a, cell⟩, hpick, rfl⟩ := Option.map_eq_some_iff.mp h
  exact (pickAlpha_sesCells hpick).1

/-! ## M7 -/

/-- The number of columns that `compress` packs a history into. -/
def packedWidth (history : Grid (Option ℚ)) : ℕ :=
  max (((history.map fun row => row.countP Option.isSome).max?).getD 0) 1

/-- `compress`. -/
def compress (history : Grid (Option ℚ)) : Grid (Option ℚ) :=
  history.map fun row =>
    row.reduceOption.map some ++
      List.replicate (packedWidth history - row.reduceOption.length) none

/-- The points that the trend of a packed row is fitted to. -/
def points (row : List (Option ℚ)) : List (ℚ × ℚ) :=
  row.zipIdx.filterMap fun cell => cell.1.map fun y => ((cell.2 : ℚ), y)

/-- `b`: the slope of the least-squares line. -/
def slope (points : List (ℚ × ℚ)) : ℚ :=
  let n : ℚ := points.length
  let st := (points.map fun p => p.1).sum
  let st2 := (points.map fun p => p.1 ^ 2).sum
  let sy := (points.map fun p => p.2).sum
  let sty := (points.map fun p => p.2 * p.1).sum
  let denom := n * st2 - st ^ 2
  if 0 < denom then (n * sty - st * sy) / denom else 0

/-- `a`: its intercept. Nothing without points. -/
def intercept (points : List (ℚ × ℚ)) : Option ℚ :=
  let n : ℚ := points.length
  let st := (points.map fun p => p.1).sum
  let sy := (points.map fun p => p.2).sum
  if 0 < n then some ((sy - slope points * st) / max n 1) else none

/-- `Z`: the theta line of a packed row, which doubles the distance to the trend. -/
def thetaLine (row : List (Option ℚ)) : List (Option ℚ) :=
  row.zipIdx.map fun cell => do
    let y ← cell.1
    let a ← intercept (points row)
    return 2 * y - (a + slope (points row) * cell.2)

/-- What `Theta` keeps of a series. -/
structure ThetaFit where
  level2 : Option ℚ
  a : Option ℚ
  b : ℚ
  n : ℚ
  deriving DecidableEq, Repr

/-- The smoothed theta line and the trend, half each. -/
def ThetaFit.forecast (kept : ThetaFit) (h : ℕ) : Option ℚ := do
  let level2 ← kept.level2
  let a ← kept.a
  return 1 / 2 * level2 + 1 / 2 * (a + kept.b * (kept.n - 1 + h))

/-- `Theta`. -/
def theta (alphaBounds : ℚ × ℚ) (nGrid : ℕ) : BatchModel :=
  let alphas := linspace alphaBounds nGrid
  fitted false
    (fun y usable _ =>
      let history := maskedHistory y usable
      let packed := compress history
      let insufficient := insufficientHistory y usable 13
      let levels := withheld insufficient
        ((sesGrid (packed.map thetaLine) alphas (packedWidth history)).map fun cells =>
          (pickAlpha alphas cells).bind fun picked => picked.2.level)
      let intercepts := withheld insufficient (packed.map fun row => intercept (points row))
      List.zipWith (fun kept row =>
          { level2 := kept.1, a := kept.2, b := slope (points row), n := (points row).length })
        (List.zip levels intercepts) packed)
    ThetaFit.forecast

/-- The points of some values. -/
def valuePoints (values : List ℚ) : List (ℚ × ℚ) :=
  points (values.map some)

/-- The theta line of some values. -/
def thetaValues (values : List ℚ) : List ℚ :=
  (thetaLine (values.map some)).reduceOption

/-- What `Theta` keeps of some values. -/
def thetaFitOf (alphas values : List ℚ) : ThetaFit where
  level2 := if (values.length : ℤ) < 13 then none else sesLevel alphas (thetaValues values)
  a := if (values.length : ℤ) < 13 then none else intercept (valuePoints values)
  b := slope (valuePoints values)
  n := (valuePoints values).length

/-- The rule of M7. -/
def thetaOf (alphas : List ℚ) (values : List ℚ) (h : ℕ) : Option ℚ :=
  (thetaFitOf alphas values).forecast h

/-- The columns of a packed row past its values hold no points. -/
theorem points_packed (values : List ℚ) (n : ℕ) :
    points (values.map some ++ List.replicate n none) = valuePoints values := by
  have hnone : ∀ k, (List.zipIdx (List.replicate n (none : Option ℚ)) k).filterMap
      (fun cell => cell.1.map fun y => ((cell.2 : ℚ), y)) = [] := by
    intro k
    rw [List.filterMap_eq_nil_iff]
    intro cell hcell
    have hmem : cell.1 ∈ List.replicate n none := List.fst_mem_of_mem_zipIdx hcell
    rw [List.eq_of_mem_replicate hmem, Option.map_none]
  rw [points, List.zipIdx_append, List.filterMap_append, hnone, List.append_nil]
  rfl

/-- Nor of the theta line. -/
theorem thetaLine_packed (values : List ℚ) (n : ℕ) :
    (thetaLine (values.map some ++ List.replicate n none)).reduceOption = thetaValues values := by
  have hnone : ∀ k (a : Option ℚ) (b : ℚ),
      ((List.zipIdx (List.replicate n (none : Option ℚ)) k).map fun cell => (do
        let y ← cell.1
        let a ← a
        return 2 * y - (a + b * cell.2) : Option ℚ)).reduceOption = [] := by
    intro k a b
    rw [List.reduceOption_eq_nil_iff]
    refine ⟨n, List.eq_replicate_iff.mpr ⟨by simp, fun cell hcell => ?_⟩⟩
    obtain ⟨cell, hmem, rfl⟩ := List.mem_map.mp hcell
    have hmem : cell.1 ∈ List.replicate n none := List.fst_mem_of_mem_zipIdx hmem
    rw [List.eq_of_mem_replicate hmem]
    rfl
  rw [thetaLine, points_packed, List.zipIdx_append, List.map_append, List.reduceOption_append,
    hnone, List.append_nil]
  rfl

/-- Every row is packed into the same number of columns. -/
theorem length_compress {history : Grid (Option ℚ)} {row : List (Option ℚ)}
    (h : row ∈ (compress history).map thetaLine) : row.length = packedWidth history := by
  obtain ⟨packed, hpacked, rfl⟩ := List.mem_map.mp h
  obtain ⟨row, hrow, rfl⟩ := List.mem_map.mp hpacked
  have hle : row.reduceOption.length ≤ packedWidth history := by
    have hmem : row.countP Option.isSome ∈ history.map fun row => row.countP Option.isSome :=
      List.mem_map_of_mem hrow
    rw [← Series.countP_isSome, packedWidth]
    refine le_max_of_le_left ?_
    cases hmax : (history.map fun row => row.countP Option.isSome).max? with
    | none => simp [List.max?_eq_none_iff.mp hmax] at hmem
    | some widest => exact (List.max?_eq_some_iff.mp hmax).2 _ hmem
  rw [thetaLine, List.length_map, List.length_zipIdx, List.length_append, List.length_map,
    List.length_replicate]
  omega

theorem theta_forecastsBy (alphaBounds : ℚ × ℚ) (nGrid : ℕ) :
    ForecastsBy (theta alphaBounds nGrid) (thetaOf (linspace alphaBounds nGrid)) := by
  refine forecastsBy_fitted (thetaFitOf (linspace alphaBounds nGrid))
    (fun y usable origin haligned => ?_) fun _ _ => rfl
  -- The smoothing runs over packed rows, the trend is fitted to their points: neither sees the
  -- columns past the values.
  have hlevels : (sesGrid ((compress (maskedHistory y usable)).map thetaLine)
        (linspace alphaBounds nGrid) (packedWidth (maskedHistory y usable))).map
        (fun cells => (pickAlpha (linspace alphaBounds nGrid) cells).bind
          fun picked => picked.2.level) =
      (maskedHistory y usable).map fun row =>
        sesLevel (linspace alphaBounds nGrid) (thetaValues row.reduceOption) := by
    rw [sesGrid_eq _ fun row => length_compress, compress, List.map_map, List.map_map,
      List.map_map]
    apply List.map_congr_left
    intro row _
    simp only [Function.comp_apply, thetaLine_packed]
    rfl
  have hintercepts : (compress (maskedHistory y usable)).map (fun row => intercept (points row)) =
      (maskedHistory y usable).map fun row => intercept (valuePoints row.reduceOption) := by
    rw [compress, List.map_map]
    apply List.map_congr_left
    intro row _
    rw [Function.comp_apply, points_packed]
  dsimp only
  rw [hlevels, hintercepts,
    withheld_reduceOption fun values => sesLevel (linspace alphaBounds nGrid) (thetaValues values),
    withheld_reduceOption fun values => intercept (valuePoints values), List.zip_map', compress,
    usableValues, List.map_map, List.zipWith_map, List.zipWith_self, List.map_map]
  apply List.map_congr_left
  intro row _
  simp only [Function.comp_apply, points_packed]
  rfl

end Restock.Audit.Selection
