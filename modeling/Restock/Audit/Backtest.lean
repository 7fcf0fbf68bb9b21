import Restock.Audit.Matrices
import Restock.Audit.Origins

/-!
# The rolling backtest

`harness.run_backtest`: at every origin fresh models are fitted on the weeks before it, and what
they predict is scored against the weeks from it on.

* `BatchModel` — a model: what it predicts once it is fitted, in the shape the interface promises;
* `BacktestRow`, `Gates` — a row of the scores, and why it is scored or not;
* `originRows`, `runBacktest` — the code;
* `mem_rows_runBacktest`, `scored_gatesOf_iff` — the rows of a block, and those that are scored;
* `shaped_prefix` — a model is fitted on exactly the weeks before the origin;
* `runBacktest_selection_congr` — the selection block reads no week of the validation block.
-/

namespace Restock.Audit.Selection

/-- `models.base.BatchModel`. A fresh instance is fitted on the weeks before an origin and predicts
the horizons, so that its predictions depend on these alone. Nothing stands for what is not a finite
number. -/
structure BatchModel where
  handlesIntermittent : Bool
  fitPredict : Grid (Option ℚ) → Grid Bool → ℕ → List ℕ → Grid (Option ℚ)
  /-- The predictions have a row for each series and a column for each horizon. -/
  shaped : ∀ y usable origin horizons,
    (fitPredict y usable origin horizons).Shaped y.length horizons.length

/-- Why a row is not scored. -/
inductive ExclusionReason
  | insufficientHistory
  | unusable
  | censored
  | beyondPanel
  deriving DecidableEq, Repr

/-- What is found of the target of a row. -/
structure Gates where
  beyond : Bool
  unusable : Bool
  insufficient : Bool
  censored : Bool
  deriving DecidableEq, Repr

namespace Gates

/-- `otherwise_ok`: the row passes but for censoring. -/
def otherwiseOk (g : Gates) : Bool :=
  !(g.beyond || g.unusable || g.insufficient)

def scored (g : Gates) : Bool :=
  g.otherwiseOk && !g.censored

/-- `exclusion_reason`, of which later assignments take precedence. -/
def reason (g : Gates) : Option ExclusionReason :=
  if g.scored then none
  else if g.beyond then some .beyondPanel
  else if g.censored then some .censored
  else if g.unusable then some .unusable
  else if g.insufficient then some .insufficientHistory
  else none

end Gates

/-- A row of the scores with what was found of its target. -/
structure BacktestRow extends ScoreRow where
  gates : Gates
  scored_eq : scored = gates.scored
  deriving DecidableEq, Repr

/-- What is left of a backtest. -/
structure BacktestResult where
  rows : List BacktestRow
  origins : List ℕ
  tier : HistoryTier
  deriving DecidableEq, Repr

namespace BacktestResult

variable (result : BacktestResult)

/-- `scores`. -/
def scores : List ScoreRow :=
  result.rows.map BacktestRow.toScoreRow

/-- `excluded_pct`: the share of censored rows among those that pass otherwise. -/
def excludedPct : ℚ :=
  let passing := result.rows.filter fun r => r.gates.otherwiseOk
  if passing = [] then 0
  else 100 * (passing.filter fun r => r.gates.censored).length / passing.length

end BacktestResult

section Code

variable (mats : PanelMatrices) (roster : List (String × BatchModel)) (scfg : SelectionCfg)

/-- `origin_date`, where the week past the panel is as long as the one before it. -/
def originDate (origin : ℕ) : ℤ :=
  nsPerDay * (mats.weeks[origin]?.getD
    (match mats.weeks.reverse with
      | last :: before :: _ => last + (last - before)
      | last :: [] => last + 7
      | [] => 0))

/-- `range(1, horizon + 1)`. -/
def horizons : List ℕ :=
  (List.range scfg.horizonWeeks.toNat).map (· + 1)

/-- What is found of the target of a series at a horizon. -/
def gatesOf (i t : ℕ) (prediction : Option ℚ) : Gates :=
  if mats.weeks.length ≤ t then
    { beyond := true, unusable := false, insufficient := prediction.isNone, censored := false }
  else
    { beyond := false
      unusable := mats.usableMask.at i t ≠ some true || (mats.yCorrected.at i t).join.isNone
      insufficient := prediction.isNone
      censored := scfg.excludeCensoredScoreWeeks && mats.stockoutMask.at i t = some true }

/-- A target that is scored has a value and a prediction. -/
theorem figures_gatesOf {i t : ℕ} {prediction : Option ℚ}
    (h : (gatesOf mats scfg i t prediction).scored) :
    (if mats.weeks.length ≤ t then none else (mats.yCorrected.at i t).join).isSome ∧
      prediction.isSome := by
  rw [gatesOf] at h
  split at h
  · simp [Gates.scored, Gates.otherwiseOk] at h
  · next hinside =>
      rw [if_neg hinside, Option.isSome_iff_ne_none, Option.isSome_iff_ne_none]
      simp only [Gates.scored, Gates.otherwiseOk, Bool.false_or, Bool.and_eq_true,
        Bool.not_eq_true', Bool.or_eq_false_iff, Option.isNone_eq_false_iff] at h
      exact ⟨Option.isSome_iff_ne_none.mp h.1.1.2, Option.isSome_iff_ne_none.mp h.1.2⟩

/-- The row of a series at a horizon after an origin. -/
def targetRow (block : Block) (origin : ℕ) (modelId : String) (predictions : Grid (Option ℚ))
    (i : ℕ) (series : SeriesKey) (h : ℕ) : BacktestRow :=
  let t := origin + h - 1
  let prediction := (predictions.at i (h - 1)).join
  { block
    originDate := originDate mats origin
    modelId
    series
    horizon := h
    yTrue := if mats.weeks.length ≤ t then none else (mats.yCorrected.at i t).join
    yPred := prediction
    scored := (gatesOf mats scfg i t prediction).scored
    figures := figures_gatesOf mats scfg
    gates := gatesOf mats scfg i t prediction
    scored_eq := rfl }

/-- The predictions of a model at an origin. -/
def predictionsAt (origin : ℕ) (model : BatchModel) : Grid (Option ℚ) :=
  model.fitPredict (mats.yCorrected.slice origin) (mats.usableMask.slice origin) origin
    (horizons scfg)

/-- The rows of an origin: model by model in the order of their ids, horizon by horizon. -/
def originRows (block : Block) (origin : ℕ) : List BacktestRow :=
  (roster.insertionSort fun a b => a.1 ≤ b.1).flatMap fun entry =>
    (horizons scfg).flatMap fun h =>
      mats.seriesIndex.mapIdx fun i series =>
        targetRow mats scfg block origin entry.1 (predictionsAt mats scfg origin entry.2) i series h

/-- The origins of a block. -/
def blockOrigins (plan : OriginPlan) : Block → List ℤ
  | .selection => plan.selectionOriginIdx
  | .validation => plan.validationOriginIdx

/-- The origins of a block that are run: those that lie in the panel. -/
def originsRun (plan : OriginPlan) (block : Block) : List ℕ :=
  ((blockOrigins plan block).filter fun o : ℤ => 0 < o ∧ o ≤ mats.weeks.length).map Int.toNat

/-- `run_backtest`. -/
def runBacktest (blocks : List Block) (plan : OriginPlan) : BacktestResult where
  rows := blocks.flatMap fun block =>
    (originsRun mats plan block).flatMap fun origin => originRows mats roster scfg block origin
  origins := blocks.flatMap (originsRun mats plan)
  tier := plan.tier

end Code

/-! ## The rows of a block -/

/-- The rows of a block are those of a series and a horizon, at an origin that is run and for a
model of the roster. -/
theorem mem_rows_runBacktest {mats : PanelMatrices} {roster : List (String × BatchModel)}
    {scfg : SelectionCfg} {block : Block} {plan : OriginPlan} {r : BacktestRow} :
    r ∈ (runBacktest mats roster scfg [block] plan).rows ↔
      ∃ origin ∈ originsRun mats plan block, ∃ entry ∈ roster, ∃ h ∈ horizons scfg,
        ∃ i series, mats.seriesIndex[i]? = some series ∧
          targetRow mats scfg block origin entry.1 (predictionsAt mats scfg origin entry.2) i series
            h = r := by
  simp only [runBacktest, List.flatMap_singleton, originRows, List.mem_flatMap,
    List.mem_insertionSort, List.mem_mapIdx, List.getElem?_eq_some_iff]
  constructor
  · rintro ⟨origin, horigin, entry, hentry, h, hh, i, hi, rfl⟩
    exact ⟨origin, horigin, entry, hentry, h, hh, i, _, ⟨hi, rfl⟩, rfl⟩
  · rintro ⟨origin, horigin, entry, hentry, h, hh, i, series, ⟨hi, rfl⟩, rfl⟩
    exact ⟨origin, horigin, entry, hentry, h, hh, i, hi, rfl⟩

/-- A target is scored when there is a prediction, and the panel has a row for it that is usable and
not censored. -/
theorem scored_gatesOf_iff {panel : List PanelRow} {scfg : SelectionCfg} {i t : ℕ}
    {series : SeriesKey} (hseries : (panelSeries panel)[i]? = some series)
    (prediction : Option ℚ) :
    (gatesOf (buildMatrices panel) scfg i t prediction).scored = true ↔
      prediction.isSome = true ∧ ∃ week row, (panelWeeks panel)[t]? = some week ∧
        rowAt panel (series, week) = some row ∧ row.usable = true ∧
          (scfg.excludeCensoredScoreWeeks && row.hmStockout) = false := by
  have hlength : (buildMatrices panel).weeks.length = (panelWeeks panel).length := rfl
  rw [gatesOf, hlength]
  cases hweek : (panelWeeks panel)[t]? with
  | none =>
      -- the target lies beyond the panel
      rw [if_pos (List.getElem?_eq_none_iff.mp hweek)]
      simp [Gates.scored, Gates.otherwiseOk]
  | some week =>
      have hinside : ¬ (panelWeeks panel).length ≤ t := by
        rw [← List.getElem?_eq_none_iff, hweek]
        exact Option.some_ne_none week
      rw [if_neg hinside]
      have husable : (buildMatrices panel).usableMask.at i t = _ :=
        pivot_at_eq panel PanelRow.usable false hseries hweek
      have hcorrected : (buildMatrices panel).yCorrected.at i t = _ :=
        pivot_at_eq panel (fun r => some r.unitsCorrected) none hseries hweek
      have hstockout : (buildMatrices panel).stockoutMask.at i t = _ :=
        pivot_at_eq panel PanelRow.hmStockout false hseries hweek
      rw [husable, hcorrected, hstockout]
      cases hrow : rowAt panel (series, week) with
      | none => simp [Gates.scored, Gates.otherwiseOk, hrow]
      | some row =>
          have hrows : (∃ week' row', some week = some week' ∧
              rowAt panel (series, week') = some row' ∧ row'.usable = true ∧
                (scfg.excludeCensoredScoreWeeks && row'.hmStockout) = false) ↔
              row.usable = true ∧ (scfg.excludeCensoredScoreWeeks && row.hmStockout) = false := by
            constructor
            · rintro ⟨week', row', hweek', hrow', hpasses⟩
              cases hweek'
              rw [hrow] at hrow'
              cases hrow'
              exact hpasses
            · exact fun hpasses => ⟨week, row, rfl, hrow, hpasses⟩
          rw [hrows]
          cases prediction <;>
            simp [Gates.scored, Gates.otherwiseOk, -Bool.and_eq_false_imp, Bool.and_eq_false_iff]

/-! ## What a model is fitted on -/

/-- A model is fitted on exactly the weeks before the origin, so that the assertion of
`BatchModel.fit` holds at every origin. -/
theorem shaped_prefix {mats : PanelMatrices} {plan : OriginPlan} {block : Block} {origin : ℕ}
    (h : origin ∈ originsRun mats plan block) :
    (mats.yCorrected.slice origin).Shaped mats.seriesIndex.length origin ∧
      (mats.usableMask.slice origin).Shaped mats.seriesIndex.length origin := by
  have hle : origin ≤ mats.weeks.length := by
    obtain ⟨o, ho, rfl⟩ := List.mem_map.mp h
    have hrange := of_decide_eq_true (List.mem_filter.mp ho).2
    omega
  exact ⟨mats.shapedCorrected.slice hle, mats.shapedUsable.slice hle⟩

/-! ## Two panels that agree before the validation block -/

/-- A week lies before every origin of the validation block. -/
def BeforeValidation (plan : OriginPlan) (t : ℕ) : Prop :=
  ∀ v ∈ plan.validationOriginIdx, (t : ℤ) < v

section Congr

variable {before : ℕ → Prop} {p q : List PanelRow} (h : SameBefore before p q)
  (scfg : SelectionCfg)

include h

private theorem weeks_congr : (buildMatrices p).weeks = (buildMatrices q).weeks :=
  h.weeks

theorem originDate_congr (origin : ℕ) :
    originDate (buildMatrices p) origin = originDate (buildMatrices q) origin := by
  rw [originDate, originDate, weeks_congr h]

/-- The target of a row is the same when its week is one of those that agree. -/
theorem targetRow_congr (block : Block) (origin : ℕ) (modelId : String)
    (predictions : Grid (Option ℚ)) (i : ℕ) (series : SeriesKey) {horizon : ℕ}
    (ht : before (origin + horizon - 1)) :
    targetRow (buildMatrices p) scfg block origin modelId predictions i series horizon =
      targetRow (buildMatrices q) scfg block origin modelId predictions i series horizon := by
  have htrue : (buildMatrices p).yCorrected.at i (origin + horizon - 1) =
      (buildMatrices q).yCorrected.at i (origin + horizon - 1) := h.pivot_at _ _ i ht
  have husable : (buildMatrices p).usableMask = (buildMatrices q).usableMask := h.usableMask
  have hstockout : (buildMatrices p).stockoutMask.at i (origin + horizon - 1) =
      (buildMatrices q).stockoutMask.at i (origin + horizon - 1) := h.pivot_at _ _ i ht
  simp only [targetRow, gatesOf, weeks_congr h, originDate_congr h, htrue, husable, hstockout]

/-- A model predicts the same when the weeks before the origin agree. -/
theorem predictionsAt_congr {origin : ℕ} (model : BatchModel) (ho : ∀ t < origin, before t) :
    predictionsAt (buildMatrices p) scfg origin model =
      predictionsAt (buildMatrices q) scfg origin model := by
  have hcorrected : (buildMatrices p).yCorrected.slice origin =
      (buildMatrices q).yCorrected.slice origin := h.pivot_slice _ _ ho
  have husable : (buildMatrices p).usableMask = (buildMatrices q).usableMask := h.usableMask
  rw [predictionsAt, predictionsAt, hcorrected, husable]

/-- The rows of an origin are the same when all weeks it scores agree, and those before them. -/
theorem originRows_congr (roster : List (String × BatchModel)) (block : Block) {origin : ℕ}
    (hagree : ∀ horizon ∈ horizons scfg, ∀ t < origin + horizon, before t) :
    originRows (buildMatrices p) roster scfg block origin =
      originRows (buildMatrices q) roster scfg block origin := by
  have hseries : (buildMatrices p).seriesIndex = (buildMatrices q).seriesIndex := h.seriesIndex
  rw [originRows, originRows, hseries]
  refine List.flatMap_congr fun entry _ => List.flatMap_congr fun horizon hhorizon => ?_
  have hpos : 0 < horizon := by
    obtain ⟨k, -, rfl⟩ := List.mem_map.mp hhorizon
    omega
  rw [predictionsAt_congr h scfg entry.2 fun t ht => hagree horizon hhorizon t (by omega)]
  congr 1
  ext i series : 2
  exact targetRow_congr h scfg block origin entry.1 _ i series
    (hagree horizon hhorizon _ (by omega))

end Congr

/-- The selection block of a backtest reads no week from the first origin of validation on, when
no horizon is longer than a step. -/
theorem runBacktest_selection_congr {p q : List PanelRow} {scfg : SelectionCfg} {n : ℕ}
    (hstep : scfg.horizonWeeks ≤ scfg.stepWeeks)
    (h : SameBefore (BeforeValidation (planOrigins scfg n)) p q)
    (roster : List (String × BatchModel)) :
    runBacktest (buildMatrices p) roster scfg [.selection] (planOrigins scfg n) =
      runBacktest (buildMatrices q) roster scfg [.selection] (planOrigins scfg n) := by
  have hweeks : (buildMatrices p).weeks = (buildMatrices q).weeks := h.weeks
  have horigins : originsRun (buildMatrices p) (planOrigins scfg n) =
      originsRun (buildMatrices q) (planOrigins scfg n) := by
    ext block : 1
    rw [originsRun, originsRun, hweeks]
  rw [runBacktest, runBacktest, horigins, BacktestResult.mk.injEq]
  refine ⟨?_, rfl, rfl⟩
  rw [List.flatMap_singleton, List.flatMap_singleton]
  refine List.flatMap_congr fun origin horigin => ?_
  obtain ⟨o, ho, rfl⟩ := List.mem_map.mp horigin
  obtain ⟨hmem, hrange⟩ := List.mem_filter.mp ho
  have hpos : 0 < o := (of_decide_eq_true hrange).1
  apply originRows_congr h
  intro horizon hhorizon t ht v hv
  -- a horizon of at least a week makes the step positive
  obtain ⟨k, hk, rfl⟩ := List.mem_map.mp hhorizon
  rw [List.mem_range] at hk
  have hle := step_le_of_mem_origins (by omega) hmem hv
  omega

end Restock.Audit.Selection
