import Restock.Audit.Backtest
import Restock.Audit.Champions
import Restock.Audit.Decisions

/-!
# The nested experiment

`nested.run_nested` scores every model on the selection block, picks the champions, and scores those
on the validation block, which it does once for a run directory. `cli.run` hands it the matrices of
the clean panel and the segments of the same panel.

The champions are meant to be picked on the selection block alone. The scores they are picked by are
those of that block, but the segments they are picked for are computed as of the last week of the
panel.

* `runNested`, `auditChampions` — the code;
* `champions_runNested` — the champions are picked from the scores of the selection block;
* `Scorable` — the series that the selection block can score;
* `auditChampions_eq_iff` — the champions do not depend on the validation block exactly when the
  segments of these series do not;
* `later_sale_changes_champions` — a week of the validation block that changes a champion.
-/

namespace Restock.Audit.Selection

/-- What `run_nested` raises. -/
inductive NestedError
  /-- The validation block was already scored. -/
  | alreadyScored
  deriving DecidableEq, Repr

/-- What `run_nested` returns. -/
structure NestedResult where
  plan : OriginPlan
  selScores : List ScoreRow
  valScores : List ScoreRow
  champions : List ChampionRow
  /-- The segments of the routing table. -/
  routing : Routing
  excludedPct : ℚ
  /-- The marker that the validation block was scored is written. -/
  touched : Bool
  deriving DecidableEq, Repr

/-- `intermittent_ok`. -/
def intermittentOk (roster : List (String × BatchModel)) : Option (List String) :=
  match (roster.filter fun e => e.2.handlesIntermittent).map Prod.fst with
  | [] => none
  | ids => some ids

/-- The champions of S1, by segment. -/
def championsS1 (champions : List ChampionRow) : List (String × String) :=
  (champions.filter fun c => c.strategy = .S1).map fun c => (c.scopeValue, c.championModelId)

section Code

variable (mats : PanelMatrices) (roster : List (String × BatchModel)) (config : Config)
  (segments : List SegmentRow) (markerExists force : Bool)

/-- The plan of a run. -/
def runPlan : OriginPlan :=
  planOrigins config.selection (usableWeeks mats)

/-- The run has a validation block. -/
def validates : Bool :=
  (runPlan mats config).tier = .nested ∧ (runPlan mats config).validationOriginIdx ≠ []

/-- `run_nested`. -/
def runNested : Except NestedError NestedResult :=
  let plan := runPlan mats config
  if plan.tier = .none then
    .ok {
      plan
      selScores := []
      valScores := []
      champions := [globalChampion config]
      routing := []
      excludedPct := 0
      touched := false }
  else
    let sel := runBacktest mats roster config.selection [.selection] plan
    let champions := pickChampions config (intermittentOk roster) segments sel.scores
    if validates mats config ∧ markerExists ∧ !force then .error .alreadyScored
    else
      -- only champions are scored on the validation block
      let chosen := roster.filter fun e => e.1 ∈ champions.map ChampionRow.championModelId
      let valScores :=
        if validates mats config then
          (runBacktest mats chosen config.selection [.validation] plan).scores
        else []
      .ok {
        plan
        selScores := sel.scores
        valScores
        champions
        routing := routingTable config (championsS1 champions) valScores
        excludedPct := sel.excludedPct
        touched := validates mats config }

/-- The champions of a run come from the scores of its selection block. -/
theorem champions_runNested :
    (runNested mats roster config segments markerExists force).map NestedResult.champions =
      if (runPlan mats config).tier = .none then .ok [globalChampion config]
      else if validates mats config ∧ markerExists ∧ !force then .error .alreadyScored
      else .ok (pickChampions config (intermittentOk roster) segments
        (runBacktest mats roster config.selection [.selection] (runPlan mats config)).scores) := by
  rw [runNested]
  split
  · rfl
  · split <;> rfl

end Code

/-- The selection block's scores of a panel. -/
def selectionScores (panel : List PanelRow) (roster : List (String × BatchModel))
    (config : Config) : List ScoreRow :=
  (runBacktest (buildMatrices panel) roster config.selection [.selection]
    (runPlan (buildMatrices panel) config)).scores

section Audit

variable (sqrt : ℚ → ℚ) (segmentsCfg : SegmentsCfg) (config : Config)
  (priceLookup : List (String × ℚ))

/-- The champions that `cli.run` comes to from a clean panel: nothing when a step throws. -/
def auditChampions (roster : List (String × BatchModel)) (markerExists force : Bool)
    (panel : List PanelRow) : Option (List ChampionRow) := do
  let segments ← computeSegments sqrt segmentsCfg priceLookup panel
  let champions :=
    (runNested (buildMatrices panel) roster config segments markerExists force).map
      NestedResult.champions
  champions.toOption

/-- The routing segment that a series of a panel gets. -/
def routedTo (panel : List PanelRow) (series : SeriesKey) : Option String :=
  (computeSegments sqrt segmentsCfg priceLookup panel).map fun segments => segmentOf segments series

/-- The champions of a panel whose segments are computed. -/
theorem auditChampions_of_segments {panel : List PanelRow} {segments : List SegmentRow}
    (h : computeSegments sqrt segmentsCfg priceLookup panel = some segments)
    (roster : List (String × BatchModel)) (markerExists force : Bool) :
    auditChampions sqrt segmentsCfg config priceLookup roster markerExists force panel =
      if (runPlan (buildMatrices panel) config).tier = .none then some [globalChampion config]
      else if validates (buildMatrices panel) config ∧ markerExists ∧ !force then none
      else some (pickChampions config (intermittentOk roster) segments
        (selectionScores panel roster config)) := by
  rw [auditChampions, h, Option.bind_eq_bind, Option.bind_some, champions_runNested]
  split
  · rfl
  · split <;> rfl

end Audit

/-! ## The series that are scored -/

/-- The selection block can score the series: one of the weeks that its origins forecast is usable,
and not censored. -/
def Scorable (config : Config) (panel : List PanelRow) (series : SeriesKey) : Prop :=
  ∃ o ∈ (runPlan (buildMatrices panel) config).selectionOriginIdx,
    ∃ h ∈ horizons config.selection, ∃ week row,
      (panelWeeks panel)[(o + h - 1).toNat]? = some week ∧
        rowAt panel (series, week) = some row ∧ row.usable = true ∧
          (config.selection.excludeCensoredScoreWeeks && row.hmStockout) = false

/-- The panel has rows of such a series. -/
theorem Scorable.mem_panelSeries {config : Config} {panel : List PanelRow} {series : SeriesKey}
    (h : Scorable config panel series) : series ∈ panelSeries panel := by
  obtain ⟨-, -, -, -, week, row, -, hrow, -⟩ := h
  exact mem_panelSeries_of_rowAt hrow

section Scored

variable {config : Config} {p q : List PanelRow} {roster : List (String × BatchModel)}

/-- What is scored can be. -/
theorem scorable_of_mem {r : ScoreRow} (hr : r ∈ withTerms (selectionScores p roster config)) :
    Scorable config p r.series := by
  rw [withTerms_eq_filter, List.mem_filter] at hr
  obtain ⟨hr, hscored⟩ := hr
  obtain ⟨row, hrow, rfl⟩ := List.mem_map.mp hr
  obtain ⟨origin, horigin, entry, -, h, hh, i, series, hseries, rfl⟩ :=
    mem_rows_runBacktest.mp hrow
  obtain ⟨o, ho, rfl⟩ := List.mem_map.mp horigin
  obtain ⟨hmem, hrange⟩ := List.mem_filter.mp ho
  have hpos := (of_decide_eq_true hrange).1
  obtain ⟨-, week, row, hweek, hrow, hpasses⟩ := (scored_gatesOf_iff hseries _).mp hscored
  refine ⟨o, hmem, h, hh, week, row, ?_, hrow, hpasses⟩
  rwa [show (o + h - 1).toNat = o.toNat + h - 1 by omega]

/-- A model that predicts one series alone. -/
def soloModel (i : ℕ) : BatchModel where
  handlesIntermittent := false
  fitPredict y _ _ horizons :=
    y.mapIdx fun k _ => horizons.map fun _ => if k = i then some 0 else none
  shaped y _ _ horizons := by
    rw [Grid.Shaped, List.eq_replicate_iff]
    refine ⟨by rw [List.length_map, List.length_mapIdx], fun n hn => ?_⟩
    obtain ⟨row, hrow, rfl⟩ := List.mem_map.mp hn
    obtain ⟨k, hk, rfl⟩ := List.mem_mapIdx.mp hrow
    exact List.length_map _

/-- What the model predicts. -/
theorem at_soloModel (i k j : ℕ) (y : Grid (Option ℚ)) (usable : Grid Bool) (origin : ℕ)
    (horizons : List ℕ) :
    (((soloModel i).fitPredict y usable origin horizons).at k j).join =
      if k < y.length ∧ j < horizons.length ∧ k = i then some 0 else none := by
  rw [Grid.at]
  show ((y.mapIdx fun k _ => horizons.map fun _ => if k = i then some (0 : ℚ) else none)[k]?.bind
    fun row => row[j]?).join = _
  rw [List.getElem?_mapIdx]
  by_cases hk : k < y.length
  · rw [List.getElem?_eq_getElem hk, Option.map_some, Option.bind_some, List.getElem?_map]
    by_cases hj : j < horizons.length
    · rw [List.getElem?_eq_getElem hj, Option.map_some, Option.join_some]
      simp [hk, hj]
    · rw [List.getElem?_eq_none (by omega)]
      simp [hj]
  · rw [List.getElem?_eq_none (by omega)]
    simp [hk]

/-- A backtest of the model scores one series alone. -/
theorem series_of_solo {i : ℕ} {series : SeriesKey} (hi : (panelSeries p)[i]? = some series)
    {r : ScoreRow} (hr : r ∈ withTerms (selectionScores p [("solo", soloModel i)] config)) :
    r.series = series := by
  obtain ⟨hr, hterms⟩ := List.mem_filter.mp hr
  obtain ⟨row, hrow, rfl⟩ := List.mem_map.mp hr
  obtain ⟨origin, -, entry, hentry, h, -, k, other, hother, rfl⟩ := mem_rows_runBacktest.mp hrow
  cases List.mem_singleton.mp hentry
  have hpred := (of_decide_eq_true hterms).2.2
  -- the prediction is there, so that the row is that of the series
  have hk : k = i := by
    by_contra hne
    have hnone : (targetRow (buildMatrices p) config.selection .selection origin "solo"
        (predictionsAt (buildMatrices p) config.selection origin (soloModel i)) k other h).yPred =
          none := by
      refine (at_soloModel i k (h - 1) _ _ _ _).trans (if_neg ?_)
      rintro ⟨-, -, hk⟩
      exact hne hk
    rw [hnone] at hpred
    cases hpred
  subst hk
  exact Option.some.inj (hother.symm.trans hi)

/-- A backtest of the model scores the series if it can be scored. -/
theorem exists_solo (hstep : config.selection.horizonWeeks ≤ config.selection.stepWeeks) {i : ℕ}
    {series : SeriesKey} (hi : (panelSeries p)[i]? = some series)
    (h : Scorable config p series) :
    ∃ r ∈ withTerms (selectionScores p [("solo", soloModel i)] config), r.series = series := by
  obtain ⟨o, ho, horizon, hhorizon, week, row, hweek, hrow, hpasses⟩ := h
  obtain ⟨j, hj, rfl⟩ := List.mem_map.mp hhorizon
  have hjlt := List.mem_range.mp hj
  have hpos := history_le_of_mem_selection (by omega) ho
  rw [minTrainWeeks] at hpos
  have hinside : (o + (j + 1 : ℕ) - 1).toNat < (panelWeeks p).length :=
    (List.getElem?_eq_some_iff.mp hweek).1
  -- the origin is one of those that are run
  have horigin : o.toNat ∈ originsRun (buildMatrices p) (runPlan (buildMatrices p) config)
      .selection := by
    refine List.mem_map_of_mem (List.mem_filter.mpr ⟨ho, decide_eq_true ?_⟩)
    show 0 < o ∧ o ≤ (panelWeeks p).length
    omega
  have hlength : ((buildMatrices p).yCorrected.slice o.toNat).length = (panelSeries p).length := by
    rw [Grid.slice, List.length_map]
    exact (List.length_map _).symm.trans
      ((congrArg List.length (buildMatrices p).shapedCorrected).trans List.length_replicate)
  have hpred : ((predictionsAt (buildMatrices p) config.selection o.toNat (soloModel i)).at i
      (j + 1 - 1)).join = some 0 := by
    refine (at_soloModel i i (j + 1 - 1) _ _ _ _).trans (if_pos ⟨?_, ?_, rfl⟩)
    · rw [hlength]
      exact (List.getElem?_eq_some_iff.mp hi).1
    · rw [horizons, List.length_map, List.length_range]
      omega
  have hscored : (gatesOf (buildMatrices p) config.selection i (o.toNat + (j + 1) - 1)
      ((predictionsAt (buildMatrices p) config.selection o.toNat (soloModel i)).at i
        (j + 1 - 1)).join).scored = true := by
    rw [scored_gatesOf_iff hi, hpred]
    refine ⟨rfl, week, row, ?_, hrow, hpasses⟩
    rwa [show o.toNat + (j + 1) - 1 = (o + (j + 1 : ℕ) - 1).toNat by omega]
  refine ⟨(targetRow (buildMatrices p) config.selection .selection o.toNat "solo"
    (predictionsAt (buildMatrices p) config.selection o.toNat (soloModel i)) i series
    (j + 1)).toScoreRow, ?_, rfl⟩
  rw [withTerms_eq_filter, List.mem_filter]
  refine ⟨List.mem_map_of_mem ?_, hscored⟩
  exact mem_rows_runBacktest.mpr ⟨o.toNat, horigin, ("solo", soloModel i),
    List.mem_singleton_self _, j + 1, hhorizon, i, series, hi, rfl⟩

end Scored

/-! ## Two panels that agree before the validation block -/

section Blind

variable {sqrt : ℚ → ℚ} {segmentsCfg : SegmentsCfg} {config : Config}
  {priceLookup : List (String × ℚ)} {p q : List PanelRow}
  (h : SameBefore (BeforeValidation (runPlan (buildMatrices p) config)) p q)

include h

/-- The plan depends on the usable flags alone. -/
theorem runPlan_congr : runPlan (buildMatrices p) config = runPlan (buildMatrices q) config := by
  rw [runPlan, runPlan, h.usableWeeks]

/-- The scores of the selection block are free of the validation block. -/
theorem selectionScores_congr
    (hstep : config.selection.horizonWeeks ≤ config.selection.stepWeeks)
    (roster : List (String × BatchModel)) :
    selectionScores p roster config = selectionScores q roster config := by
  rw [selectionScores, selectionScores, ← runPlan_congr h]
  rw [runPlan] at h ⊢
  rw [runBacktest_selection_congr hstep h roster]

/-- The segments are computed of either panel or of none. -/
theorem isSome_computeSegments_congr :
    (computeSegments sqrt segmentsCfg priceLookup p).isSome =
      (computeSegments sqrt segmentsCfg priceLookup q).isSome := by
  have hmax : (p.map PanelRow.weekStart).max? = (q.map PanelRow.weekStart).max? :=
    Series.max?_congr h.mem_weekStart
  rw [computeSegments, computeSegments, hmax]
  split
  · simp only [Option.isSome_some]
  · simp only [Option.isSome_none]

variable {g g' : List SegmentRow} (hp : computeSegments sqrt segmentsCfg priceLookup p = some g)
  (hq : computeSegments sqrt segmentsCfg priceLookup q = some g')
  (hstep : config.selection.horizonWeeks ≤ config.selection.stepWeeks)

include hp hq hstep

/-- Series that are put into the same segments have the same champions. -/
theorem auditChampions_congr
    (hsegments : ∀ series, Scorable config p series → segmentOf g series = segmentOf g' series)
    (roster : List (String × BatchModel)) (markerExists force : Bool) :
    auditChampions sqrt segmentsCfg config priceLookup roster markerExists force p =
      auditChampions sqrt segmentsCfg config priceLookup roster markerExists force q := by
  have hvalidates : validates (buildMatrices p) config = validates (buildMatrices q) config := by
    rw [validates, validates, runPlan_congr h]
  have hchampions : pickChampions config (intermittentOk roster) g
      (selectionScores p roster config) =
        pickChampions config (intermittentOk roster) g' (selectionScores q roster config) := by
    rw [← selectionScores_congr h hstep]
    exact pickChampions_congr fun r hr => hsegments r.series (scorable_of_mem hr)
  rw [auditChampions_of_segments _ _ _ _ hp, auditChampions_of_segments _ _ _ _ hq, hchampions,
    hvalidates, runPlan_congr h]

/-- A series that can be scored is in the same segment when a model that predicts it alone has the
same champions. -/
theorem segmentOf_congr {i : ℕ} {series : SeriesKey} (hi : (panelSeries p)[i]? = some series)
    (hscorable : Scorable config p series)
    (hsame : auditChampions sqrt segmentsCfg config priceLookup [("solo", soloModel i)] false false
        p = auditChampions sqrt segmentsCfg config priceLookup [("solo", soloModel i)] false false
        q) : segmentOf g series = segmentOf g' series := by
  have htier : (runPlan (buildMatrices p) config).tier ≠ .none := by
    obtain ⟨o, ho, -⟩ := hscorable
    intro hnone
    rw [runPlan] at ho hnone
    rw [selection_eq_nil_of_tier hnone] at ho
    cases ho
  have hmarker : ∀ mats, ¬ (validates mats config ∧ false ∧ !false) := fun mats hv => by
    cases hv.2.1
  rw [auditChampions_of_segments _ _ _ _ hp, auditChampions_of_segments _ _ _ _ hq,
    ← runPlan_congr h, ← selectionScores_congr h hstep, if_neg htier, if_neg htier,
    if_neg (hmarker _), if_neg (hmarker _), Option.some.injEq] at hsame
  -- S1 has a champion for the segment of the series, and for no other
  obtain ⟨r, hr, hseries⟩ := exists_solo hstep hi hscorable
  obtain ⟨c, hc, hS1⟩ :=
    (mem_scopeValue_pickChampions (segmentOf g series)).mpr ⟨r, hr, by rw [hseries]⟩
  rw [hsame] at hc
  obtain ⟨r', hr', hsegment⟩ :=
    (mem_scopeValue_pickChampions (segmentOf g series)).mp ⟨c, hc, hS1⟩
  rw [series_of_solo hi hr'] at hsegment
  exact hsegment.symm

omit hp hq

/-- The champions are the same whatever the validation block holds, for every roster and every state
of the run directory, exactly when the series that can be scored are put into the same segments. -/
theorem auditChampions_eq_iff :
    (∀ roster markerExists force,
        auditChampions sqrt segmentsCfg config priceLookup roster markerExists force p =
          auditChampions sqrt segmentsCfg config priceLookup roster markerExists force q) ↔
      ∀ series, Scorable config p series →
        routedTo sqrt segmentsCfg priceLookup p series =
          routedTo sqrt segmentsCfg priceLookup q series := by
  have hsome : (computeSegments sqrt segmentsCfg priceLookup p).isSome =
      (computeSegments sqrt segmentsCfg priceLookup q).isSome := isSome_computeSegments_congr h
  cases hp : computeSegments sqrt segmentsCfg priceLookup p with
  | none =>
      -- the segments of neither panel can be computed
      rw [hp, Option.isSome_none, eq_comm, Option.isSome_eq_false_iff, Option.isNone_iff_eq_none]
        at hsome
      simp only [auditChampions, routedTo, hp, hsome, Option.map_none, Option.bind_eq_bind,
        Option.bind_none, implies_true]
  | some g =>
      rw [hp, Option.isSome_some, eq_comm, Option.isSome_iff_exists] at hsome
      obtain ⟨g', hq⟩ := hsome
      simp only [routedTo, hp, hq, Option.map_some, Option.some.injEq]
      constructor
      · intro hsame series hscorable
        obtain ⟨i, hi⟩ := List.mem_iff_getElem?.mp hscorable.mem_panelSeries
        exact segmentOf_congr h hp hq hstep hi hscorable (hsame _ false false)
      · exact auditChampions_congr h hp hq hstep

end Blind

/-! ## A week of the validation block -/

/-- A model that predicts the same for everything. -/
def flatModel (handlesIntermittent : Bool) (units : ℚ) : BatchModel where
  handlesIntermittent
  fitPredict y _ _ horizons := y.map fun _ => horizons.map fun _ => some units
  shaped y _ _ horizons := by
    rw [Grid.Shaped, List.map_map, List.eq_replicate_iff]
    refine ⟨List.length_map _, fun n hn => ?_⟩
    obtain ⟨row, -, rfl⟩ := List.mem_map.mp hn
    exact List.length_map _

/-- The square root to six places. -/
def sqrtSix (q : ℚ) : ℚ :=
  Nat.sqrt (⌊q * 10 ^ 12⌋.toNat) / 10 ^ 6

/-- One origin in each block, two weeks apart. -/
def shortRun : Config where
  selection :=
    { selectionOriginsTarget := 1
      selectionOriginsMinimum := 1
      validationOriginsTarget := 1
      validationOriginsMinimum := 1
      stepWeeks := 2
      horizonWeeks := 1
      minWeeksNested := 18
      minWeeksInnerOnly := 16 }

/-- A week of a series that sold nothing in four weeks, and this much in the last but one. -/
def weekRow (units : ℚ) (k : ℕ) : PanelRow :=
  let sold := if k ∈ [2, 5, 8, 11] then 0 else if k = 16 then units else 2
  { series := ⟨"mug", "shop"⟩
    weekStart := 4 + 7 * k
    unitsRaw := sold
    filledZeroFlag := sold = 0
    unitsCorrected := sold
    unitsPrecap := sold }

/-- A panel of the series alone. -/
def eighteenWeeks (units : ℚ) : List PanelRow :=
  (List.range 18).map (weekRow units)

/-- Two models, of which one handles intermittent demand. -/
def twoModels : List (String × BatchModel) :=
  [("M5", flatModel false 2), ("M9", flatModel true 1)]

/-- The panels agree before the validation block, which begins with their week that differs. -/
theorem sameBefore_eighteenWeeks (units units' : ℚ)
    (hplan : (runPlan (buildMatrices (eighteenWeeks units)) shortRun).validationOriginIdx = [16])
    (hweeks : panelWeeks (eighteenWeeks units) = (List.range 18).map fun k : ℕ => 4 + 7 * (k : ℤ)) :
    SameBefore (BeforeValidation (runPlan (buildMatrices (eighteenWeeks units)) shortRun))
      (eighteenWeeks units) (eighteenWeeks units') := by
  have hrow : ∀ (u : ℚ) cell, rowAt (eighteenWeeks u) cell =
      ((List.range 18).find? fun k => decide ((weekRow 0 k).cell = cell)).map (weekRow u) := by
    intro u cell
    rw [rowAt, eighteenWeeks, List.find?_map]
    rfl
  refine ⟨fun cell => ?_, fun cell => ?_, fun t week hweek ht series => ?_⟩
  · simp only [eighteenWeeks, List.map_map]
    exact Iff.rfl
  · rw [hrow, hrow, Option.map_map, Option.map_map]
    rfl
  · -- the week is one of the first sixteen
    rw [hweeks, List.getElem?_map, Option.map_eq_some_iff] at hweek
    obtain ⟨k, hk, rfl⟩ := hweek
    obtain ⟨hk, rfl⟩ := List.getElem?_eq_some_iff.mp hk
    rw [BeforeValidation, hplan] at ht
    have hlt := ht 16 (List.mem_singleton_self _)
    rw [List.getElem_range, hrow, hrow]
    refine Option.map_congr fun j hj => ?_
    have hcell : (weekRow 0 j).cell = (series, 4 + 7 * (t : ℤ)) := by
      simpa only [decide_eq_true_eq] using List.find?_some hj
    have hj : 4 + 7 * (j : ℤ) = 4 + 7 * (t : ℤ) := congrArg Prod.snd hcell
    have hne : j ≠ 16 := by omega
    simp only [weekRow, if_neg hne]

/-- A sale in the validation block makes demand less intermittent, and the champion of the product
is another one. -/
theorem later_sale_changes_champions :
    shortRun.selection.horizonWeeks ≤ shortRun.selection.stepWeeks ∧
      SameBefore (BeforeValidation (runPlan (buildMatrices (eighteenWeeks 0)) shortRun))
        (eighteenWeeks 0) (eighteenWeeks 2) ∧
      auditChampions sqrtSix {} shortRun [] twoModels false false (eighteenWeeks 0) =
        some [⟨.S0, .global, "ALL", "M5"⟩, ⟨.S1, .segment, "intermittent", "M9"⟩,
          ⟨.S2, .sku, "mug|shop", "M9"⟩] ∧
      auditChampions sqrtSix {} shortRun [] twoModels false false (eighteenWeeks 2) =
        some [⟨.S0, .global, "ALL", "M5"⟩, ⟨.S1, .segment, "CY", "M5"⟩,
          ⟨.S2, .sku, "mug|shop", "M5"⟩] := by
  refine ⟨by decide, sameBefore_eighteenWeeks 0 2 ?_ ?_, ?_, ?_⟩ <;> decide +kernel

theorem auditChampions_eq_iff_eighteenWeeks :
    (∀ roster markerExists force,
        auditChampions sqrtSix {} shortRun [] roster markerExists force (eighteenWeeks 0) =
          auditChampions sqrtSix {} shortRun [] roster markerExists force (eighteenWeeks 2)) ↔
      ∀ series, Scorable shortRun (eighteenWeeks 0) series →
        routedTo sqrtSix {} [] (eighteenWeeks 0) series =
          routedTo sqrtSix {} [] (eighteenWeeks 2) series :=
  auditChampions_eq_iff (sameBefore_eighteenWeeks 0 2 (by decide +kernel) (by decide +kernel))
    (by decide)

end Restock.Audit.Selection
