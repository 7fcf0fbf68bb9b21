import Restock.Audit.Backtest
import Restock.Series.Loops

/-!
# The naive models

`models/base.py`, `models/naive.py` and `models/median.py`. A batch is masked and fitted at once,
each series in its row; what is fitted of a series is then read at every horizon.

* `maskedHistory`, `insufficientHistory` — the usable weeks of a prefix;
* `fitted` — a model from what it keeps of each series;
* `naiveLast`, `naiveSeasonal`, `naiveDrift`, `movingAverage`, `medianWinsorized` — the models M1 to
  M5;
* `ForecastsBy` — a model forecasts a series from its usable values alone, by some rule;
* `lastOf`, `driftOf`, `meanOfLast`, `medianOfLast` — the rules of M1, M3, M4 and M5.
-/

namespace Restock.Audit.Selection

open Series (firstPresent lastPresent median)

/-! ## Masks -/

/-- `masked_history`. -/
def maskedHistory (y : Grid (Option ℚ)) (usable : Grid Bool) : Grid (Option ℚ) :=
  List.zipWith (List.zipWith fun y u => if u then y else none) y usable

/-- `insufficient_history`: the series with fewer usable values than some number. -/
def insufficientHistory (y : Grid (Option ℚ)) (usable : Grid Bool) (minWeeks : ℤ) : List Bool :=
  (List.zipWith (List.zipWith fun y u => u && y.isSome) y usable).map fun valid =>
    ((valid.count true : ℕ) : ℤ) < minWeeks

/-- `pred[insufficient] = nan`. -/
def withheld {α : Type} (insufficient : List Bool) (pred : List (Option α)) : List (Option α) :=
  List.zipWith (fun i p => if i then none else p) insufficient pred

/-- The usable values of each series, in order. -/
def usableValues (y : Grid (Option ℚ)) (usable : Grid Bool) : List (List ℚ) :=
  (maskedHistory y usable).map List.reduceOption

/-- What `fit` asserts of its arguments. -/
structure Aligned (y : Grid (Option ℚ)) (usable : Grid Bool) (origin : ℕ) : Prop where
  history : y.Shaped y.length origin
  mask : usable.Shaped y.length origin

variable {y : Grid (Option ℚ)} {usable : Grid Bool} {origin : ℕ}

theorem Aligned.length_usable (h : Aligned y usable origin) : usable.length = y.length := by
  have hmask := congrArg List.length h.mask
  rwa [List.length_map, List.length_replicate] at hmask

theorem Aligned.length_masked (h : Aligned y usable origin) :
    (maskedHistory y usable).length = y.length := by
  rw [maskedHistory, List.length_zipWith, h.length_usable, min_self]

theorem Aligned.length_values (h : Aligned y usable origin) :
    (usableValues y usable).length = y.length := by
  rw [usableValues, List.length_map, h.length_masked]

/-- A row of a shaped grid has a column for each of its columns. -/
theorem length_of_mem_shaped {α : Type} {grid : Grid α} {rows columns : ℕ}
    (h : grid.Shaped rows columns) {row : List α} (hrow : row ∈ grid) : row.length = columns :=
  List.eq_of_mem_replicate (h ▸ List.mem_map_of_mem hrow)

/-- The masked history has a column for each week before the origin. -/
theorem Aligned.length_row (h : Aligned y usable origin) :
    ∀ row ∈ maskedHistory y usable, row.length = origin := by
  intro row hrow
  obtain ⟨i, hi, rfl⟩ := List.mem_iff_getElem.mp hrow
  rw [maskedHistory, List.length_zipWith] at hi
  simp only [maskedHistory, List.getElem_zipWith, List.length_zipWith,
    length_of_mem_shaped h.history (List.getElem_mem _),
    length_of_mem_shaped h.mask (List.getElem_mem _), min_self]

/-- The history of a series is insufficient when it has too few usable values. -/
theorem insufficientHistory_eq (y : Grid (Option ℚ)) (usable : Grid Bool) (minWeeks : ℤ) :
    insufficientHistory y usable minWeeks =
      (usableValues y usable).map fun values => decide ((values.length : ℤ) < minWeeks) := by
  have hrow : ∀ (ys : List (Option ℚ)) (us : List Bool),
      (List.zipWith (fun y u => u && y.isSome) ys us).count true =
        (List.zipWith (fun y u => if u then y else none) ys us).reduceOption.length := by
    intro ys
    induction ys with
    | nil => intro us; simp
    | cons y ys ih =>
        intro us
        cases us with
        | nil => simp
        | cons u us =>
            rw [List.zipWith_cons_cons, List.zipWith_cons_cons, List.count_cons, ih]
            cases u <;> cases y <;> simp
  rw [insufficientHistory, usableValues, maskedHistory, List.map_map, List.map_zipWith,
    List.map_zipWith]
  congr 1
  funext ys us
  rw [hrow, Function.comp_apply]

/-! ## Models by what they keep of a series -/

/-- A model from what its fit keeps of each series, and what it predicts from that. -/
def fitted {φ : Type} (handlesIntermittent : Bool)
    (fit : Grid (Option ℚ) → Grid Bool → ℕ → List φ) (predict : φ → ℕ → Option ℚ) :
    BatchModel where
  handlesIntermittent := handlesIntermittent
  fitPredict y usable origin horizons :=
    let kept := fit y usable origin
    (List.range y.length).map fun i => horizons.map fun h => kept[i]?.bind (predict · h)
  shaped y usable origin horizons := by
    rw [Grid.Shaped, List.map_map, List.eq_replicate_iff]
    refine ⟨by rw [List.length_map, List.length_range], fun n hn => ?_⟩
    obtain ⟨i, -, rfl⟩ := List.mem_map.mp hn
    exact List.length_map _

/-- The forecasts of a series are made from its usable values alone, by a rule. -/
def ForecastsBy (model : BatchModel) (rule : List ℚ → ℕ → Option ℚ) : Prop :=
  ∀ (y : Grid (Option ℚ)) (usable : Grid Bool) (origin : ℕ) (horizons : List ℕ),
    Aligned y usable origin →
    model.fitPredict y usable origin horizons =
      (usableValues y usable).map fun values => horizons.map (rule values)

/-- A model that keeps of each series what some function makes of what stands for it. -/
theorem fitted_eq {φ ξ : Type} {handlesIntermittent : Bool}
    {fit : Grid (Option ℚ) → Grid Bool → ℕ → List φ} {predict : φ → ℕ → Option ℚ}
    {rule : ξ → ℕ → Option ℚ} {xs : List ξ} (keep : ξ → φ) (hlength : xs.length = y.length)
    (hfit : fit y usable origin = xs.map keep) (hrule : ∀ x h, predict (keep x) h = rule x h)
    (horizons : List ℕ) :
    (fitted handlesIntermittent fit predict).fitPredict y usable origin horizons =
      xs.map fun x => horizons.map (rule x) := by
  rw [fitted]
  dsimp only
  rw [hfit, ← hlength]
  apply List.ext_getElem
  · rw [List.length_map, List.length_map, List.length_range]
  · intro i hi hi'
    rw [List.length_map] at hi'
    simp only [List.getElem_map, List.getElem_range, List.getElem?_map,
      List.getElem?_eq_getElem hi', Option.map_some, Option.bind_some, hrule]

/-- A model that keeps of each series what some function makes of its usable values. -/
theorem forecastsBy_fitted {φ : Type} {handlesIntermittent : Bool}
    {fit : Grid (Option ℚ) → Grid Bool → ℕ → List φ} {predict : φ → ℕ → Option ℚ}
    {rule : List ℚ → ℕ → Option ℚ} (keep : List ℚ → φ)
    (hfit : ∀ y usable origin, Aligned y usable origin →
      fit y usable origin = (usableValues y usable).map keep)
    (hrule : ∀ values h, predict (keep values) h = rule values h) :
    ForecastsBy (fitted handlesIntermittent fit predict) rule :=
  fun y usable origin horizons haligned =>
    fitted_eq keep haligned.length_values (hfit y usable origin haligned) hrule horizons

/-- The forecasts of a series are those of the rule. -/
theorem ForecastsBy.row {model : BatchModel} {rule : List ℚ → ℕ → Option ℚ}
    (h : ForecastsBy model rule) (haligned : Aligned y usable origin) {i : ℕ} {values : List ℚ}
    (hvalues : (usableValues y usable)[i]? = some values) (horizons : List ℕ) :
    (model.fitPredict y usable origin horizons)[i]? = some (horizons.map (rule values)) := by
  rw [h y usable origin horizons haligned, List.getElem?_map, hvalues, Option.map_some]

/-- What is made of each masked row, and withheld without enough values. -/
theorem withheld_map {α : Type} {minWeeks : ℤ} {keep : List (Option ℚ) → Option α}
    {rule : List ℚ → Option α} (hkeep : ∀ row, keep row = rule row.reduceOption) :
    withheld (insufficientHistory y usable minWeeks) ((maskedHistory y usable).map keep) =
      (usableValues y usable).map fun values =>
        if (values.length : ℤ) < minWeeks then none else rule values := by
  rw [withheld, insufficientHistory_eq, usableValues, List.map_map, List.zipWith_map,
    List.zipWith_self, List.map_map]
  apply List.map_congr_left
  intro row _
  simp only [Function.comp_apply, hkeep, decide_eq_true_eq]

/-- What is made of the values of each masked row. -/
theorem withheld_reduceOption {α : Type} {minWeeks : ℤ} (rule : List ℚ → Option α) :
    withheld (insufficientHistory y usable minWeeks)
        ((maskedHistory y usable).map fun row => rule row.reduceOption) =
      (usableValues y usable).map fun values =>
        if (values.length : ℤ) < minWeeks then none else rule values :=
  withheld_map fun _ => rfl

/-! ## M1 to M3 -/

/-- `NaiveLast`: the last usable value. -/
def naiveLast : BatchModel :=
  fitted false
    (fun y usable _ =>
      withheld (insufficientHistory y usable 1) ((maskedHistory y usable).map lastPresent))
    fun pred _ => pred

/-- `NaiveSeasonal`: the value a season before the target week. -/
def naiveSeasonal (minHistoryWeeks seasonLength : ℤ) : BatchModel :=
  fitted false
    (fun y usable _ =>
      List.zip (insufficientHistory y usable minHistoryWeeks) (maskedHistory y usable))
    fun kept h =>
      let lagCol := (kept.2.length : ℤ) + h - 1 - seasonLength
      if kept.1 then none
      else if 0 ≤ lagCol ∧ lagCol < kept.2.length then kept.2[lagCol.toNat]?.join
      else none

/-- The slope of `NaiveDrift`: the mean difference of neighbours. -/
def drift (row : List (Option ℚ)) : Option ℚ :=
  let nValid := row.countP Option.isSome
  if 2 ≤ nValid then do
    let last ← lastPresent row
    let first ← firstPresent row
    return (last - first) / max ((nValid : ℚ) - 1) 1
  else some 0

/-- `NaiveDrift`: the last usable value, moved on by the mean difference. -/
def naiveDrift : BatchModel :=
  fitted false
    (fun y usable _ =>
      let history := maskedHistory y usable
      List.zip (withheld (insufficientHistory y usable 8) (history.map lastPresent))
        (history.map drift))
    fun kept h => do
      let last ← kept.1
      let drift ← kept.2
      return last + h * drift

/-- What M2 makes of a masked row. -/
def seasonalOf (minHistoryWeeks seasonLength : ℤ) (row : List (Option ℚ)) (h : ℕ) : Option ℚ :=
  let lagCol := (row.length : ℤ) + h - 1 - seasonLength
  if (row.reduceOption.length : ℤ) < minHistoryWeeks then none
  else if 0 ≤ lagCol ∧ lagCol < row.length then row[lagCol.toNat]?.join
  else none

/-- M2 looks at the places of the weeks, and forecasts by the masked row. -/
theorem naiveSeasonal_eq (minHistoryWeeks seasonLength : ℤ) (haligned : Aligned y usable origin)
    (horizons : List ℕ) :
    (naiveSeasonal minHistoryWeeks seasonLength).fitPredict y usable origin horizons =
      (maskedHistory y usable).map fun row =>
        horizons.map (seasonalOf minHistoryWeeks seasonLength row) := by
  refine fitted_eq
    (fun row => (decide ((row.reduceOption.length : ℤ) < minHistoryWeeks), row))
    haligned.length_masked ?_ (fun row h => ?_) horizons
  · rw [insufficientHistory_eq, usableValues, List.map_map]
    nth_rewrite 2 [← List.map_id (maskedHistory y usable)]
    rw [List.zip_map']
    rfl
  · simp only [seasonalOf, decide_eq_true_eq]

/-- The rule of M1. -/
def lastOf (values : List ℚ) (_ : ℕ) : Option ℚ :=
  if (values.length : ℤ) < 1 then none else values.getLast?

/-- The rule of M3. -/
def driftOf (values : List ℚ) (h : ℕ) : Option ℚ :=
  if values.length < 8 then none
  else do
    let last ← values.getLast?
    let first ← values.head?
    return last + h * ((last - first) / ((values.length : ℚ) - 1))

theorem naiveLast_forecastsBy : ForecastsBy naiveLast lastOf :=
  forecastsBy_fitted (fun values => lastOf values 0)
    (fun _ _ _ _ => withheld_map Series.lastPresent_eq) fun _ _ => rfl

theorem drift_eq {row : List (Option ℚ)} (h : 2 ≤ row.reduceOption.length) :
    drift row = (do
      let last ← row.reduceOption.getLast?
      let first ← row.reduceOption.head?
      return (last - first) / ((row.reduceOption.length : ℚ) - 1)) := by
  have hone : (1 : ℚ) ≤ (row.reduceOption.length : ℚ) - 1 := by
    have : (2 : ℚ) ≤ (row.reduceOption.length : ℚ) := by exact_mod_cast h
    linarith
  rw [drift, Series.countP_isSome]
  simp only [if_pos h, max_eq_left hone, Series.lastPresent_eq, Series.firstPresent_eq]

theorem naiveDrift_forecastsBy : ForecastsBy naiveDrift driftOf := by
  refine forecastsBy_fitted
    (fun values => (if (values.length : ℤ) < 8 then none else values.getLast?,
      if 2 ≤ values.length then do
        let last ← values.getLast?
        let first ← values.head?
        return (last - first) / ((values.length : ℚ) - 1)
      else some 0)) (fun y usable _ _ => ?_) fun values h => ?_
  · -- Both figures are made of each row.
    have hdrift : (maskedHistory y usable).map drift = (usableValues y usable).map fun values =>
        if 2 ≤ values.length then do
          let last ← values.getLast?
          let first ← values.head?
          return (last - first) / ((values.length : ℚ) - 1)
        else some 0 := by
      rw [usableValues, List.map_map]
      apply List.map_congr_left
      intro row _
      rw [Function.comp_apply]
      split
      case isTrue h => exact drift_eq h
      case isFalse h =>
        rw [drift, Series.countP_isSome]
        simp only [if_neg h]
    dsimp only
    rw [withheld_map Series.lastPresent_eq, hdrift, List.zip_map']
  · -- With eight values there is a difference to take the mean of.
    rw [driftOf]
    by_cases hshort : values.length < 8
    · rw [if_pos (by exact_mod_cast hshort), if_pos hshort]
      rfl
    · have htwo : 2 ≤ values.length := by omega
      rw [if_neg (by exact_mod_cast hshort), if_neg hshort, if_pos htwo]
      cases values.getLast? <;> cases values.head? <;> rfl

/-! ## M4 and M5 -/

/-- `last_n_mask`: the last `n` cells that are valid, by their rank from the right. -/
def lastNMask (n : ℤ) : List Bool → List Bool
  | [] => []
  | v :: valid =>
      (v && ((((v :: valid).count true : ℕ) : ℤ) ≤ n : Bool)) :: lastNMask n valid

/-- The values of a row under its mask. -/
def lastNValues (n : ℤ) (row : List (Option ℚ)) : List (Option ℚ) :=
  List.zipWith (fun m y => if m then y else none) (lastNMask n (row.map Option.isSome)) row

/-- The mean of the last `n` usable values of a row. -/
def meanLastN (n : ℤ) (row : List (Option ℚ)) : Option ℚ :=
  let window := lastNValues n row
  let counts := window.countP Option.isSome
  if 0 < counts then some ((window.map fun y => y.getD 0).sum / max (counts : ℚ) 1) else none

/-- `MovingAverage`. -/
def movingAverage (n : ℤ) : BatchModel :=
  fitted false
    (fun y usable _ =>
      withheld (insufficientHistory y usable n) ((maskedHistory y usable).map (meanLastN n)))
    fun pred _ => pred

/-- `np.nanmedian` of a row. -/
def nanmedian (row : List (Option ℚ)) : Option ℚ :=
  if row.reduceOption = [] then none else some (median row.reduceOption)

/-- The median of the last `window` usable values of a row, each capped at a multiple of their
median. -/
def medianCapped (window : ℤ) (capMultiple : ℚ) (row : List (Option ℚ)) : Option ℚ := do
  let values := lastNValues window row
  let med ← nanmedian values
  nanmedian (values.map fun y => y.map (min · (capMultiple * med)))

/-- `MedianWinsorized`. -/
def medianWinsorized (window : ℤ) (capMultiple : ℚ) (minHistoryWeeks : ℤ) : BatchModel :=
  fitted false
    (fun y usable _ =>
      withheld (insufficientHistory y usable minHistoryWeeks)
        ((maskedHistory y usable).map (medianCapped window capMultiple)))
    fun pred _ => pred

/-- The last `n` of some values. -/
def lastN (n : ℤ) (values : List ℚ) : List ℚ :=
  values.drop (values.length - n.toNat)

/-- The rule of M4. -/
def meanOfLast (n : ℤ) (values : List ℚ) (_ : ℕ) : Option ℚ :=
  if (values.length : ℤ) < n then none
  else if lastN n values = [] then none
  else some ((lastN n values).sum / (lastN n values).length)

/-- The rule of M5. -/
def medianOfLast (window : ℤ) (capMultiple : ℚ) (minWeeks : ℤ) (values : List ℚ) (_ : ℕ) :
    Option ℚ :=
  let past := lastN window values
  if (values.length : ℤ) < minWeeks then none
  else if past = [] then none
  else some (median (past.map (min · (capMultiple * median past))))

/-- Under the mask of a row are the last of its values. -/
theorem reduceOption_lastNValues (n : ℤ) (row : List (Option ℚ)) :
    (lastNValues n row).reduceOption = lastN n row.reduceOption := by
  have hcount : ∀ row : List (Option ℚ),
      (row.map Option.isSome).count true = row.reduceOption.length := by
    intro row
    rw [List.count_eq_countP, List.countP_map, ← Series.countP_isSome]
    apply List.countP_congr
    intro y _
    rw [Function.comp_apply, beq_true]
  induction row with
  | nil => simp [lastNValues, lastNMask, lastN]
  | cons y row ih =>
      rw [lastNValues] at ih ⊢
      rw [List.map_cons, lastNMask, List.zipWith_cons_cons]
      cases y with
      | none =>
        rw [Option.isSome_none, Bool.false_and, if_neg Bool.false_ne_true,
          List.reduceOption_cons_of_none, List.reduceOption_cons_of_none, ih]
      | some y =>
        rw [Option.isSome_some, Bool.true_and, List.count_cons_self, hcount,
          List.reduceOption_cons_of_some, lastN]
        rw [lastN] at ih
        -- the rank of a cell from the right is the number of values from it on
        by_cases hrank : ((row.reduceOption.length + 1 : ℕ) : ℤ) ≤ n
        · have hall : row.reduceOption.length + 1 - n.toNat = 0 := by omega
          have hall' : row.reduceOption.length - n.toNat = 0 := by omega
          simp only [decide_eq_true hrank, if_true, List.reduceOption_cons_of_some, ih,
            List.length_cons, hall, hall', List.drop_zero]
        · have hnext : row.reduceOption.length + 1 - n.toNat =
              row.reduceOption.length - n.toNat + 1 := by omega
          simp only [decide_eq_false hrank, Bool.false_eq_true, if_false,
            List.reduceOption_cons_of_none, ih, List.length_cons, hnext, List.drop_succ_cons]

theorem meanLastN_eq (n : ℤ) (row : List (Option ℚ)) :
    meanLastN n row = if lastN n row.reduceOption = [] then none
      else some ((lastN n row.reduceOption).sum / (lastN n row.reduceOption).length) := by
  have hsum : ∀ row : List (Option ℚ), (row.map fun y => y.getD 0).sum = row.reduceOption.sum := by
    intro row
    induction row with
    | nil => rfl
    | cons y row ih => cases y <;> simp [ih, List.reduceOption_cons_of_some]
  have hcount : (lastNValues n row).countP Option.isSome = (lastN n row.reduceOption).length := by
    rw [← reduceOption_lastNValues, Series.countP_isSome]
  rw [meanLastN]
  simp only [hsum, hcount, reduceOption_lastNValues]
  by_cases hnil : lastN n row.reduceOption = []
  · simp [hnil]
  · have hpos : 0 < (lastN n row.reduceOption).length := List.length_pos_iff.mpr hnil
    have hone : (1 : ℚ) ≤ ((lastN n row.reduceOption).length : ℚ) := by exact_mod_cast hpos
    rw [if_pos hpos, if_neg hnil, max_eq_left hone]

theorem medianCapped_eq (window : ℤ) (capMultiple : ℚ) (row : List (Option ℚ)) :
    medianCapped window capMultiple row =
      if lastN window row.reduceOption = [] then none
      else some (median ((lastN window row.reduceOption).map
        (min · (capMultiple * median (lastN window row.reduceOption))))) := by
  rw [medianCapped]
  simp only [nanmedian, List.reduceOption_map, reduceOption_lastNValues, List.map_eq_nil_iff]
  by_cases hnil : lastN window row.reduceOption = []
  · simp [hnil]
  · simp [hnil]

theorem movingAverage_forecastsBy (n : ℤ) : ForecastsBy (movingAverage n) (meanOfLast n) :=
  forecastsBy_fitted (fun values => meanOfLast n values 0)
    (fun _ _ _ _ => withheld_map (meanLastN_eq n)) fun _ _ => rfl

theorem medianWinsorized_forecastsBy (window : ℤ) (capMultiple : ℚ) (minWeeks : ℤ) :
    ForecastsBy (medianWinsorized window capMultiple minWeeks)
      (medianOfLast window capMultiple minWeeks) :=
  forecastsBy_fitted (fun values => medianOfLast window capMultiple minWeeks values 0)
    (fun _ _ _ _ => withheld_map (medianCapped_eq window capMultiple)) fun _ _ => rfl

end Restock.Audit.Selection
