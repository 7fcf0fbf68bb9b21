import Restock.Audit.ComboModels
import Restock.Audit.CrostonModels
import Restock.Audit.Roster
import Restock.Audit.SmoothingModels

/-!
# Negative forecasts

The trend models of `models/broad.py` floor their forecasts at zero, as demand is never negative.
The two trend models of the default roster, M3 and M7, do not; no other model of it goes below zero,
and a combination only where a member does.

* `fresh`, `defaultModels` — the models M1 to M9 of the default configuration;
* `Combination` — the combinations that can be built of members;
* `thetaOf_eq` — what M7 forecasts: the smoothed level and half the trend from the smoothed week on;
* `HoldsUp` — the decline of a history up to a horizon does not exceed its level;
* `forecasts_nonneg_iff` — no forecast is negative exactly then;
* `forecasts_negative_declining` — a history that declines to zero.
-/

namespace Restock.Audit.Selection

open Series (smoothed)

/-! ## Models -/

/-- The model that is built for an entry of the roster, of the families M1 to M9. -/
def fresh (model : Restock.Audit.BatchModel) : Option BatchModel :=
  match model with
  | .naiveLast => some naiveLast
  | .naiveSeasonal minHistoryWeeks => some (naiveSeasonal minHistoryWeeks 52)
  | .naiveDrift => some naiveDrift
  | .movingAverage n => some (movingAverage n)
  | .medianWinsorized window capMultiple => some (medianWinsorized window capMultiple 6)
  | .ses alphaBounds => some (ses alphaBounds 8)
  | .theta alphaBounds => some (theta alphaBounds 8)
  | .crostonSBA => some (crostonSBA (1 / 10))
  | .tsb => some (tsb (1 / 10) (1 / 10))
  | _ => none

/-- The models M1 to M9 of the default roster. -/
def defaultModels : List BatchModel :=
  ({} : Config).models.roster.filterMap fun modelId => (build .decimal {} modelId).bind fresh

/-- The grid that the default configuration smooths by. -/
def defaultAlphas : List ℚ :=
  linspace (1 / 20, 2 / 5) 8

theorem defaultModels_eq : defaultModels =
    [naiveLast, naiveSeasonal 52 52, naiveDrift, movingAverage 4, movingAverage 8,
      movingAverage 13, medianWinsorized 13 2 6, ses (1 / 20, 2 / 5) 8, theta (1 / 20, 2 / 5) 8,
      crostonSBA (1 / 10), tsb (1 / 10) (1 / 10)] := by
  rfl

/-- The combinations that `combos.py` builds of some members: what each constructor accepts, with
the share of the two layers that no caller changes. -/
inductive Combination (members : List BatchModel) : BatchModel → Prop
  | median : members ≠ [] → Combination members (combined nanmedian members)
  | mean : members ≠ [] → Combination members (combined nanmean members)
  | trimmed : members ≠ [] → Combination members (combined trimmedCell members)
  | inverseError (weights : List ℚ) (floor : ℚ) : members ≠ [] →
      weights.length = members.length → (∀ w ∈ weights, 0 ≤ w) →
      Combination members (combined (inverseErrorCell (storedWeights weights floor)) members)
  | twoLayer : members.length = 2 → Combination members (combined (twoLayerCell (1 / 2)) members)

/-- The forecast of a model for a series at the place of a horizon. -/
def forecastAt (model : BatchModel) (y : Grid (Option ℚ)) (usable : Grid Bool) (origin : ℕ)
    (horizons : List ℕ) (i j : ℕ) : Option ℚ :=
  ((model.fitPredict y usable origin horizons).at i j).join

/-- A forecast is missing or not negative. -/
def NotNegative (forecast : Option ℚ) : Prop :=
  ∀ v ∈ forecast, 0 ≤ v

/-! ## What M7 forecasts -/

/-- The smoothed level of some numbers, which starts at the first. -/
def levelOf (alpha : ℚ) (xs : List ℚ) : ℚ :=
  match xs with
  | [] => 0
  | x :: xs => smoothed alpha x xs

/-- The numbers of the weeks of a history. -/
def weekNumbers (values : List ℚ) : List ℚ :=
  (List.range values.length).map fun t : ℕ => (t : ℚ)

/-- The smoothed level is linear in what is smoothed. -/
theorem levelOf_linear {ι : Type} {is : List ι} (hne : is ≠ []) (alpha c d : ℚ) (f g : ι → ℚ) :
    levelOf alpha (is.map fun i => c * f i + d * g i) =
      c * levelOf alpha (is.map f) + d * levelOf alpha (is.map g) := by
  cases is with
  | nil => exact absurd rfl hne
  | cons i is => exact Series.smoothed_linear alpha c d f g i is

/-- The points of a history are its weeks and values. -/
theorem valuePoints_eq (values : List ℚ) :
    valuePoints values = values.zipIdx.map fun cell => ((cell.2 : ℚ), cell.1) := by
  rw [valuePoints, points, List.zipIdx_map, List.filterMap_map, ← List.filterMap_eq_map]
  rfl

theorem map_fst_valuePoints (values : List ℚ) :
    (valuePoints values).map Prod.fst = weekNumbers values := by
  rw [valuePoints_eq, List.map_map, weekNumbers, List.range_eq_range', ← List.zipIdx_map_snd,
    List.map_map]
  rfl

theorem map_snd_valuePoints (values : List ℚ) :
    (valuePoints values).map Prod.snd = values := by
  rw [valuePoints_eq, List.map_map]
  exact List.zipIdx_map_fst 0 values

/-- The theta line of a history doubles the distance of its values to the trend. -/
theorem thetaValues_eq {values : List ℚ} {a : ℚ} (ha : intercept (valuePoints values) = some a) :
    thetaValues values = (valuePoints values).map fun p =>
      2 * p.2 + (-1) * (a * 1 + slope (valuePoints values) * p.1) := by
  have hline : thetaLine (values.map some) = values.zipIdx.map fun cell =>
      some (2 * cell.1 - (a + slope (valuePoints values) * cell.2)) := by
    rw [thetaLine, List.zipIdx_map, List.map_map]
    apply List.map_congr_left
    intro cell _
    rw [show points (values.map some) = valuePoints values from rfl, ha]
    rfl
  have hreduce : ∀ xs : List ℚ, (xs.map some).reduceOption = xs := fun xs => by
    simp [List.reduceOption]
  have hmap : (values.zipIdx.map fun cell =>
      some (2 * cell.1 - (a + slope (valuePoints values) * cell.2))) =
      (values.zipIdx.map fun cell =>
        2 * cell.1 - (a + slope (valuePoints values) * (cell.2 : ℚ))).map some := by
    rw [List.map_map]
    rfl
  rw [thetaValues, hline, hmap, hreduce]
  nth_rewrite 3 [valuePoints_eq]
  rw [List.map_map]
  apply List.map_congr_left
  intro cell _
  simp only [Function.comp_apply]
  ring

/-- The smoothed level of equal numbers. -/
theorem levelOf_const {ι : Type} {is : List ι} (hne : is ≠ []) (alpha c : ℚ) :
    levelOf alpha (is.map fun _ => c) = c := by
  obtain ⟨i, is, rfl⟩ := List.exists_cons_of_ne_nil hne
  exact Series.smoothed_const alpha c fun y hy => by
    obtain ⟨_, -, rfl⟩ := List.mem_map.mp hy
    rfl

/-- What is picked after some values is their smoothed level for the constant that is picked. -/
theorem sesLevel_eq_levelOf {alphas values : List ℚ} {alpha : ℚ} (hne : values ≠ [])
    (hpicked : pickedAlpha alphas values = some alpha) :
    sesLevel alphas values = some (levelOf alpha values) := by
  obtain ⟨value, values, rfl⟩ := List.exists_cons_of_ne_nil hne
  rw [sesLevel_eq, hpicked]
  rfl

/-- The level of the theta line is that of the values, twice, less that of the trend. -/
theorem levelOf_thetaValues {values : List ℚ} {a : ℚ} (hne : valuePoints values ≠ [])
    (ha : intercept (valuePoints values) = some a) (alpha : ℚ) :
    levelOf alpha (thetaValues values) = 2 * levelOf alpha values -
      (a + slope (valuePoints values) * levelOf alpha (weekNumbers values)) := by
  rw [thetaValues_eq ha, levelOf_linear hne alpha 2 (-1) Prod.snd
    (fun p => a * 1 + slope (valuePoints values) * p.1), levelOf_linear hne alpha a
    (slope (valuePoints values)) (fun _ => 1) Prod.fst, levelOf_const hne, map_fst_valuePoints,
    map_snd_valuePoints]
  ring

/-- M7 forecasts the smoothed level of the history, and half the trend from the smoothed week to the
target week. -/
theorem thetaOf_eq {alphas values : List ℚ} {alpha : ℚ} (henough : 13 ≤ values.length)
    (hpicked : pickedAlpha alphas (thetaValues values) = some alpha) (h : ℕ) :
    thetaOf alphas values h = some (levelOf alpha values + slope (valuePoints values) / 2 *
      ((values.length : ℚ) - 1 + h - levelOf alpha (weekNumbers values))) := by
  have hlength : (valuePoints values).length = values.length := by
    rw [valuePoints_eq, List.length_map, List.length_zipIdx]
  have hne : valuePoints values ≠ [] := by
    rw [← List.length_pos_iff, hlength]
    omega
  have hn : (0 : ℚ) < ((valuePoints values).length : ℚ) := by
    rw [Nat.cast_pos]
    exact List.length_pos_iff.mpr hne
  obtain ⟨a, ha⟩ : ∃ a, intercept (valuePoints values) = some a :=
    ⟨_, by rw [intercept, if_pos hn]⟩
  have hline : thetaValues values ≠ [] := by
    rw [thetaValues_eq ha, Ne, List.map_eq_nil_iff]
    exact hne
  have hshort : ¬ (values.length : ℤ) < 13 := by omega
  rw [thetaOf, thetaFitOf, ThetaFit.forecast]
  simp only [if_neg hshort, sesLevel_eq_levelOf hline hpicked, levelOf_thetaValues hne ha, ha,
    hlength, Option.bind_eq_bind, Option.bind_some, Option.pure_def, Option.some.injEq]
  -- The intercept of the trend cancels.
  ring

/-! ## Models that stay above zero -/

theorem nonneg_of_mem_linspace {alpha : ℚ} (h : alpha ∈ defaultAlphas) : 0 ≤ alpha ∧ alpha ≤ 1 := by
  have hall : ∀ alpha ∈ defaultAlphas, 0 ≤ alpha ∧ alpha ≤ 1 := by decide +kernel
  exact hall alpha h

section Values

variable {values : List ℚ} (hvalues : ∀ v ∈ values, 0 ≤ v) (h : ℕ)

include hvalues

/-- Every value is at most their sum. -/
theorem le_sum_of_nonneg : ∀ v ∈ values, v ≤ values.sum :=
  List.single_le_sum hvalues

theorem notNegative_lastOf : NotNegative (lastOf values h) := by
  intro v hv
  rw [lastOf, Option.mem_def, Option.ite_none_left_eq_some] at hv
  exact hvalues v (List.mem_of_getLast? hv.2)

theorem notNegative_meanOfLast (n : ℤ) : NotNegative (meanOfLast n values h) := by
  intro v hv
  rw [meanOfLast, Option.mem_def, Option.ite_none_left_eq_some,
    Option.ite_none_left_eq_some] at hv
  obtain rfl := Option.some.inj hv.2.2
  exact div_nonneg (List.sum_nonneg fun x hx => hvalues x (List.mem_of_mem_drop hx))
    (Nat.cast_nonneg _)

theorem notNegative_medianOfLast (window minWeeks : ℤ) {capMultiple : ℚ} (hcap : 0 ≤ capMultiple) :
    NotNegative (medianOfLast window capMultiple minWeeks values h) := by
  intro v hv
  rw [medianOfLast] at hv
  simp only [Option.mem_def, Option.ite_none_left_eq_some, Option.some.injEq] at hv
  obtain ⟨-, -, rfl⟩ := hv
  have hpast : ∀ x ∈ lastN window values, 0 ≤ x := fun x hx =>
    hvalues x (List.mem_of_mem_drop hx)
  refine Series.median_nonneg fun x hx => ?_
  obtain ⟨past, hpastmem, rfl⟩ := List.mem_map.mp hx
  exact le_min (hpast past hpastmem) (mul_nonneg hcap (Series.median_nonneg hpast))

theorem notNegative_sesOf : NotNegative (sesOf defaultAlphas values h) := by
  intro v hv
  rw [sesOf, Option.mem_def, Option.ite_none_left_eq_some] at hv
  obtain ⟨-, hv⟩ := hv
  cases values with
  | nil =>
    obtain ⟨picked, hpicked, hlevel⟩ := Option.bind_eq_some_iff.mp hv
    rw [(pickAlpha_sesCells hpicked).2] at hlevel
    cases hlevel
  | cons value values =>
    rw [sesLevel_eq, Option.map_eq_some_iff] at hv
    obtain ⟨alpha, halpha, rfl⟩ := hv
    obtain ⟨h0, h1⟩ := nonneg_of_mem_linspace (pickedAlpha_mem halpha)
    exact Series.le_smoothed h0 h1 (hvalues value List.mem_cons_self) fun y hy =>
      hvalues y (List.mem_cons_of_mem value hy)

theorem notNegative_crostonOf {alpha : ℚ} (h0 : 0 ≤ alpha) (h1 : alpha ≤ 1) :
    NotNegative (crostonOf alpha values h) := by
  intro v hv
  rw [crostonOf, Option.mem_def, Option.ite_none_left_eq_some] at hv
  obtain rfl := Option.some.inj hv.2
  obtain ⟨-, hbounds, -⟩ := crostonAfter_bounds h0 h1 values (le_sum_of_nonneg hvalues)
  rw [CrostonState.forecast]
  cases hstate : (crostonAfter alpha values).demand with
  | none => exact le_rfl
  | some demand =>
    obtain ⟨hz, -, hp⟩ := hbounds demand hstate
    have hcorrection : (0 : ℚ) ≤ 1 - alpha / 2 := by linarith
    exact mul_nonneg (div_nonneg hz.le (zero_le_one.trans hp)) hcorrection

theorem notNegative_tsbOf {alphaP alphaZ : ℚ} (hP0 : 0 ≤ alphaP) (hP1 : alphaP ≤ 1)
    (hZ0 : 0 ≤ alphaZ) (hZ1 : alphaZ ≤ 1) : NotNegative (tsbOf alphaP alphaZ values h) := by
  intro v hv
  rw [Option.mem_def] at hv
  have henough : 13 ≤ values.length := by
    rw [tsbOf, Option.ite_none_left_eq_some] at hv
    omega
  obtain ⟨f, hf, hnonneg, -⟩ := tsbOf_le hP0 hP1 hZ0 hZ1 henough (le_sum_of_nonneg hvalues)
    (List.sum_nonneg hvalues) h
  rw [hf] at hv
  exact Option.some.inj hv ▸ hnonneg

end Values

/-! ## Combinations -/

/-- Nor does a mean with weights that are not negative. -/
theorem notNegative_inverseErrorCell {weights : List ℚ} {preds : List (Option ℚ)}
    (hweights : ∀ w ∈ weights, 0 ≤ w) (hpreds : ∀ p ∈ preds, NotNegative p) :
    NotNegative (inverseErrorCell weights preds) := by
  intro v hv
  rw [inverseErrorCell_eq] at hv
  obtain ⟨hden, hv⟩ := Option.ite_none_right_eq_some.mp hv
  obtain rfl := Option.some.inj hv
  refine div_nonneg (List.sum_nonneg fun x hx => ?_) hden.le
  obtain ⟨wp, hwp, rfl⟩ := List.mem_map.mp hx
  obtain ⟨⟨w, p⟩, hmem, heq⟩ := List.mem_filterMap.mp hwp
  obtain ⟨v, hv, rfl⟩ := Option.map_eq_some_iff.mp heq
  obtain ⟨hw, hp⟩ := List.of_mem_zip hmem
  exact mul_nonneg (hweights w hw) (hpreds p hp v hv)

/-- The second layer only adds to the first. -/
theorem notNegative_twoLayerCell {w : ℚ} {preds : List (Option ℚ)} (hw : 0 ≤ w)
    (hpreds : ∀ p ∈ preds, NotNegative p) : NotNegative (twoLayerCell w preds) := by
  intro v hv
  unfold twoLayerCell at hv
  split at hv
  case h_1 base uplift =>
    obtain ⟨b, hb, rfl⟩ := Option.map_eq_some_iff.mp hv
    have hbase : 0 ≤ b := hpreds base List.mem_cons_self b hb
    have hexcess : 0 ≤ uplift.elim 0 fun uplift => max 0 (uplift - b) := by
      cases uplift with
      | none => exact le_rfl
      | some u => exact le_max_left _ _
    exact add_nonneg hbase (mul_nonneg hexcess hw)
  case h_2 => cases hv

/-- A combination goes below zero only where a member does. -/
theorem Combination.notNegative {members : List BatchModel} {combo : BatchModel}
    (hcombo : Combination members combo) {y : Grid (Option ℚ)} {usable : Grid Bool} {origin : ℕ}
    {horizons : List ℕ} {i j : ℕ} (hi : i < y.length) (hj : j < horizons.length)
    (hmembers : ∀ member ∈ members, NotNegative (forecastAt member y usable origin horizons i j)) :
    NotNegative (forecastAt combo y usable origin horizons i j) := by
  have hpreds : ∀ p ∈ memberPreds members y usable origin horizons i j, NotNegative p := by
    intro p hp
    obtain ⟨member, hmember, rfl⟩ := List.mem_map.mp hp
    exact hmembers member hmember
  have hcell : ∀ cell, forecastAt (combined cell members) y usable origin horizons i j =
      cell (memberPreds members y usable origin horizons i j) := by
    intro cell
    rw [forecastAt, combined_at cell members hi hj, Option.join_some]
  have hpresent : ∀ v ∈ (memberPreds members y usable origin horizons i j).reduceOption, 0 ≤ v := by
    intro v hv
    exact hpreds (some v) (List.reduceOption_mem_iff.mp hv) v rfl
  have hinside : ∀ cell, Inside (memberPreds members y usable origin horizons i j)
      (cell (memberPreds members y usable origin horizons i j)) →
      NotNegative (forecastAt (combined cell members) y usable origin horizons i j) := by
    intro cell h v hv
    rw [hcell, Option.mem_def] at hv
    rw [hv] at h
    exact h.ge hpresent
  cases hcombo with
  | median => exact hinside _ (inside_nanmedian _)
  | mean => exact hinside _ (inside_nanmean _)
  | trimmed => exact hinside _ (inside_trimmedCell _)
  | inverseError weights floor hne hlength hweights =>
    rw [hcell]
    exact notNegative_inverseErrorCell (storedWeights_nonneg hweights) hpreds
  | twoLayer htwo =>
    rw [hcell]
    exact notNegative_twoLayerCell (by norm_num) hpreds

/-! ## Declining histories -/

/-- The decline of a history does not exceed its level: the mean difference of its neighbours up to
the horizon not its last value, which matters to M3, and half its trend from the smoothed week to
the target week not its smoothed level, which matters to M7. -/
structure HoldsUp (values : List ℚ) (h : ℕ) : Prop where
  drift : 8 ≤ values.length → ∀ first ∈ values.head?, ∀ last ∈ values.getLast?,
    h * ((first - last) / ((values.length : ℚ) - 1)) ≤ last
  theta : 13 ≤ values.length → ∀ alpha ∈ pickedAlpha defaultAlphas (thetaValues values),
    -slope (valuePoints values) / 2 *
      ((values.length : ℚ) - 1 + h - levelOf alpha (weekNumbers values)) ≤ levelOf alpha values

/-- M3 stays above zero exactly as long as the drift allows. -/
theorem notNegative_driftOf_iff (values : List ℚ) (h : ℕ) :
    NotNegative (driftOf values h) ↔ (8 ≤ values.length →
      ∀ first ∈ values.head?, ∀ last ∈ values.getLast?,
        h * ((first - last) / ((values.length : ℚ) - 1)) ≤ last) := by
  have hflip : ∀ first last : ℚ, 0 ≤ last + h * ((last - first) / ((values.length : ℚ) - 1)) ↔
      h * ((first - last) / ((values.length : ℚ) - 1)) ≤ last := by
    intro first last
    rw [← neg_sub first last, neg_div, mul_neg, ← sub_eq_add_neg, sub_nonneg]
  rw [NotNegative, driftOf]
  by_cases hshort : values.length < 8
  · simp [hshort]
  · have henough : 8 ≤ values.length := not_lt.mp hshort
    simp only [if_neg hshort, Option.bind_eq_bind, Option.mem_def, Option.bind_eq_some_iff,
      Option.pure_def, Option.some.injEq]
    constructor
    · intro hnonneg _ first hfirst last hlast
      exact (hflip first last).mp (hnonneg _ ⟨last, hlast, first, hfirst, rfl⟩)
    · rintro hdrift v ⟨last, hlast, first, hfirst, rfl⟩
      exact (hflip first last).mpr (hdrift henough first hfirst last hlast)

/-- M7 stays above zero exactly as long as the trend allows. -/
theorem notNegative_thetaOf_iff (alphas values : List ℚ) (h : ℕ) :
    NotNegative (thetaOf alphas values h) ↔ (13 ≤ values.length →
      ∀ alpha ∈ pickedAlpha alphas (thetaValues values),
        -slope (valuePoints values) / 2 *
          ((values.length : ℚ) - 1 + h - levelOf alpha (weekNumbers values)) ≤
            levelOf alpha values) := by
  have hflip : ∀ alpha : ℚ, 0 ≤ levelOf alpha values + slope (valuePoints values) / 2 *
        ((values.length : ℚ) - 1 + h - levelOf alpha (weekNumbers values)) ↔
      -slope (valuePoints values) / 2 *
        ((values.length : ℚ) - 1 + h - levelOf alpha (weekNumbers values)) ≤
          levelOf alpha values := by
    intro alpha
    rw [neg_div, neg_mul, neg_le_iff_add_nonneg]
  constructor
  · intro hnonneg henough alpha halpha
    exact (hflip alpha).mp (hnonneg _ (thetaOf_eq henough halpha h))
  · intro htrend v hv
    obtain ⟨level2, hlevel2, -⟩ := Option.bind_eq_some_iff.mp hv
    rw [thetaFitOf, Option.ite_none_left_eq_some] at hlevel2
    obtain ⟨hlong, hlevel2⟩ := hlevel2
    have henough : 13 ≤ values.length := by omega
    obtain ⟨picked, hpicked, -⟩ := Option.bind_eq_some_iff.mp hlevel2
    have halpha : pickedAlpha alphas (thetaValues values) = some picked.1 := by
      rw [pickedAlpha, hpicked]
      rfl
    rw [Option.mem_def, thetaOf_eq henough halpha h] at hv
    exact Option.some.inj hv ▸ (hflip picked.1).mpr (htrend henough picked.1 halpha)

/-! ## The roster -/

section Roster

variable {y : Grid (Option ℚ)} {usable : Grid Bool} {origin i j h : ℕ} {values : List ℚ}
  {horizons : List ℕ}

/-- The forecast of a model that forecasts by a rule. -/
theorem ForecastsBy.forecastAt_eq {model : BatchModel} {rule : List ℚ → ℕ → Option ℚ}
    (hrule : ForecastsBy model rule) (haligned : Aligned y usable origin)
    (hvalues : (usableValues y usable)[i]? = some values) (hh : horizons[j]? = some h) :
    forecastAt model y usable origin horizons i j = rule values h := by
  rw [forecastAt, Grid.at, hrule.row haligned hvalues, Option.bind_some, List.getElem?_map, hh,
    Option.map_some, Option.join_some]

/-- M2 forecasts a value of the series. -/
theorem notNegative_naiveSeasonal (minHistoryWeeks seasonLength : ℤ)
    (haligned : Aligned y usable origin) (hvalues : (usableValues y usable)[i]? = some values)
    (hnonneg : ∀ v ∈ values, 0 ≤ v) (hh : horizons[j]? = some h) :
    NotNegative (forecastAt (naiveSeasonal minHistoryWeeks seasonLength) y usable origin
      horizons i j) := by
  intro v hv
  rw [usableValues, List.getElem?_map, Option.map_eq_some_iff] at hvalues
  obtain ⟨row, hrow, rfl⟩ := hvalues
  rw [forecastAt, Grid.at, naiveSeasonal_eq _ _ haligned, List.getElem?_map, hrow,
    Option.map_some, Option.bind_some, List.getElem?_map, hh, Option.map_some, Option.join_some,
    seasonalOf] at hv
  simp only [Option.mem_def, Option.ite_none_left_eq_some, Option.ite_none_right_eq_some] at hv
  have hmem := List.mem_of_getElem? (Option.join_eq_some_iff.mp hv.2.2)
  exact hnonneg v (List.reduceOption_mem_iff.mpr hmem)

/-- The models of the default roster stay above zero where the history holds up to the horizon. -/
theorem HoldsUp.notNegative (hholds : HoldsUp values h) (haligned : Aligned y usable origin)
    (hvalues : (usableValues y usable)[i]? = some values) (hnonneg : ∀ v ∈ values, 0 ≤ v)
    (hh : horizons[j]? = some h) :
    ∀ model ∈ defaultModels, NotNegative (forecastAt model y usable origin horizons i j) := by
  have hby : ∀ {model rule}, ForecastsBy model rule → NotNegative (rule values h) →
      NotNegative (forecastAt model y usable origin horizons i j) := by
    intro model rule hrule
    rw [hrule.forecastAt_eq haligned hvalues hh]
    exact id
  intro model hmodel
  rw [defaultModels_eq] at hmodel
  simp only [List.mem_cons, List.not_mem_nil, or_false] at hmodel
  obtain rfl | rfl | rfl | rfl | rfl | rfl | rfl | rfl | rfl | rfl | rfl := hmodel
  · exact hby naiveLast_forecastsBy (notNegative_lastOf hnonneg h)
  · -- M2 reads the places of the weeks, and is not given by a rule.
    exact notNegative_naiveSeasonal 52 52 haligned hvalues hnonneg hh
  · exact hby naiveDrift_forecastsBy ((notNegative_driftOf_iff values h).mpr hholds.drift)
  · exact hby (movingAverage_forecastsBy 4) (notNegative_meanOfLast hnonneg h 4)
  · exact hby (movingAverage_forecastsBy 8) (notNegative_meanOfLast hnonneg h 8)
  · exact hby (movingAverage_forecastsBy 13) (notNegative_meanOfLast hnonneg h 13)
  · exact hby (medianWinsorized_forecastsBy 13 2 6)
      (notNegative_medianOfLast hnonneg h 13 6 (by norm_num))
  · exact hby (ses_forecastsBy (1 / 20, 2 / 5) 8) (notNegative_sesOf hnonneg h)
  · exact hby (theta_forecastsBy (1 / 20, 2 / 5) 8)
      ((notNegative_thetaOf_iff defaultAlphas values h).mpr hholds.theta)
  · exact hby (crostonSBA_forecastsBy (1 / 10))
      (notNegative_crostonOf hnonneg h (by norm_num) (by norm_num))
  · exact hby (tsb_forecastsBy (1 / 10) (1 / 10))
      (notNegative_tsbOf hnonneg h (by norm_num) (by norm_num) (by norm_num) (by norm_num))

/-- For every history of values that are not negative and every horizon: no model M1 to M9 of the
default roster and no combination of them forecasts a negative demand exactly when the history holds
up to the horizon. -/
theorem forecasts_nonneg_iff (haligned : Aligned y usable origin)
    (hvalues : (usableValues y usable)[i]? = some values) (hnonneg : ∀ v ∈ values, 0 ≤ v)
    (hh : horizons[j]? = some h) :
    ((∀ model ∈ defaultModels,
        NotNegative (forecastAt model y usable origin horizons i j)) ∧
      ∀ members, (∀ member ∈ members, member ∈ defaultModels) →
        ∀ combo, Combination members combo →
          NotNegative (forecastAt combo y usable origin horizons i j)) ↔
      HoldsUp values h := by
  have hdrift : forecastAt naiveDrift y usable origin horizons i j = driftOf values h :=
    naiveDrift_forecastsBy.forecastAt_eq haligned hvalues hh
  have htheta : forecastAt (theta (1 / 20, 2 / 5) 8) y usable origin horizons i j =
      thetaOf defaultAlphas values h :=
    (theta_forecastsBy (1 / 20, 2 / 5) 8).forecastAt_eq haligned hvalues hh
  constructor
  · rintro ⟨hmodels, -⟩
    rw [defaultModels_eq] at hmodels
    have h3 := hmodels naiveDrift (by simp)
    have h7 := hmodels (theta (1 / 20, 2 / 5) 8) (by simp)
    rw [hdrift, notNegative_driftOf_iff] at h3
    rw [htheta, notNegative_thetaOf_iff] at h7
    exact ⟨h3, h7⟩
  · intro hholds
    have hmodels := hholds.notNegative haligned hvalues hnonneg hh
    have hi : i < y.length := by
      rw [← haligned.length_values]
      exact (List.getElem?_eq_some_iff.mp hvalues).1
    have hj : j < horizons.length := (List.getElem?_eq_some_iff.mp hh).1
    exact ⟨hmodels, fun members hmembers combo hcombo =>
      hcombo.notNegative hi hj fun member hmember => hmodels member (hmembers member hmember)⟩

end Roster

/-! ## Two histories -/

/-- A history as a batch of one series. -/
def history (values : List ℚ) : Grid (Option ℚ) :=
  [values.map some]

/-- All its weeks are usable. -/
def allUsable (values : List ℚ) : Grid Bool :=
  [List.replicate values.length true]

/-- The last weeks of a series that has sold out of fashion. -/
def declining : List ℚ :=
  [7, 6, 5, 4, 3, 2, 1, 0]

theorem forecasts_nonneg_iff_steady :
    ((∀ model ∈ defaultModels, NotNegative (forecastAt model (history [2, 3, 2, 3, 2, 3, 2, 3])
        (allUsable [2, 3, 2, 3, 2, 3, 2, 3]) 8 [1, 2, 3, 4] 0 3)) ∧
      ∀ members, (∀ member ∈ members, member ∈ defaultModels) →
        ∀ combo, Combination members combo →
          NotNegative (forecastAt combo (history [2, 3, 2, 3, 2, 3, 2, 3])
            (allUsable [2, 3, 2, 3, 2, 3, 2, 3]) 8 [1, 2, 3, 4] 0 3)) ↔
      HoldsUp [2, 3, 2, 3, 2, 3, 2, 3] 4 :=
  forecasts_nonneg_iff ⟨rfl, rfl⟩ rfl (by decide +kernel) rfl

/-- M3 goes on with the decline past zero. -/
theorem forecasts_negative_declining :
    ¬ ∀ (y : Grid (Option ℚ)) (usable : Grid Bool) (origin i j h : ℕ) (values : List ℚ)
      (horizons : List ℕ), Aligned y usable origin → (usableValues y usable)[i]? = some values →
      (∀ v ∈ values, 0 ≤ v) → horizons[j]? = some h →
      (∀ model ∈ defaultModels, NotNegative (forecastAt model y usable origin horizons i j)) ∧
        ∀ members, (∀ member ∈ members, member ∈ defaultModels) →
          ∀ combo, Combination members combo →
            NotNegative (forecastAt combo y usable origin horizons i j) := by
  intro hclaim
  have hmodels := (hclaim (history declining) (allUsable declining) 8 0 0 1 declining [1, 2, 3, 4]
    ⟨rfl, rfl⟩ rfl (by decide +kernel) rfl).1
  have hdrift : forecastAt naiveDrift (history declining) (allUsable declining) 8 [1, 2, 3, 4] 0 0 =
      some (-1) := by decide +kernel
  have hnonneg := hmodels naiveDrift (by rw [defaultModels_eq]; simp) (-1) hdrift
  exact absurd hnonneg (by decide)

end Restock.Audit.Selection
