import Restock.Audit.CrostonModels
import Restock.Audit.SmoothingModels

/-!
# Missing weeks are invisible

Each model deals with missing weeks, with its first values and with its masks in its own way, over
arrays that hold all series. What it forecasts of a series is made of the usable values of that
series in their order and of nothing else; and the models of intermittent demand stay within its
demand.

* `SeesValuesOnly` — neither the places of the missing weeks nor the other series matter;
* `ForecastsBy.seesValuesOnly` — what forecasts by a rule sees no more;
* `MissingInvisible`, `IntermittentBounded` — what is said of the models;
* `missingInvisible_and_bounded` — it holds.
-/

namespace Restock.Audit.Selection

/-- Two series of two batches with the same usable values have the same forecasts. -/
def SeesValuesOnly (model : BatchModel) : Prop :=
  ∀ (y y' : Grid (Option ℚ)) (usable usable' : Grid Bool) (origin origin' : ℕ),
    Aligned y usable origin → Aligned y' usable' origin' →
    ∀ (i i' : ℕ) (values : List ℚ), (usableValues y usable)[i]? = some values →
      (usableValues y' usable')[i']? = some values → ∀ horizons : List ℕ,
      (model.fitPredict y usable origin horizons)[i]? =
        (model.fitPredict y' usable' origin' horizons)[i']?

theorem ForecastsBy.seesValuesOnly {model : BatchModel} {rule : List ℚ → ℕ → Option ℚ}
    (h : ForecastsBy model rule) : SeesValuesOnly model := by
  intro y y' usable usable' origin origin' haligned haligned' i i' values hvalues hvalues' horizons
  rw [h.row haligned hvalues, h.row haligned' hvalues']

/-- The models for which missing weeks are invisible, with any parameters. -/
structure MissingInvisible (n window : ℤ) (capMultiple : ℚ) (minWeeks : ℤ)
    (alphaBounds : ℚ × ℚ) (nGrid : ℕ) (alpha alphaP alphaZ : ℚ) : Prop where
  naiveLast : SeesValuesOnly naiveLast
  naiveDrift : SeesValuesOnly naiveDrift
  movingAverage : SeesValuesOnly (movingAverage n)
  medianWinsorized : SeesValuesOnly (medianWinsorized window capMultiple minWeeks)
  ses : SeesValuesOnly (ses alphaBounds nGrid)
  theta : SeesValuesOnly (theta alphaBounds nGrid)
  crostonSBA : SeesValuesOnly (crostonSBA alpha)
  tsb : SeesValuesOnly (tsb alphaP alphaZ)

/-- What is said of the intermittent forecasts of a series with enough usable values: they are flat
and bounded by its largest demand, and after weeks without demand they shrink or stay. -/
structure IntermittentBounded (alpha alphaP alphaZ : ℚ) (y : Grid (Option ℚ)) (usable : Grid Bool)
    (origin i : ℕ) (values : List ℚ) (horizons : List ℕ) : Prop where
  croston_le : ∀ top, IsGreatest {d | d ∈ values ∧ 0 < d} top →
    ∃ f, ((crostonSBA alpha).fitPredict y usable origin horizons)[i]? =
      some (horizons.map fun _ => some f) ∧ 0 < f ∧ f ≤ (1 - alpha / 2) * top
  tsb_le : ∀ top, IsGreatest {d | d ∈ values ∧ 0 < d} top →
    ∃ f, ((tsb alphaP alphaZ).fitPredict y usable origin horizons)[i]? =
      some (horizons.map fun _ => some f) ∧ 0 ≤ f ∧ f ≤ top
  croston_zeros : ∀ (y' : Grid (Option ℚ)) (usable' : Grid Bool) (origin' i' m : ℕ),
    Aligned y' usable' origin' →
    (usableValues y' usable')[i']? = some (values ++ List.replicate m 0) →
    ((crostonSBA alpha).fitPredict y' usable' origin' horizons)[i']? =
      ((crostonSBA alpha).fitPredict y usable origin horizons)[i]?
  tsb_zeros : ∀ (y' : Grid (Option ℚ)) (usable' : Grid Bool) (origin' i' m : ℕ),
    Aligned y' usable' origin' →
    (usableValues y' usable')[i']? = some (values ++ List.replicate m 0) →
    ((tsb alphaP alphaZ).fitPredict y' usable' origin' horizons)[i']? =
      ((tsb alphaP alphaZ).fitPredict y usable origin horizons)[i]?.map
        (List.map (Option.map fun f => (1 - alphaP) ^ m * f))

/-- The largest demand is a bound of all values. -/
theorem le_of_isGreatest {values : List ℚ} {top : ℚ}
    (h : IsGreatest {d | d ∈ values ∧ 0 < d} top) : ∀ y ∈ values, y ≤ top := by
  intro y hy
  by_cases hpos : 0 < y
  · exact h.2 ⟨hy, hpos⟩
  · exact (not_lt.mp hpos).trans h.1.2.le

theorem intermittentBounded {alpha alphaP alphaZ : ℚ} (halpha : 0 ≤ alpha ∧ alpha ≤ 1)
    (halphaP : 0 ≤ alphaP ∧ alphaP ≤ 1) (halphaZ : 0 ≤ alphaZ ∧ alphaZ ≤ 1)
    {y : Grid (Option ℚ)} {usable : Grid Bool} {origin : ℕ} (haligned : Aligned y usable origin)
    {i : ℕ} {values : List ℚ} (hvalues : (usableValues y usable)[i]? = some values)
    (henough : 13 ≤ values.length) (horizons : List ℕ) :
    IntermittentBounded alpha alphaP alphaZ y usable origin i values horizons where
  croston_le top htop := by
    obtain ⟨f, hf, hpos, hle⟩ := crostonOf_le halpha.1 halpha.2 henough ⟨top, htop.1⟩
      (le_of_isGreatest htop) 0
    refine ⟨f, ?_, hpos, hle⟩
    rw [(crostonSBA_forecastsBy alpha).row haligned hvalues]
    exact congrArg some (List.map_congr_left fun h _ => hf)
  tsb_le top htop := by
    obtain ⟨f, hf, hpos, hle⟩ := tsbOf_le halphaP.1 halphaP.2 halphaZ.1 halphaZ.2 henough
      (le_of_isGreatest htop) htop.1.2.le 0
    refine ⟨f, ?_, hpos, hle⟩
    rw [(tsb_forecastsBy alphaP alphaZ).row haligned hvalues]
    exact congrArg some (List.map_congr_left fun h _ => hf)
  croston_zeros y' usable' origin' i' m haligned' hvalues' := by
    rw [(crostonSBA_forecastsBy alpha).row haligned hvalues,
      (crostonSBA_forecastsBy alpha).row haligned' hvalues']
    exact congrArg some (List.map_congr_left fun h _ => crostonOf_zeros alpha henough m h)
  tsb_zeros y' usable' origin' i' m haligned' hvalues' := by
    rw [(tsb_forecastsBy alphaP alphaZ).row haligned hvalues,
      (tsb_forecastsBy alphaP alphaZ).row haligned' hvalues', Option.map_some, List.map_map]
    exact congrArg some (List.map_congr_left fun h _ => tsbOf_zeros alphaP alphaZ henough m h)

/-- Missing weeks and other series are invisible to the models, and with enough usable values the
intermittent forecasts are bounded by the largest demand. -/
theorem missingInvisible_and_bounded (n window : ℤ) (capMultiple : ℚ) (minWeeks : ℤ)
    (alphaBounds : ℚ × ℚ) (nGrid : ℕ) {alpha alphaP alphaZ : ℚ} (halpha : 0 ≤ alpha ∧ alpha ≤ 1)
    (halphaP : 0 ≤ alphaP ∧ alphaP ≤ 1) (halphaZ : 0 ≤ alphaZ ∧ alphaZ ≤ 1) :
    MissingInvisible n window capMultiple minWeeks alphaBounds nGrid alpha alphaP alphaZ ∧
      ∀ (y : Grid (Option ℚ)) (usable : Grid Bool) (origin : ℕ), Aligned y usable origin →
      ∀ (i : ℕ) (values : List ℚ), (usableValues y usable)[i]? = some values →
        13 ≤ values.length → ∀ horizons : List ℕ,
        IntermittentBounded alpha alphaP alphaZ y usable origin i values horizons :=
  ⟨{ naiveLast := naiveLast_forecastsBy.seesValuesOnly
     naiveDrift := naiveDrift_forecastsBy.seesValuesOnly
     movingAverage := (movingAverage_forecastsBy n).seesValuesOnly
     medianWinsorized :=
      (medianWinsorized_forecastsBy window capMultiple minWeeks).seesValuesOnly
     ses := (ses_forecastsBy alphaBounds nGrid).seesValuesOnly
     theta := (theta_forecastsBy alphaBounds nGrid).seesValuesOnly
     crostonSBA := (crostonSBA_forecastsBy alpha).seesValuesOnly
     tsb := (tsb_forecastsBy alphaP alphaZ).seesValuesOnly },
    fun _ _ _ haligned _ _ hvalues henough horizons =>
      intermittentBounded halpha halphaP halphaZ haligned hvalues henough horizons⟩

/-- A batch of two series, one of which misses a week. -/
def gappyBatch : Grid (Option ℚ) :=
  [[some 0, some 3, none, some 0, some 0, some 5, some 0, some 2, some 0, some 0, some 0, some 1,
    some 4, some 0],
   List.replicate 14 (some 1)]

/-- Its weeks are all usable, with the smoothing constants of the registry. -/
theorem missingInvisible_and_bounded_gappy :
    MissingInvisible 4 13 2 6 (1 / 20, 2 / 5) 8 (1 / 10) (1 / 10) (1 / 10) ∧
      IntermittentBounded (1 / 10) (1 / 10) (1 / 10) gappyBatch
        [List.replicate 14 true, List.replicate 14 true] 14 0
        [0, 3, 0, 0, 5, 0, 2, 0, 0, 0, 1, 4, 0] [1, 2, 3, 4] :=
  have htenth : (0 : ℚ) ≤ 1 / 10 ∧ (1 / 10 : ℚ) ≤ 1 := by norm_num
  have h := missingInvisible_and_bounded 4 13 2 6 (1 / 20, 2 / 5) 8 htenth htenth htenth
  ⟨h.1, h.2 gappyBatch [List.replicate 14 true, List.replicate 14 true] 14 ⟨rfl, rfl⟩ 0 _ rfl
    (by decide) [1, 2, 3, 4]⟩

end Restock.Audit.Selection
