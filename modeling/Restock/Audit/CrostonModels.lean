import Restock.Audit.NaiveModels
import Restock.Series.Averages

/-!
# The models of intermittent demand

`models/intermittent.py`. A week with a value above zero is one of demand. Croston smooths the sizes
of the demands and the weeks between them; TSB smooths the sizes and the chance of a demand.

* `crostonStep`, `crostonSBA`, `tsbStep`, `tsb` — the models M8 and M9;
* `crostonOf`, `tsbOf` — their rules;
* `crostonOf_le`, `tsbOf_le` — bounds of their forecasts;
* `crostonOf_zeros`, `tsbOf_zeros` — the forecasts after weeks without demand.
-/

namespace Restock.Audit.Selection

open Series (smooth smoothed sweep)

/-! ## M8 -/

/-- The arrays of `CrostonSBA` at a series. -/
structure CrostonState where
  /-- `z` and `p`, the size of a demand and the weeks to it; nothing before the first. -/
  demand : Option (ℚ × ℚ) := none
  /-- `q`: usable weeks since the last demand. -/
  q : ℚ := 0
  deriving DecidableEq, Repr

/-- A week of `CrostonSBA`. -/
def crostonStep (alpha : ℚ) (s : CrostonState) (y : Option ℚ) : CrostonState :=
  match y with
  | none => s
  | some y =>
      let q := s.q + 1
      if 0 < y then
        match s.demand with
        | none => { demand := some (y, q), q := 0 }
        | some (z, p) => { demand := some (smooth alpha z y, smooth alpha p q), q := 0 }
      else { s with q := q }

/-- The forecast of a series without demand is zero. -/
def CrostonState.forecast (alpha : ℚ) (s : CrostonState) : ℚ :=
  s.demand.elim 0 fun demand => demand.1 / demand.2 * (1 - alpha / 2)

/-- `CrostonSBA`. -/
def crostonSBA (alpha : ℚ) : BatchModel :=
  fitted true
    (fun y usable origin =>
      withheld (insufficientHistory y usable 13)
        ((sweep {} (crostonStep alpha) (maskedHistory y usable) origin).map fun s =>
          some (s.forecast alpha)))
    fun pred _ => pred

/-- The state of a series after its values. -/
def crostonAfter (alpha : ℚ) (values : List ℚ) : CrostonState :=
  values.foldl (fun s y => crostonStep alpha s (some y)) {}

/-- The rule of M8. -/
def crostonOf (alpha : ℚ) (values : List ℚ) (_ : ℕ) : Option ℚ :=
  if (values.length : ℤ) < 13 then none else some ((crostonAfter alpha values).forecast alpha)

theorem crostonSBA_forecastsBy (alpha : ℚ) :
    ForecastsBy (crostonSBA alpha) (crostonOf alpha) :=
  forecastsBy_fitted (fun values => crostonOf alpha values 0)
    (fun y usable origin haligned => by
      rw [Series.sweep_eq_reduceOption (fun _ => rfl) haligned.length_row, List.map_map,
        List.map_map]
      exact withheld_reduceOption fun values => some ((crostonAfter alpha values).forecast alpha))
    fun _ _ => rfl

theorem crostonAfter_concat (alpha : ℚ) (values : List ℚ) (y : ℚ) :
    crostonAfter alpha (values ++ [y]) =
      crostonStep alpha (crostonAfter alpha values) (some y) := by
  rw [crostonAfter, List.foldl_append]
  rfl

/-- A week moves sizes towards a demand and intervals towards a whole number of weeks. -/
theorem crostonAfter_bounds {alpha top : ℚ} (h0 : 0 ≤ alpha) (h1 : alpha ≤ 1) (values : List ℚ)
    (htop : ∀ y ∈ values, y ≤ top) :
    0 ≤ (crostonAfter alpha values).q ∧
      (∀ demand ∈ (crostonAfter alpha values).demand,
        0 < demand.1 ∧ demand.1 ≤ top ∧ 1 ≤ demand.2) ∧
      ((∃ y ∈ values, 0 < y) → (crostonAfter alpha values).demand.isSome) := by
  induction values using List.reverseRecOn with
  | nil => simp [crostonAfter]
  | append_singleton values y ih =>
      obtain ⟨hq, hdemand, hsome⟩ := ih fun z hz => htop z (List.mem_append_left [y] hz)
      have hy : y ≤ top := htop y (by simp)
      rw [crostonAfter_concat, crostonStep]
      by_cases hpos : 0 < y
      · simp only [if_pos hpos]
        have hq1 : 1 ≤ (crostonAfter alpha values).q + 1 := by linarith
        -- the first demand sets the state, a later one moves it by the smoothing constant
        cases hstate : (crostonAfter alpha values).demand with
        | none => exact ⟨le_rfl, by simp [hpos, hy, hq1], by simp⟩
        | some demand =>
          obtain ⟨hz, hztop, hp⟩ := hdemand demand hstate
          refine ⟨le_rfl, ?_, by simp⟩
          rintro - ⟨⟩
          exact ⟨Series.smooth_pos h0 h1 hz hpos, Series.smooth_le h0 h1 hztop hy,
            Series.le_smooth h0 h1 hp hq1⟩
      · -- a week without demand only makes the interval longer
        simp only [if_neg hpos]
        refine ⟨by linarith, hdemand, ?_⟩
        rintro ⟨z, hz, hzpos⟩
        rcases List.mem_append.mp hz with hz | hz
        · exact hsome ⟨z, hz, hzpos⟩
        · exact absurd (List.mem_singleton.mp hz ▸ hzpos) hpos

/-- With enough values of which one is a demand, Croston's forecast is positive and, but for the
correction, at most the largest. -/
theorem crostonOf_le {alpha top : ℚ} (h0 : 0 ≤ alpha) (h1 : alpha ≤ 1) {values : List ℚ}
    (henough : 13 ≤ values.length) (hdemand : ∃ y ∈ values, 0 < y) (htop : ∀ y ∈ values, y ≤ top)
    (h : ℕ) : ∃ f, crostonOf alpha values h = some f ∧ 0 < f ∧ f ≤ (1 - alpha / 2) * top := by
  obtain ⟨-, hbounds, hsome⟩ := crostonAfter_bounds h0 h1 values htop
  obtain ⟨⟨z, p⟩, hstate⟩ := Option.isSome_iff_exists.mp (hsome hdemand)
  obtain ⟨hz, hztop, hp⟩ := hbounds (z, p) hstate
  have hcorrection : 0 < 1 - alpha / 2 := by linarith
  have hp0 : 0 < p := zero_lt_one.trans_le hp
  refine ⟨z / p * (1 - alpha / 2), ?_, mul_pos (div_pos hz hp0) hcorrection, ?_⟩
  · rw [crostonOf, if_neg (by omega), CrostonState.forecast, hstate]
    rfl
  · calc z / p * (1 - alpha / 2) ≤ z * (1 - alpha / 2) :=
          mul_le_mul_of_nonneg_right (div_le_self hz.le hp) hcorrection.le
      _ ≤ top * (1 - alpha / 2) := mul_le_mul_of_nonneg_right hztop hcorrection.le
      _ = (1 - alpha / 2) * top := mul_comm _ _

/-- Weeks without demand at the end do not change Croston's forecast. -/
theorem crostonOf_zeros (alpha : ℚ) {values : List ℚ} (henough : 13 ≤ values.length) (m h : ℕ) :
    crostonOf alpha (values ++ List.replicate m 0) h = crostonOf alpha values h := by
  have hdemand : (crostonAfter alpha (values ++ List.replicate m 0)).demand =
      (crostonAfter alpha values).demand := by
    induction m with
    | zero => rw [List.replicate_zero, List.append_nil]
    | succ m ih =>
        rw [List.replicate_succ', ← List.append_assoc, crostonAfter_concat, ← ih]
        simp [crostonStep]
  have hlength : ¬ ((values ++ List.replicate m 0).length : ℤ) < 13 := by
    rw [List.length_append]
    omega
  rw [crostonOf, crostonOf, if_neg hlength, if_neg (by omega), CrostonState.forecast,
    CrostonState.forecast, hdemand]

/-! ## M9 -/

/-- The arrays of `TSB` at a series: the chance of a demand, which is nothing before the first
usable week, and the size of one, which is nothing before the first. -/
structure TSBState where
  p : Option ℚ := none
  z : Option ℚ := none
  deriving DecidableEq, Repr

/-- A week of `TSB`. -/
def tsbStep (alphaP alphaZ : ℚ) (s : TSBState) (y : Option ℚ) : TSBState :=
  match y with
  | none => s
  | some y =>
      let d : ℚ := if 0 < y then 1 else 0
      { p := some (s.p.elim d fun p => smooth alphaP p d)
        z := if 0 < y then some (s.z.elim y fun z => smooth alphaZ z y) else s.z }

/-- The forecast of a series without demand is zero. -/
def TSBState.forecast (s : TSBState) : ℚ :=
  match s.p, s.z with
  | some p, some z => p * z
  | _, _ => 0

/-- `TSB`. -/
def tsb (alphaP alphaZ : ℚ) : BatchModel :=
  fitted true
    (fun y usable origin =>
      withheld (insufficientHistory y usable 13)
        ((sweep {} (tsbStep alphaP alphaZ) (maskedHistory y usable) origin).map fun s =>
          some s.forecast))
    fun pred _ => pred

/-- The state of a series after its values. -/
def tsbAfter (alphaP alphaZ : ℚ) (values : List ℚ) : TSBState :=
  values.foldl (fun s y => tsbStep alphaP alphaZ s (some y)) {}

/-- The rule of M9. -/
def tsbOf (alphaP alphaZ : ℚ) (values : List ℚ) (_ : ℕ) : Option ℚ :=
  if (values.length : ℤ) < 13 then none else some (tsbAfter alphaP alphaZ values).forecast

theorem tsb_forecastsBy (alphaP alphaZ : ℚ) :
    ForecastsBy (tsb alphaP alphaZ) (tsbOf alphaP alphaZ) :=
  forecastsBy_fitted (fun values => tsbOf alphaP alphaZ values 0)
    (fun y usable origin haligned => by
      rw [Series.sweep_eq_reduceOption (fun _ => rfl) haligned.length_row, List.map_map,
        List.map_map]
      exact withheld_reduceOption fun values => some (tsbAfter alphaP alphaZ values).forecast)
    fun _ _ => rfl

theorem tsbAfter_concat (alphaP alphaZ : ℚ) (values : List ℚ) (y : ℚ) :
    tsbAfter alphaP alphaZ (values ++ [y]) =
      tsbStep alphaP alphaZ (tsbAfter alphaP alphaZ values) (some y) := by
  rw [tsbAfter, List.foldl_append]
  rfl

/-- The chance stays one, and sizes move towards a demand. -/
theorem tsbAfter_bounds {alphaP alphaZ top : ℚ} (hP0 : 0 ≤ alphaP) (hP1 : alphaP ≤ 1)
    (hZ0 : 0 ≤ alphaZ) (hZ1 : alphaZ ≤ 1) (values : List ℚ) (htop : ∀ y ∈ values, y ≤ top) :
    (∀ p ∈ (tsbAfter alphaP alphaZ values).p, 0 ≤ p ∧ p ≤ 1) ∧
      ∀ z ∈ (tsbAfter alphaP alphaZ values).z, 0 < z ∧ z ≤ top := by
  induction values using List.reverseRecOn with
  | nil => simp [tsbAfter]
  | append_singleton values y ih =>
      obtain ⟨hp, hz⟩ := ih fun z hz => htop z (List.mem_append_left [y] hz)
      have hy : y ≤ top := htop y (by simp)
      rw [tsbAfter_concat, tsbStep]
      constructor
      · have hd0 : (0 : ℚ) ≤ if 0 < y then 1 else 0 := by split <;> norm_num
        have hd1 : (if 0 < y then (1 : ℚ) else 0) ≤ 1 := by split <;> norm_num
        rintro - ⟨⟩
        -- the chance moves towards zero or one in every week
        cases hstate : (tsbAfter alphaP alphaZ values).p with
        | none => exact ⟨hd0, hd1⟩
        | some p =>
          obtain ⟨h0, h1⟩ := hp p hstate
          exact ⟨Series.le_smooth hP0 hP1 h0 hd0, Series.smooth_le hP0 hP1 h1 hd1⟩
      · by_cases hpos : 0 < y
        · simp only [if_pos hpos]
          rintro - ⟨⟩
          cases hstate : (tsbAfter alphaP alphaZ values).z with
          | none => exact ⟨hpos, hy⟩
          | some z =>
            obtain ⟨h0, h1⟩ := hz z hstate
            exact ⟨Series.smooth_pos hZ0 hZ1 h0 hpos, Series.smooth_le hZ0 hZ1 h1 hy⟩
        · simpa only [if_neg hpos] using hz

/-- With enough values TSB's forecast lies between zero and any bound of them that is not
negative. -/
theorem tsbOf_le {alphaP alphaZ top : ℚ} (hP0 : 0 ≤ alphaP) (hP1 : alphaP ≤ 1)
    (hZ0 : 0 ≤ alphaZ) (hZ1 : alphaZ ≤ 1) {values : List ℚ} (henough : 13 ≤ values.length)
    (htop : ∀ y ∈ values, y ≤ top) (htop0 : 0 ≤ top) (h : ℕ) :
    ∃ f, tsbOf alphaP alphaZ values h = some f ∧ 0 ≤ f ∧ f ≤ top := by
  obtain ⟨hp, hz⟩ := tsbAfter_bounds hP0 hP1 hZ0 hZ1 values htop
  refine ⟨(tsbAfter alphaP alphaZ values).forecast, by rw [tsbOf, if_neg (by omega)], ?_⟩
  rw [TSBState.forecast]
  split
  · next p z hpstate hzstate =>
    obtain ⟨hp0, hp1⟩ := hp p hpstate
    obtain ⟨hz0, hztop⟩ := hz z hzstate
    exact ⟨mul_nonneg hp0 hz0.le, (mul_le_of_le_one_left hz0.le hp1).trans hztop⟩
  · exact ⟨le_rfl, htop0⟩

/-- Weeks without demand at the end shrink TSB's forecast by the same share each. -/
theorem tsbOf_zeros (alphaP alphaZ : ℚ) {values : List ℚ} (henough : 13 ≤ values.length)
    (m h : ℕ) :
    tsbOf alphaP alphaZ (values ++ List.replicate m 0) h =
      (tsbOf alphaP alphaZ values h).map fun f => (1 - alphaP) ^ m * f := by
  obtain ⟨p, hp⟩ : ∃ p, (tsbAfter alphaP alphaZ values).p = some p := by
    have hne : values ≠ [] := by
      rintro rfl
      simp at henough
    rw [← List.dropLast_append_getLast hne, tsbAfter_concat]
    exact ⟨_, rfl⟩
  have hstate : tsbAfter alphaP alphaZ (values ++ List.replicate m 0) =
      { p := some (smoothed alphaP p (List.replicate m 0))
        z := (tsbAfter alphaP alphaZ values).z } := by
    induction m with
    | zero => rw [List.replicate_zero, List.append_nil, smoothed, List.foldl_nil, ← hp]
    | succ m ih =>
        rw [List.replicate_succ', ← List.append_assoc, tsbAfter_concat, ih, tsbStep, smoothed,
          smoothed, List.foldl_append]
        simp
  have hlength : ¬ ((values ++ List.replicate m 0).length : ℤ) < 13 := by
    rw [List.length_append]
    omega
  rw [tsbOf, tsbOf, if_neg hlength, if_neg (by omega), hstate, Series.smoothed_zeros,
    Option.map_some, TSBState.forecast, TSBState.forecast, hp]
  cases (tsbAfter alphaP alphaZ values).z with
  | none => simp
  | some z => simp only [mul_assoc]

end Restock.Audit.Selection
