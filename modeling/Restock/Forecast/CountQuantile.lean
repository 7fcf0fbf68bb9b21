import Restock.Forecast.Reorder
import Restock.Series.Counts

/-!
# The calibrated cover in exact arithmetic

`calibrated-quantile.ts` adds up the masses of a count distribution, each made from the one before,
until they reach a service level. Over the real numbers, with their root, exponential and power, the
masses are those of the Poisson or the negative binomial distribution.

* `Elementary` — the functions of the language over a field of numbers;
* `countQuantileOver`, `calibratedCoverOver` — the code over any such field, with all its options;
* `countQuantileOver_elementary`, `calibratedCoverOver_elementary` — over the rational numbers, it
  is what order sizing uses;
* `countMass`, `countMass_isDistribution` — the distribution over the real numbers;
* `countQuantile_isQuantile` — the quantile is true and the cover monotone.
-/

namespace Restock.Forecast

open ProbabilityTheory (poissonMeasure)
open Series

/-- The functions of the language that are used, over a field of numbers. -/
structure Elementary (K : Type) where
  /-- `Math.sqrt`. -/
  sqrt : K → K
  /-- `Math.exp`. -/
  exp : K → K
  /-- `Math.pow`. -/
  pow : K → K → K

/-- The functions of exact arithmetic. -/
noncomputable def Elementary.real : Elementary ℝ where
  sqrt := Real.sqrt
  exp := Real.exp
  pow x y := x ^ y

/-- The functions of the language over the rational numbers. -/
def Js.elementary (js : Js) : Elementary ℚ where
  sqrt := js.sqrt
  exp := js.exp
  pow := js.pow

/-! ## The code -/

/-- `CalibratedCoverInput`. -/
structure CalibratedCoverInput (K : Type) where
  dailyMean : K
  dailyVar : K
  horizonDays : K
  tau : K
  dispersionFloor : Option K := none
  biasFactor : Option K := none

section Code

variable {K : Type} [Field K] [LinearOrder K] [FloorRing K] (f : Elementary K)

/-- `cap`, the backstop of the loop. -/
def countCap (mean variance : K) : ℕ :=
  ⌈mean + 50 * f.sqrt (max variance mean) + 100⌉.toNat

/-- `countQuantile`. -/
def countQuantileOver (mean variance tau : K) : ℕ :=
  if mean ≤ 1 / 10 ^ 9 ∨ tau ≤ 0 then 0
  else
    let tau := if 1 ≤ tau then 999999 / 1000000 else tau
    let v := max variance mean
    let cap := countCap f mean variance
    if v ≤ mean * (1 + 1 / 10 ^ 6) then
      quantile (f.exp (-mean)) (fun k => mean / k) tau cap
    else
      let r := mean * mean / (v - mean)
      let prob := r / (r + mean)
      quantile (f.pow prob r) (fun k => (k - 1 + r) / k * (1 - prob)) tau cap

/-- `calibratedCover`. -/
def calibratedCoverOver (opts : CalibratedCoverInput K) : ℕ :=
  let bias := opts.biasFactor.getD 1
  let h := max 1 opts.horizonDays
  let dailyMean := max 0 (opts.dailyMean * bias)
  if dailyMean ≤ 1 / 10 ^ 9 then 0
  else
    let idFloor := opts.dispersionFloor.getD (15 / 10)
    let dailyVar := max opts.dailyVar (dailyMean * idFloor)
    countQuantileOver f (dailyMean * h) (dailyVar * h) opts.tau

/-- The quantile does not go down with the level. -/
theorem countQuantileOver_mono (mean variance : K) {tau tau' : K} (h : tau ≤ tau')
    (htau' : tau' < 1) :
    countQuantileOver f mean variance tau ≤ countQuantileOver f mean variance tau' := by
  by_cases hzero : mean ≤ 1 / 10 ^ 9 ∨ tau ≤ 0
  · rw [countQuantileOver, if_pos hzero]
    exact Nat.zero_le _
  · have hzero' : ¬ (mean ≤ 1 / 10 ^ 9 ∨ tau' ≤ 0) := fun h' =>
      hzero (h'.imp_right h.trans)
    rw [countQuantileOver, countQuantileOver, if_neg hzero, if_neg hzero',
      if_neg (not_le.mpr htau'), if_neg (not_le.mpr (h.trans_lt htau'))]
    dsimp only
    split
    · exact quantile_mono _ _ _ h
    · exact quantile_mono _ _ _ h

/-- The cover does not go down with the service level. -/
theorem calibratedCoverOver_mono (opts : CalibratedCoverInput K) {tau' : K} (h : opts.tau ≤ tau')
    (htau' : tau' < 1) :
    calibratedCoverOver f opts ≤ calibratedCoverOver f { opts with tau := tau' } := by
  dsimp only [calibratedCoverOver]
  split
  · exact le_rfl
  · exact countQuantileOver_mono f _ _ h htau'

end Code

/-! ## What order sizing uses -/

section Rational

variable (js : Js)

theorem quantileFrom_eq (ratio : ℕ → ℚ) (tau : ℚ) (fuel k : ℕ) (pmf cum : ℚ) :
    Series.quantileFrom ratio tau fuel k pmf cum =
      Forecast.quantileFrom ratio tau fuel k pmf cum := by
  induction fuel generalizing k pmf cum with
  | zero => rfl
  | succ fuel ih =>
      rw [Series.quantileFrom, Forecast.quantileFrom, ih]

theorem quantile_eq (start : ℚ) (ratio : ℕ → ℚ) (tau : ℚ) (cap : ℕ) :
    quantile start ratio tau cap = quantileOf start ratio tau cap := by
  rw [quantile, quantileOf, quantileFrom_eq]

/-- Over the rational numbers the quantile is the one of order sizing. -/
theorem countQuantileOver_elementary (mean variance tau : ℚ) :
    countQuantileOver js.elementary mean variance tau = countQuantile js mean variance tau := by
  rw [countQuantileOver, countQuantile]
  simp only [quantile_eq]
  rfl

/-- And so is the cover, for the options that order sizing leaves as they are. -/
theorem calibratedCoverOver_elementary (dailyMean dailyVar horizonDays tau : ℚ) :
    calibratedCoverOver js.elementary { dailyMean, dailyVar, horizonDays, tau } =
      calibratedCover js dailyMean dailyVar horizonDays tau := by
  dsimp only [calibratedCoverOver, calibratedCover]
  have hfloor : (15 / 10 : ℚ) = 3 / 2 := by norm_num
  rw [Option.getD_none, Option.getD_none, mul_one, hfloor, countQuantileOver_elementary]

end Rational

/-! ## Over the real numbers -/

section Real

/-- The mass of a count: Poisson when demand is not over-dispersed, else negative binomial, of the
size and the probability that match the moments. -/
noncomputable def countMass (mean variance : ℝ) (k : ℕ) : ℝ :=
  let v := max variance mean
  if v ≤ mean * (1 + 1 / 10 ^ 6) then (poissonMeasure mean.toNNReal).real {k}
  else
    let r := mean * mean / (v - mean)
    negBinomialMass r (r / (r + mean)) k

variable {mean variance tau : ℝ}

/-- The size and the probability of the negative binomial distribution. -/
theorem negBinomial_params (hmean : 0 < mean)
    (hover : ¬ max variance mean ≤ mean * (1 + 1 / 10 ^ 6)) :
    0 < mean * mean / (max variance mean - mean) ∧
      0 < mean * mean / (max variance mean - mean) /
        (mean * mean / (max variance mean - mean) + mean) ∧
      mean * mean / (max variance mean - mean) /
        (mean * mean / (max variance mean - mean) + mean) < 1 := by
  have hexcess : 0 < max variance mean - mean := by
    rw [not_le] at hover
    have hsmall : 0 < mean * (1 / 10 ^ 6) := by positivity
    linarith
  have hsize : 0 < mean * mean / (max variance mean - mean) :=
    div_pos (mul_pos hmean hmean) hexcess
  have htotal : 0 < mean * mean / (max variance mean - mean) + mean := add_pos hsize hmean
  exact ⟨hsize, div_pos hsize htotal, (div_lt_one htotal).mpr (lt_add_of_pos_right _ hmean)⟩

/-- The masses are those of a distribution. -/
theorem countMass_isDistribution (hmean : 0 < mean) (variance : ℝ) :
    (∀ k, 0 ≤ countMass mean variance k) ∧ HasSum (countMass mean variance) 1 := by
  by_cases hpoisson : max variance mean ≤ mean * (1 + 1 / 10 ^ 6)
  · have hmass : countMass mean variance =
        fun k => Real.exp (-mean.toNNReal) * mean.toNNReal ^ k / k.factorial := by
      funext k
      rw [countMass]
      dsimp only
      rw [if_pos hpoisson, ProbabilityTheory.poissonMeasure_real_singleton]
    rw [hmass]
    exact ⟨fun k => by positivity, ProbabilityTheory.hasSum_one_poissonMeasure _⟩
  · obtain ⟨hsize, hp, hp1⟩ := negBinomial_params hmean hpoisson
    have hmass : countMass mean variance = negBinomialMass
        (mean * mean / (max variance mean - mean))
        (mean * mean / (max variance mean - mean) /
          (mean * mean / (max variance mean - mean) + mean)) := by
      funext k
      rw [countMass]
      dsimp only
      rw [if_neg hpoisson]
    rw [hmass]
    exact ⟨negBinomialMass_nonneg hsize.le hp.le hp1.le, hasSum_negBinomialMass _ hp hp1⟩

/-- The quantile is the cap, or the least count at which the distribution reaches the level. -/
theorem countQuantileOver_real (hmean : 1 / 10 ^ 9 < mean) (variance : ℝ) (htau : 0 < tau)
    (htau1 : tau < 1) :
    countQuantileOver .real mean variance tau = countCap .real mean variance ∨
      IsLeast {k | tau ≤ ∑ i ∈ Finset.range (k + 1), countMass mean variance i}
        (countQuantileOver .real mean variance tau) := by
  have hpos : 0 < mean := lt_trans (by norm_num) hmean
  have hsmall : ¬ (mean ≤ 1 / 10 ^ 9 ∨ tau ≤ 0) := not_or.mpr ⟨not_le.mpr hmean, not_le.mpr htau⟩
  rw [countQuantileOver, if_neg hsmall, if_neg (not_le.mpr htau1)]
  dsimp only
  split
  case isTrue hpoisson =>
      -- the running term is the Poisson mass
      have hmass : ∀ k, countMass mean variance k =
          mass (Real.exp (-mean)) (fun k => mean / k) k := by
        intro k
        have h := mass_poisson mean.toNNReal k
        rw [Real.coe_toNNReal mean hpos.le] at h
        rw [h, countMass]
        exact if_pos hpoisson
      simp only [hmass]
      exact quantile_eq_cap_or_isLeast _ _ _ _
  case isFalse hover =>
      have hmass : ∀ k, countMass mean variance k =
          mass (((mean * mean / (max variance mean - mean)) /
            (mean * mean / (max variance mean - mean) + mean)) ^
              (mean * mean / (max variance mean - mean)))
            (fun k => ((k : ℝ) - 1 + mean * mean / (max variance mean - mean)) / k *
              (1 - (mean * mean / (max variance mean - mean)) /
                (mean * mean / (max variance mean - mean) + mean))) k := by
        intro k
        rw [mass_negBinomial, countMass]
        exact if_neg hover
      simp only [hmass]
      exact quantile_eq_cap_or_isLeast _ _ _ _

/-- **The calibrated cover is a true quantile, and monotone.** In exact arithmetic, for every mean
above the smallest one that is told from nothing, every variance and every service level between
zero and one, the quantile is its cap or the least count whose cumulative probability reaches the
level. For a smaller mean it is zero, and the cover never goes down with the service level. -/
theorem countQuantile_isQuantile (mean variance : ℝ) (opts : CalibratedCoverInput ℝ) {tau tau' : ℝ}
    (htau : 0 < tau) (hle : tau ≤ tau') (htau' : tau' < 1) :
    (mean ≤ 1 / 10 ^ 9 → countQuantileOver .real mean variance tau = 0) ∧
      (1 / 10 ^ 9 < mean →
        HasSum (countMass mean variance) 1 ∧
        (countQuantileOver .real mean variance tau = countCap .real mean variance ∨
          IsLeast {k | tau ≤ ∑ i ∈ Finset.range (k + 1), countMass mean variance i}
            (countQuantileOver .real mean variance tau))) ∧
      calibratedCoverOver .real { opts with tau } ≤
        calibratedCoverOver .real { opts with tau := tau' } := by
  refine ⟨fun hsmall => if_pos (Or.inl hsmall), fun hmean => ⟨?_, ?_⟩, ?_⟩
  · exact (countMass_isDistribution (lt_trans (by norm_num) hmean) variance).2
  · exact countQuantileOver_real hmean variance htau (hle.trans_lt htau')
  · exact calibratedCoverOver_mono .real { opts with tau } hle htau'

/-- Two a day with a variance of six, at ninety and at ninety-five per cent. -/
theorem countQuantile_isQuantile_two :
    ((2 : ℝ) ≤ 1 / 10 ^ 9 → countQuantileOver .real 2 6 (9 / 10) = 0) ∧
      ((1 / 10 ^ 9 : ℝ) < 2 →
        HasSum (countMass 2 6) 1 ∧
        (countQuantileOver .real 2 6 (9 / 10) = countCap .real 2 6 ∨
          IsLeast {k | (9 / 10 : ℝ) ≤ ∑ i ∈ Finset.range (k + 1), countMass 2 6 i}
            (countQuantileOver .real 2 6 (9 / 10)))) ∧
      calibratedCoverOver .real
          { dailyMean := 2, dailyVar := 6, horizonDays := 21, tau := (9 / 10 : ℝ) } ≤
        calibratedCoverOver .real
          { dailyMean := 2, dailyVar := 6, horizonDays := 21, tau := 95 / 100 } :=
  countQuantile_isQuantile 2 6 { dailyMean := 2, dailyVar := 6, horizonDays := 21, tau := 0 }
    (by norm_num) (by norm_num) (by norm_num)

/-- A billionth a day, at a level that zero does not reach: zero is the answer all the same. -/
theorem countQuantile_tinyMean :
    ¬ (countQuantileOver .real (1 / 10 ^ 9) 0 (1 - 1 / 10 ^ 10) = countCap .real (1 / 10 ^ 9) 0 ∨
      IsLeast {k | (1 - 1 / 10 ^ 10 : ℝ) ≤ ∑ i ∈ Finset.range (k + 1), countMass (1 / 10 ^ 9) 0 i}
        (countQuantileOver .real (1 / 10 ^ 9) 0 (1 - 1 / 10 ^ 10))) := by
  have hzero : countQuantileOver .real (1 / 10 ^ 9) 0 (1 - 1 / 10 ^ 10) = 0 :=
    if_pos (Or.inl le_rfl)
  rw [hzero]
  rintro (hcap | ⟨hreached, -⟩)
  · -- the cap is at least a hundred
    have hsqrt : 0 ≤ Real.sqrt (max 0 (1 / 10 ^ 9)) := Real.sqrt_nonneg _
    have hceil : (0 : ℤ) < ⌈(1 / 10 ^ 9 : ℝ) + 50 * Real.sqrt (max 0 (1 / 10 ^ 9)) + 100⌉ :=
      Int.ceil_pos.mpr (by positivity)
    have hcap : (0 : ℕ) = ⌈(1 / 10 ^ 9 : ℝ) + 50 * Real.sqrt (max 0 (1 / 10 ^ 9)) + 100⌉.toNat :=
      hcap
    omega
  · have hmass : countMass (1 / 10 ^ 9) 0 0 = Real.exp (-(1 / 10 ^ 9)) := by
      have hpoisson : max (0 : ℝ) (1 / 10 ^ 9) ≤ 1 / 10 ^ 9 * (1 + 1 / 10 ^ 6) := by norm_num
      rw [countMass]
      dsimp only
      rw [if_pos hpoisson, ProbabilityTheory.poissonMeasure_real_singleton,
        Real.coe_toNNReal _ (by norm_num), pow_zero, mul_one, Nat.factorial_zero, Nat.cast_one,
        div_one]
    have hreached : (1 - 1 / 10 ^ 10 : ℝ) ≤ Real.exp (-(1 / 10 ^ 9)) := by
      rw [← hmass, ← Finset.sum_range_one (countMass (1 / 10 ^ 9) 0)]
      exact hreached
    have hexp : (1 / 10 ^ 9 + 1 : ℝ) ≤ Real.exp (1 / 10 ^ 9) := Real.add_one_le_exp _
    have hone : Real.exp (-(1 / 10 ^ 9)) * Real.exp (1 / 10 ^ 9) = 1 := by
      rw [← Real.exp_add, neg_add_cancel, Real.exp_zero]
    have hprod : (1 - 1 / 10 ^ 10 : ℝ) * (1 / 10 ^ 9 + 1) ≤
        Real.exp (-(1 / 10 ^ 9)) * Real.exp (1 / 10 ^ 9) :=
      mul_le_mul hreached hexp (by norm_num) (Real.exp_pos _).le
    rw [hone] at hprod
    norm_num at hprod

end Real

end Restock.Forecast
