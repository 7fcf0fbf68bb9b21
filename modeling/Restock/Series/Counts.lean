import Mathlib.Analysis.Analytic.Binomial
import Mathlib.Probability.Distributions.Poisson.Basic

/-!
# Quantiles of a count distribution

A distribution of counts told by its mass at zero and the ratios of the masses of neighbours, and
the loop that adds masses up until they reach a level or a cap on the counts is met. The Poisson and
the negative binomial distribution are commonly made one mass from the other.

* `mass`, `cumulative` — the distribution;
* `quantileFrom`, `quantile` — the loop;
* `quantile_le_iff` — a count is no less than the quantile when it is no less than the cap, or the
  level is reached up to it;
* `quantile_eq_cap_or_isLeast` — the quantile is the cap or the least count that reaches the level;
* `quantile_mono` — a higher level has no lower quantile;
* `mass_poisson` — the ratios of the Poisson distribution;
* `negBinomialMass`, `mass_negBinomial` — the negative binomial distribution and its ratios;
* `negBinomialMass_nonneg`, `hasSum_negBinomialMass` — that it is a distribution.
-/

namespace Series

/-! ## Quantiles -/

section Quantiles

variable {K : Type} [Field K] [LinearOrder K]

section Defs

variable (start : K) (ratio : ℕ → K)

/-- The mass of a count. -/
def mass : ℕ → K
  | 0 => start
  | k + 1 => mass k * ratio (k + 1)

/-- The mass of the counts up to some count. -/
def cumulative (k : ℕ) : K :=
  ∑ i ∈ Finset.range (k + 1), mass start ratio i

/-- The loop, from a count on: the first count at which the sum of the masses reaches the level; the
last one when it does not within `fuel` counts. -/
def quantileFrom (tau : K) : ℕ → ℕ → K → K → ℕ
  | 0, k, _, _ => k - 1
  | fuel + 1, k, pmf, cum =>
      let pmf := pmf * ratio k
      let cum := cum + pmf
      if tau ≤ cum then k else quantileFrom tau fuel (k + 1) pmf cum

/-- The whole loop, which looks at zero first. -/
def quantile (tau : K) (cap : ℕ) : ℕ :=
  if tau ≤ start then 0 else quantileFrom ratio tau cap 1 start start

end Defs

variable (start : K) (ratio : ℕ → K) (tau : K) (cap : ℕ)

omit [LinearOrder K] in
theorem cumulative_succ (k : ℕ) :
    cumulative start ratio (k + 1) = cumulative start ratio k + mass start ratio (k + 1) :=
  Finset.sum_range_succ _ _

omit [LinearOrder K] in
@[simp] theorem cumulative_zero : cumulative start ratio 0 = start := by
  rw [cumulative, Finset.sum_range_one, mass]

/-- What the loop finds from a count on, when the running term is the mass of the count before and
the running sum is what the masses come to. -/
theorem quantileFrom_le_iff (fuel k m : ℕ) :
    quantileFrom ratio tau fuel (k + 1) (mass start ratio k) (cumulative start ratio k) ≤ m ↔
      k + fuel ≤ m ∨ ∃ j, k < j ∧ j ≤ m ∧ tau ≤ cumulative start ratio j := by
  induction fuel generalizing k with
  | zero =>
      rw [quantileFrom, Nat.add_sub_cancel, Nat.add_zero]
      constructor
      · exact Or.inl
      · rintro (h | ⟨j, hj, hjm, -⟩)
        · exact h
        · omega
  | succ fuel ih =>
      rw [quantileFrom]
      -- the terms stay the mass and the sum at the next count
      have hmass : mass start ratio k * ratio (k + 1) = mass start ratio (k + 1) := rfl
      rw [hmass, ← cumulative_succ]
      split
      case isTrue hreached =>
          constructor
          · intro h
            exact Or.inr ⟨k + 1, Nat.lt_succ_self k, h, hreached⟩
          · rintro (h | ⟨j, hj, hjm, -⟩) <;> omega
      case isFalse hshort =>
          rw [ih, Nat.add_right_comm, Nat.add_assoc k fuel 1]
          refine or_congr_right ⟨?_, ?_⟩
          · rintro ⟨j, hj, hrest⟩
            exact ⟨j, Nat.lt_of_succ_lt hj, hrest⟩
          · rintro ⟨j, hj, hjm, hreached⟩
            have hne : j ≠ k + 1 := fun h => hshort (h ▸ hreached)
            exact ⟨j, by omega, hjm, hreached⟩

/-- The counts that are no less than the quantile. -/
theorem quantile_le_iff (m : ℕ) :
    quantile start ratio tau cap ≤ m ↔
      cap ≤ m ∨ ∃ j ≤ m, tau ≤ cumulative start ratio j := by
  rw [quantile]
  split
  case isTrue hzero =>
      refine iff_of_true (Nat.zero_le m) (Or.inr ⟨0, Nat.zero_le m, ?_⟩)
      rwa [cumulative_zero]
  case isFalse hshort =>
      have h := quantileFrom_le_iff start ratio tau cap 0 m
      rw [cumulative_zero, Nat.zero_add 1, Nat.zero_add cap] at h
      refine h.trans (or_congr_right ⟨?_, ?_⟩)
      · rintro ⟨j, -, hrest⟩
        exact ⟨j, hrest⟩
      · rintro ⟨j, hjm, hreached⟩
        refine ⟨j, Nat.pos_of_ne_zero ?_, hjm, hreached⟩
        rintro rfl
        exact hshort (cumulative_zero start ratio ▸ hreached)

/-- The quantile is the cap, or the least count at which the distribution reaches the level. -/
theorem quantile_eq_cap_or_isLeast :
    quantile start ratio tau cap = cap ∨
      IsLeast {k | tau ≤ cumulative start ratio k} (quantile start ratio tau cap) := by
  rcases (quantile_le_iff start ratio tau cap _).mp le_rfl with hcap | ⟨j, hj, hreached⟩
  · exact Or.inl (le_antisymm ((quantile_le_iff start ratio tau cap _).mpr (Or.inl le_rfl)) hcap)
  · have hleast : ∀ k, tau ≤ cumulative start ratio k → quantile start ratio tau cap ≤ k :=
      fun k hk => (quantile_le_iff start ratio tau cap k).mpr (Or.inr ⟨k, le_rfl, hk⟩)
    refine Or.inr ⟨?_, fun k hk => hleast k hk⟩
    show tau ≤ cumulative start ratio (quantile start ratio tau cap)
    rwa [← le_antisymm hj (hleast j hreached)]

variable {tau} in
/-- A higher level has no lower quantile. -/
theorem quantile_mono {tau' : K} (h : tau ≤ tau') :
    quantile start ratio tau cap ≤ quantile start ratio tau' cap := by
  rw [quantile_le_iff]
  refine ((quantile_le_iff start ratio tau' cap _).mp le_rfl).imp_right ?_
  rintro ⟨j, hj, hreached⟩
  exact ⟨j, hj, h.trans hreached⟩

end Quantiles

/-! ## The Poisson and the negative binomial distribution -/

section Distributions

open ProbabilityTheory (poissonMeasure poissonMeasure_real_singleton)
open scoped NNReal Nat

/-- The masses of the Poisson distribution, one from the other. -/
theorem mass_poisson (mean : ℝ≥0) (k : ℕ) :
    mass (Real.exp (-mean)) (fun k => (mean : ℝ) / k) k = (poissonMeasure mean).real {k} := by
  rw [poissonMeasure_real_singleton]
  induction k with
  | zero => rw [mass, pow_zero, mul_one, Nat.factorial_zero, Nat.cast_one, div_one]
  | succ k ih =>
      rw [mass, ih, pow_succ, Nat.factorial_succ, Nat.cast_mul]
      have hfactorial : (k ! : ℝ) ≠ 0 := Nat.cast_ne_zero.mpr (Nat.factorial_ne_zero k)
      have hsucc : ((k + 1 : ℕ) : ℝ) ≠ 0 := Nat.cast_ne_zero.mpr (Nat.succ_ne_zero k)
      field_simp

/-- The mass of a count in the negative binomial distribution, of the failures before the `r`-th
success of probability `p`, for any size `r`. -/
noncomputable def negBinomialMass (r p : ℝ) (k : ℕ) : ℝ :=
  Ring.choose (r + k - 1) k * p ^ r * (1 - p) ^ k

/-- The generalised binomial coefficients, one from the other. -/
theorem choose_succ_eq (r : ℝ) (k : ℕ) :
    Ring.choose (r + (k + 1 : ℕ) - 1) (k + 1) =
      Ring.choose (r + k - 1) k * ((k + r) / (k + 1 : ℕ)) := by
  have hrising : ∀ n : ℕ, (n ! : ℝ) * Ring.choose (r + n - 1) n =
      (ascPochhammer ℝ n).eval r := by
    intro n
    rw [← Ring.multichoose_eq, ← nsmul_eq_mul, Ring.factorial_nsmul_multichoose_eq_ascPochhammer,
      Polynomial.ascPochhammer_smeval_eq_eval]
  have hk := hrising k
  have hsucc := hrising (k + 1)
  rw [ascPochhammer_succ_eval, ← hk, Nat.factorial_succ, Nat.cast_mul] at hsucc
  have hfactorial : (k ! : ℝ) ≠ 0 := Nat.cast_ne_zero.mpr (Nat.factorial_ne_zero k)
  have hne : ((k + 1 : ℕ) : ℝ) ≠ 0 := Nat.cast_ne_zero.mpr (Nat.succ_ne_zero k)
  rw [← mul_div_assoc, eq_div_iff hne]
  refine mul_left_cancel₀ hfactorial ?_
  linear_combination hsucc

/-- The masses of the negative binomial distribution, one from the other. -/
theorem mass_negBinomial (r p : ℝ) (k : ℕ) :
    mass (p ^ r) (fun k => ((k : ℝ) - 1 + r) / k * (1 - p)) k = negBinomialMass r p k := by
  induction k with
  | zero =>
      rw [mass, negBinomialMass, Ring.choose_zero_right, pow_zero, one_mul, mul_one]
  | succ k ih =>
      rw [mass, ih, negBinomialMass, negBinomialMass, choose_succ_eq, pow_succ]
      push_cast
      ring

/-- The masses of the negative binomial distribution are not negative. -/
theorem negBinomialMass_nonneg {r p : ℝ} (hr : 0 ≤ r) (hp : 0 ≤ p) (hp1 : p ≤ 1) (k : ℕ) :
    0 ≤ negBinomialMass r p k := by
  rw [← mass_negBinomial]
  induction k with
  | zero => exact Real.rpow_nonneg hp r
  | succ k ih =>
      refine mul_nonneg ih (mul_nonneg (div_nonneg ?_ (Nat.cast_nonneg _)) (sub_nonneg.mpr hp1))
      push_cast
      linarith [(Nat.cast_nonneg k : (0 : ℝ) ≤ k)]

/-- The masses of the negative binomial distribution sum to one. -/
theorem hasSum_negBinomialMass (r : ℝ) {p : ℝ} (hp : 0 < p) (hp1 : p < 1) :
    HasSum (negBinomialMass r p) 1 := by
  -- the binomial series at `1 - p`
  have hball : (1 - p) ∈ Metric.eball (0 : ℝ) 1 := by
    rw [Metric.mem_eball, edist_zero_right, ← ofReal_norm, Real.norm_eq_abs,
      ENNReal.ofReal_lt_one, abs_lt]
    constructor <;> linarith
  have hseries := (Real.one_div_one_sub_rpow_hasFPowerSeriesOnBall_zero r).hasSum hball
  simp only [FormalMultilinearSeries.ofScalars_apply_eq, smul_eq_mul, zero_add,
    sub_sub_cancel] at hseries
  have hne : p ^ r ≠ 0 := (Real.rpow_pos_of_pos hp r).ne'
  have hscaled := hseries.mul_left (p ^ r)
  rw [mul_one_div_cancel hne] at hscaled
  refine hscaled.congr_fun fun k => ?_
  rw [negBinomialMass]
  ring

end Distributions

end Series
